import Mathlib.Data.List.Infix
import Mathlib.Tactic.TypeStar

/-!
# Patterns and the marks that replace them

A pattern is a regular expression whose alternatives are sequences of single, optional and
repeated symbols, behind a test of the symbol before and the first symbol.  A backtracking
matcher prefers earlier alternatives and longer repetitions; `remainders` lists what it can
leave of a text, the preferred first.  A scan takes a text apart into symbols that are kept
and words that are matched, and a substitution puts a mark in the place of each word.
-/

namespace Era.Lib.Pattern

variable {α : Type*}

/-! ## Words -/

inductive Segment (α : Type*) where
  | one (accepts : α → Bool)
  | optional (accepts : α → Bool)
  /-- At least so many. -/
  | many (least : Nat) (accepts : α → Bool)

def Segment.accepts : Segment α → α → Bool
  | .one accepts | .optional accepts | .many _ accepts => accepts

/-- The words of a sequence of parts. -/
def Reads : List (Segment α) → List α → Prop
  | [], word => word = []
  | .one accepts :: parts, word =>
      ∃ symbol rest, word = symbol :: rest ∧ accepts symbol = true ∧ Reads parts rest
  | .optional accepts :: parts, word =>
      (∃ symbol rest, word = symbol :: rest ∧ accepts symbol = true ∧ Reads parts rest) ∨
        Reads parts word
  | .many least accepts :: parts, word =>
      ∃ run rest, word = run ++ rest ∧ least ≤ run.length ∧
        (∀ symbol ∈ run, accepts symbol = true) ∧ Reads parts rest

theorem reads_append {parts others : List (Segment α)} {word : List α} :
    Reads (parts ++ others) word ↔
      ∃ left right, word = left ++ right ∧ Reads parts left ∧ Reads others right := by
  induction parts generalizing word with
  | nil =>
      constructor
      · exact fun reads => ⟨[], word, rfl, rfl, reads⟩
      · rintro ⟨_, right, rfl, rfl, reads⟩
        exact reads
  | cons part parts ih =>
      have ahead (accepts : α → Bool) :
          (∃ symbol rest, word = symbol :: rest ∧ accepts symbol = true ∧
              Reads (parts ++ others) rest) ↔
            ∃ left right, word = left ++ right ∧ (∃ symbol rest, left = symbol :: rest ∧
              accepts symbol = true ∧ Reads parts rest) ∧ Reads others right := by
        constructor
        · rintro ⟨symbol, rest, rfl, accepted, reads⟩
          obtain ⟨left, right, rfl, ofParts, ofOthers⟩ := ih.mp reads
          exact ⟨symbol :: left, right, rfl, ⟨symbol, left, rfl, accepted, ofParts⟩, ofOthers⟩
        · rintro ⟨_, right, rfl, ⟨symbol, left, rfl, accepted, ofParts⟩, ofOthers⟩
          exact ⟨symbol, left ++ right, rfl, accepted, ih.mpr ⟨left, right, rfl, ofParts, ofOthers⟩⟩
      cases part with
      | one accepts => exact ahead accepts
      | optional accepts =>
          rw [List.cons_append, Reads, ahead accepts, ih]
          constructor
          · rintro (⟨left, right, equal, taken, ofOthers⟩ | ⟨left, right, equal, reads, ofOthers⟩)
            · exact ⟨left, right, equal, .inl taken, ofOthers⟩
            · exact ⟨left, right, equal, .inr reads, ofOthers⟩
          · rintro ⟨left, right, equal, taken | reads, ofOthers⟩
            · exact .inl ⟨left, right, equal, taken, ofOthers⟩
            · exact .inr ⟨left, right, equal, reads, ofOthers⟩
      | many least accepts =>
          constructor
          · rintro ⟨run, rest, rfl, enough, all, reads⟩
            obtain ⟨left, right, rfl, ofParts, ofOthers⟩ := ih.mp reads
            exact ⟨run ++ left, right, (List.append_assoc ..).symm,
              ⟨run, left, rfl, enough, all, ofParts⟩, ofOthers⟩
          · rintro ⟨_, right, rfl, ⟨run, left, rfl, enough, all, ofParts⟩, ofOthers⟩
            exact ⟨run, left ++ right, List.append_assoc .., enough, all,
              ih.mpr ⟨left, right, rfl, ofParts, ofOthers⟩⟩

/-- Every symbol of a word is accepted by some part. -/
theorem Reads.accepted {parts : List (Segment α)} {word : List α} (reads : Reads parts word)
    {symbol : α} (member : symbol ∈ word) : ∃ part ∈ parts, part.accepts symbol = true := by
  induction parts generalizing word with
  | nil =>
      rw [show word = [] from reads] at member
      cases member
  | cons part parts ih =>
      have later {rest : List α} (reads : Reads parts rest) (member : symbol ∈ rest) :
          ∃ other ∈ part :: parts, other.accepts symbol = true :=
        (ih reads member).imp fun _ => And.imp_left (List.mem_cons_of_mem _)
      have ahead {accepts : α → Bool} (same : part.accepts = accepts)
          (taken : ∃ first rest, word = first :: rest ∧ accepts first = true ∧
            Reads parts rest) : ∃ other ∈ part :: parts, other.accepts symbol = true := by
        obtain ⟨first, rest, rfl, accepted, reads⟩ := taken
        obtain rfl | member := List.mem_cons.mp member
        · exact ⟨part, List.mem_cons_self, same ▸ accepted⟩
        · exact later reads member
      cases part with
      | one accepts => exact ahead rfl reads
      | optional accepts => exact reads.elim (ahead rfl) fun reads => later reads member
      | many least accepts =>
          obtain ⟨run, rest, rfl, _, all, reads⟩ := reads
          obtain member | member := List.mem_append.mp member
          · exact ⟨_, List.mem_cons_self, all symbol member⟩
          · exact later reads member

/-- The length of the shortest word. -/
def Segment.least : Segment α → Nat
  | .one _ => 1
  | .optional _ => 0
  | .many least _ => least

def leastLength : List (Segment α) → Nat
  | [] => 0
  | part :: parts => part.least + leastLength parts

theorem Reads.le_length {parts : List (Segment α)} {word : List α} (reads : Reads parts word) :
    leastLength parts ≤ word.length := by
  induction parts generalizing word with
  | nil => exact Nat.zero_le _
  | cons part parts ih =>
      rw [leastLength]
      cases part with
      | one accepts =>
          obtain ⟨symbol, rest, rfl, _, reads⟩ := reads
          have rest_le := ih reads
          rw [List.length_cons, Segment.least]
          omega
      | optional accepts =>
          rw [Segment.least, Nat.zero_add]
          obtain ⟨symbol, rest, rfl, _, reads⟩ | reads := reads
          · exact (ih reads).trans (Nat.le_succ _)
          · exact ih reads
      | many least accepts =>
          obtain ⟨run, rest, rfl, enough, _, reads⟩ := reads
          rw [List.length_append, Segment.least]
          exact Nat.add_le_add enough (ih reads)

/-! ## Matching -/

/-- What is left behind a repetition and what comes next; longer repetitions come first. -/
def repeated (accepts : α → Bool) (next : List α → List (List α)) :
    Nat → List α → List (List α)
  | least, [] => if least = 0 then next [] else []
  | least, symbol :: text =>
      (if accepts symbol then repeated accepts next (least - 1) text else []) ++
        if least = 0 then next (symbol :: text) else []

/-- What a sequence of parts can leave of a text, in the order of a backtracking matcher. -/
def remainders : List (Segment α) → List α → List (List α)
  | [], text => [text]
  | .one _ :: _, [] => []
  | .one accepts :: parts, symbol :: text =>
      if accepts symbol then remainders parts text else []
  | .optional _ :: parts, [] => remainders parts []
  | .optional accepts :: parts, symbol :: text =>
      (if accepts symbol then remainders parts text else []) ++ remainders parts (symbol :: text)
  | .many least accepts :: parts, text => repeated accepts (remainders parts) least text

theorem mem_repeated {accepts : α → Bool} {next : List α → List (List α)} {least : Nat}
    {text remainder : List α} :
    remainder ∈ repeated accepts next least text ↔
      ∃ run rest, text = run ++ rest ∧ least ≤ run.length ∧
        (∀ symbol ∈ run, accepts symbol = true) ∧ remainder ∈ next rest := by
  induction text generalizing least with
  | nil =>
      rw [repeated]
      constructor
      · intro member
        split at member
        next none => exact ⟨[], [], rfl, Nat.le_of_eq none, by simp, member⟩
        · cases member
      · rintro ⟨run, rest, split, enough, -, member⟩
        obtain ⟨rfl, rfl⟩ := List.append_eq_nil_iff.mp split.symm
        rwa [if_pos (Nat.le_zero.mp enough)]
  | cons symbol text ih =>
      rw [repeated, List.mem_append]
      constructor
      · rintro (longer | stops)
        · split at longer
          next accepted =>
            obtain ⟨run, rest, rfl, enough, all, member⟩ := ih.mp longer
            refine ⟨symbol :: run, rest, rfl, ?_, List.forall_mem_cons.mpr ⟨accepted, all⟩, member⟩
            rw [List.length_cons]
            omega
          · cases longer
        · split at stops
          next none => exact ⟨[], symbol :: text, rfl, Nat.le_of_eq none, by simp, stops⟩
          · cases stops
      · rintro ⟨run, rest, split, enough, all, member⟩
        cases run with
        | nil =>
            obtain rfl := split
            right
            rwa [if_pos (Nat.le_zero.mp enough)]
        | cons first run =>
            obtain ⟨rfl, rfl⟩ := List.cons.inj split
            obtain ⟨accepted, all⟩ := List.forall_mem_cons.mp all
            left
            rw [if_pos accepted]
            rw [List.length_cons] at enough
            exact ih.mpr ⟨run, rest, rfl, by omega, all, member⟩

/-- The matcher leaves what follows the words at the start of a text. -/
theorem mem_remainders {parts : List (Segment α)} {text remainder : List α} :
    remainder ∈ remainders parts text ↔ ∃ word, text = word ++ remainder ∧ Reads parts word := by
  induction parts generalizing text with
  | nil =>
      simp only [remainders, Reads, List.mem_singleton]
      constructor
      · rintro rfl
        exact ⟨[], rfl, rfl⟩
      · rintro ⟨_, rfl, rfl⟩
        rfl
  | cons part parts ih =>
      have ahead (accepts : α → Bool) (symbol : α) (text : List α) :
          (remainder ∈ if accepts symbol then remainders parts text else []) ↔
            ∃ word, symbol :: text = word ++ remainder ∧ ∃ first rest, word = first :: rest ∧
              accepts first = true ∧ Reads parts rest := by
        constructor
        · intro member
          split at member
          next accepted =>
            obtain ⟨word, rfl, reads⟩ := ih.mp member
            exact ⟨symbol :: word, rfl, symbol, word, rfl, accepted, reads⟩
          · cases member
        · rintro ⟨_, equal, first, word, rfl, accepted, reads⟩
          obtain ⟨rfl, rfl⟩ := List.cons.inj equal
          rw [if_pos accepted]
          exact ih.mpr ⟨word, rfl, reads⟩
      cases part with
      | one accepts =>
          cases text with
          | nil =>
              constructor
              · rintro ⟨⟩
              · rintro ⟨_, equal, _, _, rfl, _⟩
                cases equal
          | cons symbol text => exact ahead accepts symbol text
      | optional accepts =>
          cases text with
          | nil =>
              rw [remainders, ih]
              constructor
              · exact fun ⟨word, equal, reads⟩ => ⟨word, equal, .inr reads⟩
              · rintro ⟨word, equal, ⟨_, _, rfl, _⟩ | reads⟩
                · cases equal
                · exact ⟨word, equal, reads⟩
          | cons symbol text =>
              rw [remainders, List.mem_append, ahead, ih]
              constructor
              · rintro (⟨word, equal, taken⟩ | ⟨word, equal, reads⟩)
                · exact ⟨word, equal, .inl taken⟩
                · exact ⟨word, equal, .inr reads⟩
              · rintro ⟨word, equal, taken | reads⟩
                · exact .inl ⟨word, equal, taken⟩
                · exact .inr ⟨word, equal, reads⟩
      | many least accepts =>
          rw [remainders, mem_repeated]
          constructor
          · rintro ⟨run, rest, rfl, enough, all, member⟩
            obtain ⟨word, rfl, reads⟩ := ih.mp member
            exact ⟨run ++ word, (List.append_assoc ..).symm, run, word, rfl, enough, all, reads⟩
          · rintro ⟨_, rfl, run, word, rfl, enough, all, reads⟩
            exact ⟨run, word ++ remainder, List.append_assoc .., enough, all,
              ih.mpr ⟨word, rfl, reads⟩⟩

/-! ## Longest matches -/

/-- No symbol that a repetition accepts follows what is preferred. -/
def Stops (accepts : α → Bool) (remaining : List (List α)) : Prop :=
  ∀ rest symbol, remaining.head? = some rest → rest.head? = some symbol → accepts symbol = false

theorem Stops.append {accepts : α → Bool} {preferred others : List (List α)}
    (stops : Stops accepts preferred) (alike : Stops accepts others) :
    Stops accepts (preferred ++ others) := by
  cases preferred with
  | nil => exact alike
  | cons first preferred => exact stops

theorem Stops.ite {accepts : α → Bool} {remaining : List (List α)} {condition : Prop}
    [Decidable condition] (stops : condition → Stops accepts remaining) :
    Stops accepts (if condition then remaining else []) := by
  split
  next holds => exact stops holds
  next =>
    rintro rest symbol ⟨⟩

theorem stops_repeated {accepts other : α → Bool} {next : List α → List (List α)}
    (stops : ∀ text, Stops accepts (next text)) (least : Nat) (text : List α) :
    Stops accepts (repeated other next least text) := by
  induction text generalizing least with
  | nil => exact Stops.ite fun _ => stops []
  | cons symbol text ih =>
      exact Stops.append (Stops.ite fun _ => ih (least - 1)) (Stops.ite fun _ => stops _)

/-- A repetition at the end takes all that it accepts. -/
theorem stops_repeated_last (accepts : α → Bool) (least : Nat) (text : List α) :
    Stops accepts (repeated accepts (remainders []) least text) := by
  induction text generalizing least with
  | nil =>
      refine Stops.ite fun _ => ?_
      rintro rest symbol ⟨⟩ ⟨⟩
  | cons first text ih =>
      rw [repeated]
      by_cases accepted : accepts first = true
      · rw [if_pos accepted]
        split
        next none =>
          subst none
          -- Taking more is always possible then, and preferred.
          have more : text ∈ repeated accepts (remainders []) 0 text :=
            mem_repeated.mpr ⟨[], text, rfl, le_rfl, by simp, List.mem_singleton_self _⟩
          cases longer : repeated accepts (remainders []) 0 text with
          | nil =>
              rw [longer] at more
              cases more
          | cons preferred others =>
              have stops := ih 0
              rw [longer] at stops
              exact stops
        · rw [List.append_nil]
          exact ih _
      · rw [if_neg accepted, List.nil_append]
        refine Stops.ite fun _ => ?_
        rintro rest symbol ⟨⟩ ⟨⟩
        exact eq_false_of_ne_true accepted

theorem stops_remainders {accepts : α → Bool} {least : Nat} (parts : List (Segment α))
    (text : List α) : Stops accepts (remainders (parts ++ [.many least accepts]) text) := by
  induction parts generalizing text with
  | nil => exact stops_repeated_last accepts least text
  | cons part parts ih =>
      cases part with
      | one other =>
          cases text with
          | nil => rintro rest symbol ⟨⟩
          | cons first text => exact Stops.ite fun _ => ih text
      | optional other =>
          cases text with
          | nil => exact ih []
          | cons first text => exact Stops.append (Stops.ite fun _ => ih text) (ih _)
      | many fewest other => exact stops_repeated ih fewest text

/-! ## Patterns -/

/-- No alternative has an empty word. -/
structure TextPattern (α : Type*) where
  /-- A test of the symbol before a match and of its first symbol. -/
  guard : Option α → Option α → Bool
  alternatives : List (List (Segment α))
  starts : ∀ parts ∈ alternatives, ∃ accepts rest, parts = .one accepts :: rest

namespace TextPattern

variable (pattern : TextPattern α)

def IsWord (word : List α) : Prop := ∃ parts ∈ pattern.alternatives, Reads parts word

/-- A word of the pattern that stands behind a text is a match of it. -/
def Matches (before word : List α) : Prop :=
  pattern.guard before.getLast? word.head? = true ∧ pattern.IsWord word

/-- What the alternatives can leave of a text. -/
def leaves (text : List α) : List (List α) :=
  pattern.alternatives.flatMap fun parts => remainders parts text

/-- What the match at the start of a text leaves of it. -/
def matchAt (before : Option α) (text : List α) : Option (List α) :=
  if pattern.guard before text.head? then (pattern.leaves text).head? else none

variable {pattern}

theorem mem_leaves {text rest : List α} :
    rest ∈ pattern.leaves text ↔ ∃ word, text = word ++ rest ∧ pattern.IsWord word := by
  simp only [leaves, List.mem_flatMap, mem_remainders, IsWord]
  constructor
  · rintro ⟨parts, listed, word, equal, reads⟩
    exact ⟨word, equal, parts, listed, reads⟩
  · rintro ⟨word, equal, parts, listed, reads⟩
    exact ⟨parts, listed, word, equal, reads⟩

theorem IsWord.ne_nil {word : List α} (isWord : pattern.IsWord word) : word ≠ [] := by
  obtain ⟨parts, listed, reads⟩ := isWord
  obtain ⟨accepts, rest, rfl⟩ := pattern.starts parts listed
  obtain ⟨symbol, rest, rfl, _⟩ := reads
  exact List.cons_ne_nil _ _

theorem head?_append {word : List α} (nonempty : word ≠ []) (rest : List α) :
    (word ++ rest).head? = word.head? := by
  cases word with
  | nil => exact absurd rfl nonempty
  | cons symbol word => rfl

theorem exists_of_matchAt {before : Option α} {text rest : List α}
    (found : pattern.matchAt before text = some rest) :
    ∃ word, text = word ++ rest ∧ pattern.IsWord word ∧
      pattern.guard before word.head? = true := by
  unfold matchAt at found
  split at found
  next holds =>
    obtain ⟨word, rfl, isWord⟩ := mem_leaves.mp (List.mem_of_head? found)
    rw [head?_append isWord.ne_nil] at holds
    exact ⟨word, rfl, isWord, holds⟩
  · cases found

theorem matchAt_ne_none {before : Option α} {word : List α} (isWord : pattern.IsWord word)
    (guarded : pattern.guard before word.head? = true) (rest : List α) :
    pattern.matchAt before (word ++ rest) ≠ none := by
  have left : rest ∈ pattern.leaves (word ++ rest) := mem_leaves.mpr ⟨word, rfl, isWord⟩
  rw [matchAt, head?_append isWord.ne_nil, if_pos guarded, Ne, List.head?_eq_none_iff]
  exact List.ne_nil_of_mem left

/-- Every alternative ends with a repetition of these symbols. -/
def EndsIn (pattern : TextPattern α) (accepts : α → Bool) : Prop :=
  ∀ parts ∈ pattern.alternatives, ∃ init least, parts = init ++ [.many least accepts]

/-- No symbol of a final repetition follows a match. -/
theorem EndsIn.stops {accepts : α → Bool} (ends : pattern.EndsIn accepts) {before : Option α}
    {text rest : List α} (found : pattern.matchAt before text = some rest) {symbol : α}
    (next : rest.head? = some symbol) : accepts symbol = false := by
  have all (alternatives : List (List (Segment α)))
      (ends : ∀ parts ∈ alternatives, ∃ init least, parts = init ++ [.many least accepts]) :
      Stops accepts (alternatives.flatMap fun parts => remainders parts text) := by
    induction alternatives with
    | nil => rintro rest symbol ⟨⟩
    | cons parts others ih =>
        obtain ⟨init, least, form⟩ := ends parts List.mem_cons_self
        have stops : Stops accepts (remainders parts text) := form ▸ stops_remainders init text
        exact stops.append (ih fun other listed => ends other (List.mem_cons_of_mem _ listed))
  unfold matchAt at found
  split at found
  · exact all _ ends rest symbol found next
  · cases found

end TextPattern

/-! ## Scanning -/

inductive Piece (α : Type*) where
  | kept (symbol : α)
  | matched (word : List α)

def Piece.source : Piece α → List α
  | .kept symbol => [symbol]
  | .matched word => word

def Piece.image (mark : List α) : Piece α → List α
  | .kept symbol => [symbol]
  | .matched _ => mark

/-- The text of the pieces. -/
def source (pieces : List (Piece α)) : List α := pieces.flatMap Piece.source

/-- The text with the mark in the place of what is matched. -/
def image (mark : List α) (pieces : List (Piece α)) : List α := pieces.flatMap (Piece.image mark)

/-- The pieces of a text, of which the first symbols may belong to a match that was found
earlier. -/
def scan (pattern : TextPattern α) : Option α → Nat → List α → List (Piece α)
  | _, _, [] => []
  | _, skipped + 1, symbol :: text => scan pattern (some symbol) skipped text
  | before, 0, symbol :: text =>
      match pattern.matchAt before (symbol :: text) with
      | none => .kept symbol :: scan pattern (some symbol) 0 text
      | some rest =>
          .matched ((symbol :: text).take (text.length + 1 - rest.length)) ::
            scan pattern (some symbol) (text.length - rest.length) text

/-- `pattern.sub(mark, text)`. -/
def TextPattern.sub (pattern : TextPattern α) (mark text : List α) : List α :=
  image mark (scan pattern none 0 text)

/-- What a scan finds, from the symbol before. -/
inductive Scanned (pattern : TextPattern α) : Option α → List (Piece α) → Prop
  | nil {before : Option α} : Scanned pattern before []
  | kept {before : Option α} {symbol : α} {pieces : List (Piece α)}
      (absent : pattern.matchAt before (symbol :: source pieces) = none)
      (later : Scanned pattern (some symbol) pieces) :
      Scanned pattern before (.kept symbol :: pieces)
  | matched {before : Option α} {word : List α} {pieces : List (Piece α)}
      (isWord : pattern.IsWord word)
      (guarded : pattern.guard before word.head? = true)
      (found : pattern.matchAt before (word ++ source pieces) = some (source pieces))
      (later : Scanned pattern word.getLast? pieces) :
      Scanned pattern before (.matched word :: pieces)

variable {pattern : TextPattern α} {mark : List α}

@[simp] theorem source_append (front tail : List (Piece α)) :
    source (front ++ tail) = source front ++ source tail := List.flatMap_append

@[simp] theorem image_append (front tail : List (Piece α)) :
    image mark (front ++ tail) = image mark front ++ image mark tail := List.flatMap_append

@[simp] theorem source_map_kept (word : List α) : source (word.map Piece.kept) = word := by
  induction word with
  | nil => rfl
  | cons symbol word ih => exact congrArg (symbol :: ·) ih

@[simp] theorem image_map_kept (word : List α) : image mark (word.map Piece.kept) = word := by
  induction word with
  | nil => rfl
  | cons symbol word ih => exact congrArg (symbol :: ·) ih

theorem getLast?_cons_or (symbol : α) (word : List α) (before : Option α) :
    (symbol :: word).getLast?.or before = word.getLast?.or (some symbol) := by
  cases word with
  | nil => rfl
  | cons next word =>
      rw [List.getLast?_cons_cons, Option.or_of_isSome (by simp), Option.or_of_isSome (by simp)]

theorem scan_skip (pattern : TextPattern α) (word rest : List α) (before : Option α) :
    scan pattern before word.length (word ++ rest) =
      scan pattern (word.getLast?.or before) 0 rest := by
  induction word generalizing before with
  | nil => rfl
  | cons symbol word ih =>
      rw [List.length_cons, List.cons_append, scan, ih, getLast?_cons_or]

/-- A scan takes the text apart from left to right. -/
theorem scanned_scan (pattern : TextPattern α) (before : Option α) (text : List α) :
    source (scan pattern before 0 text) = text ∧
      Scanned pattern before (scan pattern before 0 text) := by
  induction size : text.length using Nat.strong_induction_on generalizing before text with
  | _ length ih =>
      cases text with
      | nil => exact ⟨rfl, .nil⟩
      | cons symbol text =>
          rw [scan]
          split
          next absent =>
            obtain ⟨source_eq, later⟩ := ih text.length (by rw [← size, List.length_cons]; omega)
              (some symbol) text rfl
            refine ⟨congrArg (symbol :: ·) source_eq, .kept ?_ later⟩
            rwa [source_eq]
          next rest found =>
            obtain ⟨word, equal, isWord, guarded⟩ := TextPattern.exists_of_matchAt found
            cases word with
            | nil => exact absurd rfl isWord.ne_nil
            | cons first word =>
                obtain ⟨rfl, text_eq⟩ := List.cons.inj equal
                change text = word ++ rest at text_eq
                subst text_eq
                have taken : (symbol :: (word ++ rest)).take ((word ++ rest).length + 1 -
                    rest.length) = symbol :: word := by
                  rw [List.length_append, show word.length + rest.length + 1 - rest.length =
                    word.length + 1 by omega, List.take_succ_cons, List.take_left]
                have skipped : (word ++ rest).length - rest.length = word.length := by
                  rw [List.length_append]
                  omega
                have last : (symbol :: word).getLast? = word.getLast?.or (some symbol) := by
                  rw [← getLast?_cons_or symbol word none, Option.or_none]
                obtain ⟨source_eq, later⟩ := ih rest.length
                  (by rw [← size, List.length_cons, List.length_append]; omega)
                  (word.getLast?.or (some symbol)) rest rfl
                rw [taken, skipped, scan_skip, ← last]
                rw [← last] at source_eq later
                refine ⟨congrArg (symbol :: word ++ ·) source_eq, .matched isWord guarded ?_ later⟩
                rwa [source_eq]

theorem Scanned.append {front tail : List (Piece α)} {before : Option α}
    (scanned : Scanned pattern before (front ++ tail)) :
    Scanned pattern ((source front).getLast?.or before) tail := by
  induction front generalizing before with
  | nil => exact scanned
  | cons piece front ih =>
      cases scanned with
      | @kept _ symbol _ _ later =>
          have last := getLast?_cons_or symbol (source front) before
          exact last ▸ ih later
      | @matched _ word _ isWord _ _ later =>
          have last : (word ++ source front).getLast?.or before =
              (source front).getLast?.or word.getLast? := by
            rw [List.getLast?_append, Option.or_assoc, Option.or_of_isSome (o := word.getLast?)]
            simpa using isWord.ne_nil
          exact last ▸ ih later

/-! ## Places in the result -/

/-- A place in the result lies between two pieces or inside a mark. -/
theorem image_eq_append {pieces : List (Piece α)} {front tail : List α}
    (equal : image mark pieces = front ++ tail) :
    (∃ before after, pieces = before ++ after ∧ image mark before = front ∧
        image mark after = tail) ∨
      ∃ start rest beyond, mark = start ++ rest ∧ rest ≠ [] ∧ tail = rest ++ beyond := by
  induction pieces generalizing front with
  | nil =>
      obtain ⟨rfl, rfl⟩ := List.append_eq_nil_iff.mp equal.symm
      exact .inl ⟨[], [], rfl, rfl, rfl⟩
  | cons piece pieces ih =>
      cases front with
      | nil => exact .inl ⟨[], piece :: pieces, rfl, rfl, equal⟩
      | cons first front =>
          cases piece with
          | kept symbol =>
              obtain ⟨rfl, later⟩ := List.cons.inj equal
              obtain ⟨before, after, rfl, image_eq, tail_eq⟩ | inside := ih later
              · exact .inl ⟨.kept symbol :: before, after, rfl,
                  congrArg (symbol :: ·) image_eq, tail_eq⟩
              · exact .inr inside
          | matched word =>
              obtain ⟨others, front_eq, equal⟩ | ⟨rest, mark_eq, tail_eq⟩ :=
                List.append_eq_append_iff.mp equal
              · obtain ⟨before, after, rfl, image_eq, tail_eq⟩ | inside := ih equal
                · refine .inl ⟨.matched word :: before, after, rfl, ?_, tail_eq⟩
                  rw [front_eq, ← image_eq]
                  rfl
                · exact .inr inside
              · by_cases ends : rest = []
                · subst ends
                  refine .inl ⟨[.matched word], pieces, rfl, ?_, tail_eq.symm⟩
                  rw [← List.append_nil (first :: front), ← mark_eq]
                  exact List.append_nil mark
                · exact .inr ⟨_, rest, _, mark_eq, ends, tail_eq⟩

/-- A text that shares no end of it with the start of a mark and has no mark in it. -/
def Clear (mark word : List α) : Prop :=
  ∀ start rest, word = start ++ rest → rest ≠ [] → ¬rest <+: mark ∧ ¬mark <+: rest

theorem Clear.tail {symbol : α} {word : List α} (clear : Clear mark (symbol :: word)) :
    Clear mark word :=
  fun start rest equal => clear (symbol :: start) rest (congrArg (symbol :: ·) equal)

/-- What is clear of the mark has been kept. -/
theorem exists_kept {word back : List α} (clear : Clear mark word) {after : List (Piece α)}
    (equal : image mark after = word ++ back) :
    ∃ later, after = word.map .kept ++ later ∧ image mark later = back := by
  induction word generalizing after with
  | nil => exact ⟨after, rfl, equal⟩
  | cons symbol word ih =>
      cases after with
      | nil => cases equal
      | cons piece after =>
          cases piece with
          | kept first =>
              obtain ⟨rfl, rest⟩ := List.cons.inj equal
              obtain ⟨later, rfl, back_eq⟩ := ih clear.tail rest
              exact ⟨later, rfl, back_eq⟩
          | matched matchedWord =>
              obtain ⟨apart, together⟩ := clear [] (symbol :: word) rfl (List.cons_ne_nil _ _)
              obtain ⟨others, word_eq, _⟩ | ⟨others, mark_eq, _⟩ :=
                List.append_eq_append_iff.mp equal
              · exact absurd ⟨others, word_eq.symm⟩ together
              · exact absurd ⟨others, mark_eq.symm⟩ apart

/-- The pieces before and behind the start of a text that is found in the result. -/
structure Placed (pattern : TextPattern α) (mark text front start beyond : List α)
    (before later : List (Piece α)) : Prop where
  text_eq : text = source before ++ (start ++ source later)
  front_eq : image mark before = front
  beyond_eq : image mark later = beyond
  scanned : Scanned pattern none (before ++ (start.map .kept ++ later))

/-- No word of the pattern starts within a mark. -/
def TextPattern.Avoids (pattern : TextPattern α) (mark : List α) : Prop :=
  ∀ start rest, mark = start ++ rest → rest ≠ [] → ∀ beyond, pattern.leaves (rest ++ beyond) = []

/-- Where a word of one pattern follows a match of another, its test holds behind the match as
it holds behind the mark. -/
def TextPattern.Neutral (other pattern : TextPattern α) (mark : List α) : Prop :=
  ∀ earlier word rest, pattern.IsWord word → pattern.matchAt earlier (word ++ rest) = some rest →
    ∀ next back, other.IsWord next → rest = next ++ back →
      other.guard mark.getLast? next.head? = true → other.guard word.getLast? next.head? = true

/-- No match ends between two symbols of a mark. -/
def TextPattern.Spares (pattern : TextPattern α) (mark : List α) : Prop :=
  ∀ earlier word rest, pattern.IsWord word → pattern.matchAt earlier (word ++ rest) = some rest →
    ∀ last next, word.getLast? = some last → rest.head? = some next → last ∈ mark → next ∉ mark

variable {other : TextPattern α} {text front : List α}

/-- A mark of the text that is left of a place is left of it in the result. -/
theorem suffix_image (spares : pattern.Spares mark) {start rest : List α}
    {before after : List (Piece α)} {earlier : Option α} (mark_eq : mark = start ++ rest)
    (scanned : Scanned pattern earlier (before ++ (rest.map .kept ++ after)))
    (behind : start <:+ source before) : mark <:+ image mark before ++ rest := by
  induction start using List.reverseRecOn generalizing rest before with
  | nil => exact mark_eq ▸ List.suffix_append _ _
  | append_singleton start symbol ih =>
      obtain rfl | ⟨init, piece, rfl⟩ := List.eq_nil_or_concat before
      · have none := List.suffix_nil.mp behind
        simp at none
      · rw [List.concat_eq_append] at scanned behind ⊢
        rw [List.append_assoc] at scanned
        obtain ⟨left, equal⟩ := behind
        rw [source_append, ← List.append_assoc] at equal
        cases piece with
        | kept first =>
            obtain ⟨source_eq, same⟩ := List.append_inj' equal rfl
            obtain rfl := List.singleton_inj.mp same
            have shorter : mark <:+ image mark init ++ symbol :: rest :=
              ih (by rw [mark_eq, List.append_assoc]; rfl) scanned ⟨left, source_eq⟩
            rw [image_append, List.append_assoc]
            exact shorter
        | matched word =>
            have image_eq : image mark [Piece.matched word] = mark := List.append_nil mark
            cases rest with
            | nil =>
                rw [List.append_nil, image_append, image_eq]
                exact List.suffix_append _ _
            | cons next rest =>
                cases scanned.append with
                | matched isWord _ found _ =>
                    have last : word.getLast? = some symbol := by
                      have source_eq : source [Piece.matched word] = word := List.append_nil word
                      have ends := congrArg List.getLast? equal
                      rw [source_eq, List.getLast?_append_of_ne_nil _ isWord.ne_nil,
                        List.getLast?_concat] at ends
                      exact ends.symm
                    have left := spares _ _ _ isWord found symbol next last rfl
                    rw [mark_eq] at left
                    simp at left

theorem exists_placed {start beyond word back : List α} (avoids : other.Avoids mark)
    (isWord : other.IsWord word) (word_eq : start ++ beyond = word ++ back)
    (clear : Clear mark start) (equal : pattern.sub mark text = front ++ (start ++ beyond)) :
    ∃ before later, Placed pattern mark text front start beyond before later := by
  obtain ⟨source_eq, scanned⟩ := scanned_scan pattern none text
  obtain ⟨before, after, pieces_eq, front_eq, tail_eq⟩ |
      ⟨first, rest, others, mark_eq, ne, tail_eq⟩ :=
    image_eq_append equal
  · obtain ⟨later, rfl, beyond_eq⟩ := exists_kept clear tail_eq
    rw [pieces_eq] at source_eq scanned
    refine ⟨before, later, ?_, front_eq, beyond_eq, scanned⟩
    rw [← source_eq, source_append, source_append, source_map_kept]
  · have member : back ∈ other.leaves (rest ++ others) :=
      TextPattern.mem_leaves.mpr ⟨word, by rw [← tail_eq, word_eq], isWord⟩
    rw [avoids first rest mark_eq ne others] at member
    cases member

namespace Placed

variable {start beyond : List α} {before later : List (Piece α)}

/-- The scan has found no match at the place. -/
theorem absent (placed : Placed pattern mark text front start beyond before later)
    (nonempty : start ≠ []) :
    pattern.matchAt (source before).getLast? (start ++ source later) = none := by
  have scanned := placed.scanned.append
  rw [Option.or_none] at scanned
  cases start with
  | nil => exact absurd rfl nonempty
  | cons symbol start =>
      cases scanned with
      | kept absent _ =>
          change pattern.matchAt _ (symbol :: source (start.map .kept ++ later)) = none at absent
          rwa [source_append, source_map_kept] at absent

/-- Before the place stands what has stood there, or the mark of a match. -/
theorem last_eq (placed : Placed pattern mark text front start beyond before later) :
    (source before).getLast? = front.getLast? ∨
      ∃ word earlier, pattern.IsWord word ∧ mark <:+ front ∧
        (source before).getLast? = word.getLast? ∧
        pattern.matchAt earlier (word ++ (start ++ source later)) =
          some (start ++ source later) := by
  obtain ⟨text_eq, rfl, _, scanned⟩ := placed
  obtain rfl | ⟨init, piece, rfl⟩ := List.eq_nil_or_concat before
  · exact .inl rfl
  · cases piece with
    | kept symbol =>
        left
        simp [source, image, Piece.source, Piece.image]
    | matched word =>
        right
        rw [List.concat_eq_append, List.append_assoc] at scanned
        cases scanned.append with
        | matched isWord _ found _ =>
            change pattern.matchAt _ (word ++ source (start.map .kept ++ later)) =
              some (source (start.map .kept ++ later)) at found
            rw [source_append, source_map_kept] at found
            have source_eq : source [Piece.matched word] = word := List.append_nil word
            have image_eq : image mark [Piece.matched word] = mark := List.append_nil mark
            refine ⟨word, _, isWord, ?_, ?_, found⟩
            · rw [List.concat_eq_append, image_append, image_eq]
              exact List.suffix_append _ _
            · rw [List.concat_eq_append, source_append, source_eq,
                List.getLast?_append_of_ne_nil _ isWord.ne_nil]

/-- What a pattern tests before a match in the result holds before its place in the text. -/
theorem guarded (placed : Placed pattern mark text front start beyond before later)
    (nonempty : mark ≠ []) (neutral : other.Neutral pattern mark) {next back : List α}
    (isWord : other.IsWord next) (begins : start ++ source later = next ++ back)
    (guarded : other.guard front.getLast? next.head? = true) :
    other.guard (source before).getLast? next.head? = true := by
  obtain same | ⟨word, earlier, ofPattern, ⟨left, rfl⟩, same, found⟩ := placed.last_eq
  · rwa [same]
  · rw [List.getLast?_append_of_ne_nil _ nonempty] at guarded
    rw [same]
    exact neutral earlier word _ ofPattern found next back isWord begins guarded

theorem behind (placed : Placed pattern mark text front start beyond before later)
    (spares : pattern.Spares mark) (marked : mark <:+ source before) : mark <:+ front := by
  have kept : mark <:+ image mark before ++ [] :=
    suffix_image spares (List.append_nil mark).symm placed.scanned marked
  rwa [List.append_nil, placed.front_eq] at kept

end Placed

/-! ## Matches in the result -/

/-- No match of the pattern is in a text. -/
def TextPattern.Unmatched (pattern : TextPattern α) (text : List α) : Prop :=
  ∀ before word after, text = before ++ (word ++ after) → ¬pattern.Matches before word

/-- Every match of the pattern in a text stands behind a mark. -/
def TextPattern.Behind (pattern : TextPattern α) (mark text : List α) : Prop :=
  ∀ before word after, text = before ++ (word ++ after) → pattern.Matches before word →
    mark <:+ before

/-- A text without matches stays as it is. -/
theorem sub_eq_self (unmatched : pattern.Unmatched text) : pattern.sub mark text = text := by
  obtain ⟨source_eq, scanned⟩ := scanned_scan pattern none text
  have kept : ∀ piece ∈ scan pattern none 0 text, Piece.image mark piece = piece.source := by
    intro piece member
    cases piece with
    | kept symbol => rfl
    | matched word =>
        obtain ⟨before, after, pieces_eq⟩ := List.append_of_mem member
        rw [pieces_eq] at source_eq scanned
        have found := scanned.append
        rw [Option.or_none] at found
        cases found with
        | matched isWord guarded _ _ =>
            refine absurd ⟨guarded, isWord⟩ (unmatched _ word (source after) ?_)
            rw [← source_eq, source_append]
            rfl
  exact (List.flatMap_congr kept).trans source_eq

/-- Where the marks make no difference a match in the result has been a match of the text that
the substitution has not seen. -/
theorem exists_matches (nonempty : mark ≠ []) (avoids : other.Avoids mark)
    (neutral : other.Neutral pattern mark) {word back : List α} (clear : Clear mark word)
    (matched : other.Matches front word)
    (equal : pattern.sub mark text = front ++ (word ++ back)) :
    ∃ before after, text = before ++ (word ++ after) ∧ other.Matches before word ∧
      pattern.matchAt before.getLast? (word ++ after) = none ∧
      (pattern.Spares mark → mark <:+ before → mark <:+ front) := by
  obtain ⟨before, later, placed⟩ := exists_placed avoids matched.2 rfl clear equal
  exact ⟨source before, source later, placed.text_eq,
    ⟨placed.guarded nonempty neutral matched.2 rfl matched.1, matched.2⟩,
    placed.absent matched.2.ne_nil, placed.behind⟩

/-- A substitution leaves no match of its own that is clear of the marks. -/
theorem not_matches_sub (nonempty : mark ≠ []) (avoids : pattern.Avoids mark)
    (neutral : pattern.Neutral pattern mark) {word back : List α} (clear : Clear mark word)
    (equal : pattern.sub mark text = front ++ (word ++ back)) : ¬pattern.Matches front word := by
  intro matched
  obtain ⟨before, after, _, inText, absent, _⟩ :=
    exists_matches nonempty avoids neutral clear matched equal
  exact TextPattern.matchAt_ne_none inText.2 inText.1 after absent

section Clear

variable (nonempty : mark ≠ []) (avoids : other.Avoids mark)
  (clear : ∀ word, other.IsWord word → Clear mark word)
include nonempty avoids clear

theorem unmatched_sub (neutral : other.Neutral other mark) :
    other.Unmatched (other.sub mark text) :=
  fun _ word _ equal matched =>
    not_matches_sub nonempty avoids neutral (clear word matched.2) equal matched

theorem TextPattern.Unmatched.sub (unmatched : other.Unmatched text)
    (neutral : other.Neutral pattern mark) : other.Unmatched (pattern.sub mark text) := by
  intro front word back equal matched
  obtain ⟨before, after, text_eq, inText, _⟩ :=
    exists_matches nonempty avoids neutral (clear word matched.2) matched equal
  exact unmatched before word after text_eq inText

theorem TextPattern.Behind.sub (behind : other.Behind mark text)
    (neutral : other.Neutral pattern mark) (spares : pattern.Spares mark) :
    other.Behind mark (pattern.sub mark text) := by
  intro front word back equal matched
  obtain ⟨before, after, text_eq, inText, _, keeps⟩ :=
    exists_matches nonempty avoids neutral (clear word matched.2) matched equal
  exact keeps spares (behind before word after text_eq inText)

omit nonempty in
/-- Whatever a substitution removes, it lets a match of another pattern stand free only behind
a mark. -/
theorem TextPattern.Unmatched.behind_sub (unmatched : other.Unmatched text) :
    other.Behind mark (pattern.sub mark text) := by
  intro front word back equal matched
  obtain ⟨before, later, placed⟩ := exists_placed avoids matched.2 rfl (clear word matched.2) equal
  obtain same | ⟨_, _, _, behind, _⟩ := placed.last_eq
  · exact absurd ⟨same ▸ matched.1, matched.2⟩ (unmatched _ word _ placed.text_eq)
  · exact behind

end Clear

/-! ## Matches that may run into a mark -/

/-- Every word of the pattern begins with so many of these symbols. -/
def TextPattern.Opens (pattern : TextPattern α) (least : Nat) (accepts : α → Bool) : Prop :=
  ∀ word, pattern.IsWord word → ∃ run rest, word = run ++ rest ∧ least ≤ run.length ∧
    ∀ symbol ∈ run, accepts symbol = true

section Runs

variable {accepts : α → Bool} {least : Nat}

theorem TextPattern.opens (openings : ∀ parts ∈ pattern.alternatives, ∃ opening others,
    parts = opening ++ others ∧ least ≤ leastLength opening ∧
      ∀ part ∈ opening, ∀ symbol, part.accepts symbol = true → accepts symbol = true) :
    pattern.Opens least accepts := by
  rintro word ⟨parts, listed, reads⟩
  obtain ⟨opening, others, rfl, enough, all⟩ := openings parts listed
  obtain ⟨run, rest, rfl, reads, _⟩ := reads_append.mp reads
  refine ⟨run, rest, rfl, enough.trans reads.le_length, fun symbol member => ?_⟩
  obtain ⟨part, among, accepted⟩ := reads.accepted member
  exact all part among symbol accepted

/-- Where symbols are repeated in the result they have been repeated in the text: a match in
their place begins with enough of them. -/
theorem Scanned.exists_run (opens : pattern.Opens least accepts) {run back : List α}
    {earlier : Option α} {after : List (Piece α)} (scanned : Scanned pattern earlier after)
    (equal : image mark after = run ++ back) (all : ∀ symbol ∈ run, accepts symbol = true)
    {count : Nat} (enough : count ≤ run.length) (few : count ≤ least) :
    ∃ taken rest, source after = taken ++ rest ∧ count ≤ taken.length ∧
      ∀ symbol ∈ taken, accepts symbol = true := by
  induction run generalizing earlier after count with
  | nil => exact ⟨[], _, rfl, enough, by simp⟩
  | cons symbol run ih =>
      cases scanned with
      | nil => cases equal
      | @kept _ first later _ scanned =>
          obtain ⟨rfl, rest_eq⟩ := List.cons.inj equal
          obtain ⟨accepted, all⟩ := List.forall_mem_cons.mp all
          rw [List.length_cons] at enough
          have fewer : count - 1 ≤ run.length := by omega
          obtain ⟨taken, rest, source_eq, long, allTaken⟩ :=
            ih scanned rest_eq all fewer (by omega)
          refine ⟨first :: taken, rest, congrArg (first :: ·) source_eq, ?_,
            List.forall_mem_cons.mpr ⟨accepted, allTaken⟩⟩
          rw [List.length_cons]
          omega
      | @matched _ word later isWord =>
          obtain ⟨taken, rest, rfl, long, allTaken⟩ := opens word isWord
          exact ⟨taken, rest ++ source later, List.append_assoc .., few.trans long, allTaken⟩

/-- A match in the result that ends with a repetition, which may run into a mark, has been a
match of the text with another number of repetitions. -/
theorem exists_matches_run (nonempty : mark ≠ []) (avoids : other.Avoids mark)
    (neutral : other.Neutral pattern mark) (opens : pattern.Opens least accepts)
    {start run back : List α} (clear : Clear mark start) (begins : start ≠ [])
    (enough : least ≤ run.length) (all : ∀ symbol ∈ run, accepts symbol = true)
    (repeats : ∀ taken, least ≤ taken.length → (∀ symbol ∈ taken, accepts symbol = true) →
      other.IsWord (start ++ taken))
    (matched : other.Matches front (start ++ run))
    (equal : pattern.sub mark text = front ++ (start ++ (run ++ back))) :
    ∃ before taken after, text = before ++ (start ++ taken ++ after) ∧
      other.Matches before (start ++ taken) ∧
      pattern.matchAt before.getLast? (start ++ taken ++ after) = none := by
  obtain ⟨before, later, placed⟩ :=
    exists_placed avoids matched.2 (List.append_assoc ..).symm clear equal
  have scanned := placed.scanned.append.append
  obtain ⟨taken, after, source_eq, long, allTaken⟩ :=
    Scanned.exists_run opens scanned placed.beyond_eq all enough le_rfl
  have isWord := repeats taken long allTaken
  have text_eq : start ++ source later = start ++ taken ++ after := by
    rw [source_eq, List.append_assoc]
  have guarded := matched.1
  rw [TextPattern.head?_append begins, ← TextPattern.head?_append begins taken] at guarded
  refine ⟨source before, taken, after, ?_, ⟨?_, isWord⟩, ?_⟩
  · rw [← text_eq, placed.text_eq]
  · exact placed.guarded nonempty neutral isWord text_eq guarded
  · rw [← text_eq]
    exact placed.absent begins

/-- A substitution leaves no match of its own that is clear of the marks up to its final
repetition. -/
theorem not_matches_sub_run (nonempty : mark ≠ []) (avoids : pattern.Avoids mark)
    (neutral : pattern.Neutral pattern mark) (opens : pattern.Opens least accepts)
    {start run back : List α} (clear : Clear mark start) (begins : start ≠ [])
    (enough : least ≤ run.length) (all : ∀ symbol ∈ run, accepts symbol = true)
    (repeats : ∀ taken, least ≤ taken.length → (∀ symbol ∈ taken, accepts symbol = true) →
      pattern.IsWord (start ++ taken))
    (equal : pattern.sub mark text = front ++ (start ++ (run ++ back))) :
    ¬pattern.Matches front (start ++ run) := by
  intro matched
  obtain ⟨before, taken, after, _, inText, absent⟩ := exists_matches_run nonempty avoids neutral
    opens clear begins enough all repeats matched equal
  exact TextPattern.matchAt_ne_none inText.2 inText.1 after absent

end Runs

end Era.Lib.Pattern
