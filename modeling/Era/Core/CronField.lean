import Era.Core.Platform
import Era.Core.Result
import Mathlib.Data.Finset.Image
import Mathlib.Data.Finset.Range

/-!
# Fields of a cron expression

`parse_field` reads one field into the set of the values it allows.  Names are replaced by
their numbers in the text of the field, and whatever `int` reads is a number.
-/

namespace Era.Core

/-- The tables of Unicode that `int` and regular expressions look up, with what they hold
for ASCII. -/
structure CharTables where
  /-- The value of a decimal digit. -/
  decimal : Char → Option Nat
  /-- `\w` of one character. -/
  isWord : Char → Bool
  decimal_digit : ∀ char, char.isDigit → decimal char = some (char.toNat - 48)
  isWord_ascii : ∀ char, char.toNat < 128 → isWord char = (char.isAlphanum || char == '_')

/-- The tables of ASCII. -/
def CharTables.ascii : CharTables :=
  { decimal := fun char => if char.isDigit then some (char.toNat - 48) else none
    isWord := fun char => char.isAlphanum || char == '_'
    decimal_digit := fun _ digit => if_pos digit
    isWord_ascii := fun _ _ => rfl }

/-! ## Reading numbers -/

/-- `text.strip()`. -/
def stripText (text : List Char) : List Char :=
  ((text.dropWhile isPySpace).reverse.dropWhile isPySpace).reverse

/-- The number with these decimal digits. -/
def digitsValue (digits : List Nat) : Nat := digits.foldl (fun value digit => 10 * value + digit) 0

/-- `sys.int_info.default_max_str_digits`. -/
def maxStrDigits : Nat := 4300

/-- A sign, and the text behind it. -/
def signOf : List Char → Int × List Char
  | '-' :: rest => (-1, rest)
  | '+' :: rest => (1, rest)
  | text => (1, text)

/-- `int(text)`: a sign, then groups of digits between single underscores.  `none` is its
`ValueError`. -/
def CharTables.int? (tables : CharTables) (text : List Char) : Option Int := do
  let (sign, body) := signOf (stripText text)
  let groups ← (body.splitOn '_').mapM fun group =>
    if group = [] then none else group.mapM tables.decimal
  if groups.flatten.length ≤ maxStrDigits then some (sign * digitsValue groups.flatten) else none

/-! ## Names -/

/-- A dictionary from names in capital letters to numbers. -/
structure NameMap where
  entries : List (String × Nat)
  letters : ∀ entry ∈ entries, entry.1 ≠ "" ∧ ∀ char ∈ entry.1.toList, char.isUpper
  distinct : (entries.map Prod.fst).Nodup
  readable : ∀ entry ∈ entries, (toString entry.2).length ≤ maxStrDigits

theorem letters_of_all {entries : List (String × Nat)}
    (all : (entries.all fun entry => entry.1 != "" && entry.1.toList.all Char.isUpper) = true) :
    ∀ entry ∈ entries, entry.1 ≠ "" ∧ ∀ char ∈ entry.1.toList, char.isUpper := by
  simpa using all

/-- No name map. -/
def NameMap.none : NameMap :=
  { entries := [], letters := by simp, distinct := by simp, readable := by simp }

/-- `_MONTH_NAMES`. -/
def monthNames : NameMap :=
  { entries := [("JAN", 1), ("FEB", 2), ("MAR", 3), ("APR", 4), ("MAY", 5), ("JUN", 6),
      ("JUL", 7), ("AUG", 8), ("SEP", 9), ("OCT", 10), ("NOV", 11), ("DEC", 12)]
    letters := letters_of_all (by decide)
    distinct := by decide
    readable := by decide +kernel }

/-- `_DOW_NAMES`. -/
def dowNames : NameMap :=
  { entries := [("SUN", 0), ("MON", 1), ("TUE", 2), ("WED", 3), ("THU", 4), ("FRI", 5),
      ("SAT", 6)]
    letters := letters_of_all (by decide)
    distinct := by decide
    readable := by decide +kernel }

/-- `re.sub(rf"\b{name}\b", replacement, text)` for a name of word characters: every run of
word characters that is the name is replaced.  The first list is the run so far. -/
def subWord (tables : CharTables) (name replacement : List Char) :
    List Char → List Char → List Char
  | run, [] => if run = name then replacement else run
  | run, char :: rest =>
      if tables.isWord char then subWord tables name replacement (run ++ [char]) rest
      else (if run = name then replacement else run) ++
        char :: subWord tables name replacement [] rest

/-- The names of a field, one after another. -/
def substituteNames (tables : CharTables) (names : NameMap) (text : List Char) : List Char :=
  names.entries.foldl (fun text entry =>
    subWord tables entry.1.toList (toString entry.2).toList [] text) text

/-! ## Elements of a field -/

def cronError (message : String) : Raised := .exception "CronError" message

/-- The parts of `text.split(separator, 1)` when the separator occurs. -/
def cut (separator : Char) : List Char → Option (List Char × List Char)
  | [] => none
  | char :: rest =>
      if char = separator then some ([], rest)
      else (cut separator rest).map fun (before, after) => (char :: before, after)

section Parsing

variable (platform : Platform) (tables : CharTables)

/-- `{text!r}`. -/
def reprText (text : List Char) : String := platform.reprString (String.ofList text)

/-- The step of an element.  A step that is not positive raises inside the `try`, so its
message is replaced as well. -/
def parseStep (part : List Char) : Option (List Char) → Except Raised Int
  | none => .ok 1
  | some stepText =>
      match (tables.int? stepText).filter (0 < ·) with
      | some step => .ok step
      | none => .error (cronError ("invalid step in cron field " ++ reprText platform part))

/-- The first and the last value of an element without its step. -/
def parseRange (min max : Int) (rangePart : List Char) : Except Raised (Int × Int) :=
  if rangePart = ['*'] then .ok (min, max)
  else
    match cut '-' rangePart with
    | some (startText, endText) =>
        match tables.int? startText, tables.int? endText with
        | some first, some last => .ok (first, last)
        | _, _ => .error (cronError ("invalid range in cron field " ++ reprText platform rangePart))
    | none =>
        match tables.int? rangePart with
        | some value => .ok (value, value)
        | none =>
            .error (cronError ("invalid number in cron field " ++ reprText platform rangePart))

/-- `range(start, end + 1)` as a set. -/
def wholeRange (first last : Int) : Finset Int :=
  (Finset.range (last + 1 - first).toNat).image fun offset : Nat => first + (offset : Int)

@[simp] theorem mem_wholeRange {first last value : Int} :
    value ∈ wholeRange first last ↔ first ≤ value ∧ value ≤ last := by
  rw [wholeRange, Finset.mem_image]
  constructor
  · rintro ⟨offset, within, rfl⟩
    have := Finset.mem_range.mp within
    omega
  · intro bounds
    refine ⟨(value - first).toNat, Finset.mem_range.mpr ?_, ?_⟩ <;> omega

/-- `range(start, end + 1, step)` as a set. -/
def steppedRange (first last step : Int) : Finset Int :=
  (wholeRange first last).filter fun value => (value - first) % step = 0

/-- An element without its step, and the text of the step. -/
def splitStep (part : List Char) : List Char × Option (List Char) :=
  match cut '/' part with
  | some (rangePart, stepText) => (rangePart, some stepText)
  | none => (part, none)

/-- The values of one element, without the blanks around it. -/
def parseElement (min max : Int) (part : List Char) : Except Raised (Finset Int) :=
  (parseStep platform tables part (splitStep part).2).bind fun step =>
    (parseRange platform tables min max (splitStep part).1).bind fun (first, last) =>
      if first < min ∨ max < last ∨ last < first then
        .error (cronError ("value " ++ reprText platform (splitStep part).1 ++
          " out of bounds [" ++ toString min ++ "-" ++ toString max ++ "]"))
      else .ok (steppedRange first last step)

/-- The values of one part of a field. -/
def parsePart (min max : Int) (field part : List Char) : Except Raised (Finset Int) :=
  if stripText part = [] then
    .error (cronError ("invalid empty element in cron field " ++ reprText platform field))
  else parseElement platform tables min max (stripText part)

/-- `parse_field`. -/
def parseField (text : String) (min max : Int) (names : NameMap) : Except Raised (Finset Int) :=
  let upper := (platform.upper (pyStrip text)).toList
  if upper = [] then .error (cronError "empty cron field")
  else
    let field := substituteNames tables names upper
    ((field.splitOn ',').mapM (parsePart platform tables min max field)).map fun allowed =>
      allowed.foldl (· ∪ ·) ∅

end Parsing

/-! ## What is accepted -/

/-- A range of values inside the bounds of a field. -/
structure RangeWithin (min max : Int) (allowed : Finset Int) : Prop where
  nonempty : allowed.Nonempty
  within : ∀ value ∈ allowed, min ≤ value ∧ value ≤ max

theorem mem_steppedRange {first last step value : Int} :
    value ∈ steppedRange first last step ↔
      (first ≤ value ∧ value ≤ last) ∧ (value - first) % step = 0 := by
  simp [steppedRange]

theorem parsePart_ok {platform : Platform} {tables : CharTables} {min max : Int}
    {field part : List Char} {allowed : Finset Int}
    (parsed : parsePart platform tables min max field part = .ok allowed) :
    RangeWithin min max allowed := by
  unfold parsePart at parsed
  split at parsed
  next => simp at parsed
  next =>
    unfold parseElement at parsed
    obtain ⟨step, -, parsed⟩ := bind_eq_ok_iff.mp parsed
    obtain ⟨⟨first, last⟩, -, parsed⟩ := bind_eq_ok_iff.mp parsed
    dsimp only at parsed
    split at parsed
    next => simp at parsed
    next inBounds =>
      obtain rfl := Except.ok.inj parsed
      refine ⟨⟨first, mem_steppedRange.mpr ⟨?_, by simp⟩⟩, fun value member => ?_⟩
      · omega
      · have := (mem_steppedRange.mp member).1
        omega

/-- What the elements of a field allow, together. -/
theorem mem_foldl_union {parts : List (Finset Int)} {allowed : Finset Int} {value : Int} :
    value ∈ parts.foldl (· ∪ ·) allowed ↔ value ∈ allowed ∨ ∃ part ∈ parts, value ∈ part := by
  induction parts generalizing allowed with
  | nil => simp
  | cons part parts ih => simp [ih, or_assoc]

section MapM

variable {ε α β : Type} {read : α → Except ε β}

theorem mapM_cons_ok_iff {item : α} {items : List α} {results : List β} :
    (item :: items).mapM read = .ok results ↔
      ∃ first rest, read item = .ok first ∧ items.mapM read = .ok rest ∧
        results = first :: rest := by
  simp only [List.mapM_cons, bind, bind_eq_ok_iff, pure, Except.pure, Except.ok.injEq]
  constructor
  · rintro ⟨first, found, rest, others, rfl⟩
    exact ⟨first, rest, found, others, rfl⟩
  · rintro ⟨first, rest, found, others, rfl⟩
    exact ⟨first, found, rest, others, rfl⟩

/-- A list is read when each of its elements is. -/
theorem exists_mapM_ok_iff {items : List α} :
    (∃ results, items.mapM read = .ok results) ↔
      ∀ item ∈ items, ∃ result, read item = .ok result := by
  induction items with
  | nil => simp [pure, Except.pure]
  | cons item items ih =>
      simp only [mapM_cons_ok_iff, List.forall_mem_cons, ← ih]
      constructor
      · rintro ⟨-, first, rest, found, others, -⟩
        exact ⟨⟨first, found⟩, rest, others⟩
      · rintro ⟨⟨first, found⟩, rest, others⟩
        exact ⟨_, first, rest, found, others, rfl⟩

/-- What has been read from a list has been read from its elements. -/
theorem mem_mapM_iff {items : List α} {results : List β} (run : items.mapM read = .ok results)
    {result : β} : result ∈ results ↔ ∃ item ∈ items, read item = .ok result := by
  induction items generalizing results with
  | nil =>
      obtain rfl : [] = results := by simpa [pure, Except.pure] using run
      simp
  | cons item items ih =>
      obtain ⟨first, rest, found, others, rfl⟩ := mapM_cons_ok_iff.mp run
      simp [ih others, found, eq_comm]

end MapM

/-- A field whose elements are read one by one. -/
theorem parseField_ok_iff {platform : Platform} {tables : CharTables} {text : String}
    {min max : Int} {names : NameMap} {allowed : Finset Int} :
    parseField platform tables text min max names = .ok allowed ↔
      (platform.upper (pyStrip text)).toList ≠ [] ∧
      ∃ parts, ((substituteNames tables names (platform.upper (pyStrip text)).toList).splitOn
          ',').mapM (parsePart platform tables min max
            (substituteNames tables names (platform.upper (pyStrip text)).toList)) = .ok parts ∧
        parts.foldl (· ∪ ·) ∅ = allowed := by
  by_cases blank : (platform.upper (pyStrip text)).toList = []
  · simp [parseField, blank]
  · simp only [parseField, blank, if_false, map_eq_ok_iff, ne_eq, not_false_eq_true, true_and]

/-- What a field allows is not empty and lies inside its bounds. -/
theorem parseField_ok {platform : Platform} {tables : CharTables} {text : String}
    {min max : Int} {names : NameMap} {allowed : Finset Int}
    (parsed : parseField platform tables text min max names = .ok allowed) :
    RangeWithin min max allowed := by
  obtain ⟨-, parts, read, rfl⟩ := parseField_ok_iff.mp parsed
  have within : ∀ part ∈ parts, RangeWithin min max part := by
    intro part member
    obtain ⟨text, -, parsedPart⟩ := (mem_mapM_iff read).mp member
    exact parsePart_ok parsedPart
  refine ⟨?_, fun value member => ?_⟩
  · obtain ⟨text, listed⟩ := List.exists_mem_of_ne_nil _ (List.splitOn_ne_nil ','
      (substituteNames tables names (platform.upper (pyStrip text)).toList))
    obtain ⟨part, parsedPart⟩ := exists_mapM_ok_iff.mp ⟨parts, read⟩ text listed
    have member := (mem_mapM_iff read).mpr ⟨text, listed, parsedPart⟩
    obtain ⟨value, inPart⟩ := (within part member).nonempty
    exact ⟨value, mem_foldl_union.mpr (.inr ⟨part, member, inPart⟩)⟩
  · obtain inEmpty | ⟨part, listed, inPart⟩ := mem_foldl_union.mp member
    · simp at inEmpty
    · exact (within part listed).within value inPart

example : (parseField Platform.plain CharTables.ascii "mon-fri/2,sun" 0 7 dowNames).toOption =
    some {0, 1, 3, 5} := by decide +kernel

end Era.Core
