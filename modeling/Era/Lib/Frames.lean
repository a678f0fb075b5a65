import Mathlib.Data.List.Infix
import Era.Lib.Machine

/-!
# Frames of a stream

A stream of symbols is cut into frames while it arrives: what has arrived is searched for the
next frame until none is complete, and the rest is kept until more arrives.  The frames do not
depend on how the stream was cut into chunks, and the frames of a first part of a stream are the
first frames of the stream.
-/

namespace Era.Lib

/-- How the next frame is taken off a text: it is shorter then, and more symbols behind it do not
change the frame. -/
structure Framing (Symbol Frame : Type*) where
  next : List Symbol → Option (Frame × List Symbol)
  shorter : ∀ text frame rest, next text = some (frame, rest) → rest.length < text.length
  stable : ∀ text frame rest later, next text = some (frame, rest) →
    next (text ++ later) = some (frame, rest ++ later)

namespace Framing

variable {Symbol Frame : Type*} (framing : Framing Symbol Frame)

/-- Takes off as many frames as there are, and as many as the bound allows. -/
def scanUpTo : ℕ → List Symbol → List Frame × List Symbol
  | 0, text => ([], text)
  | bound + 1, text =>
      match framing.next text with
      | none => ([], text)
      | some (frame, rest) => (frame :: (scanUpTo bound rest).1, (scanUpTo bound rest).2)

/-- The frames of a text and what is left behind the last of them. -/
def scan (text : List Symbol) : List Frame × List Symbol := framing.scanUpTo text.length text

variable {framing} {text rest later : List Symbol} {frame : Frame}

theorem scanUpTo_of_none (none : framing.next text = none) (bound : ℕ) :
    framing.scanUpTo bound text = ([], text) := by
  cases bound with
  | zero => rfl
  | succ bound => rw [scanUpTo, none]

/-- Bounds that are not below the length of the text make no difference. -/
theorem scanUpTo_congr {bound other : ℕ} (enough : text.length ≤ bound)
    (otherwise : text.length ≤ other) :
    framing.scanUpTo bound text = framing.scanUpTo other text := by
  induction bound generalizing text other with
  | zero =>
      cases taken : framing.next text with
      | none => rw [scanUpTo_of_none taken, scanUpTo_of_none taken]
      | some found =>
          have shorter := framing.shorter text found.1 found.2 taken
          omega
  | succ bound ih =>
      cases taken : framing.next text with
      | none => rw [scanUpTo_of_none taken, scanUpTo_of_none taken]
      | some found =>
          have shorter := framing.shorter text found.1 found.2 taken
          obtain ⟨least, rfl⟩ : ∃ least, other = least + 1 :=
            Nat.exists_eq_add_one.mpr (by omega)
          have same : framing.scanUpTo bound found.2 = framing.scanUpTo least found.2 :=
            ih (by omega) (by omega)
          rw [scanUpTo, scanUpTo, taken]
          dsimp only
          rw [same]

theorem scan_of_none (none : framing.next text = none) : framing.scan text = ([], text) :=
  scanUpTo_of_none none _

theorem scan_of_some (taken : framing.next text = some (frame, rest)) :
    framing.scan text = (frame :: (framing.scan rest).1, (framing.scan rest).2) := by
  have shorter := framing.shorter text frame rest taken
  obtain ⟨bound, length⟩ : ∃ bound, text.length = bound + 1 :=
    Nat.exists_eq_add_one.mpr (by omega)
  have same : framing.scanUpTo bound rest = framing.scan rest :=
    scanUpTo_congr (by omega) le_rfl
  rw [scan, length, scanUpTo, taken]
  dsimp only
  rw [same]

/-- One frame at a time: a scan of a text is a scan of what its first frame leaves. -/
theorem scan_induction {motive : List Symbol → Prop}
    (settled : ∀ text, framing.next text = none → motive text)
    (taken : ∀ text frame rest, framing.next text = some (frame, rest) → motive rest →
      motive text) (text : List Symbol) : motive text := by
  induction length : text.length using Nat.strongRecOn generalizing text with
  | ind bound ih =>
      cases found : framing.next text with
      | none => exact settled text found
      | some pair =>
          have shorter := framing.shorter text pair.1 pair.2 found
          exact taken text pair.1 pair.2 found (ih _ (length ▸ shorter) pair.2 rfl)

/-- What a scan leaves has no frame. -/
theorem next_scan : framing.next (framing.scan text).2 = none := by
  induction text using framing.scan_induction with
  | settled text none => rw [scan_of_none none, none]
  | taken text frame rest found ih => rw [scan_of_some found, ih]

/-- A scan of a longer text goes on where the scan of its first part ended. -/
theorem scan_append (text later : List Symbol) :
    framing.scan (text ++ later) =
      ((framing.scan text).1 ++ (framing.scan ((framing.scan text).2 ++ later)).1,
        (framing.scan ((framing.scan text).2 ++ later)).2) := by
  induction text using framing.scan_induction with
  | settled text none => rw [scan_of_none none, List.nil_append]
  | taken text frame rest found ih =>
      rw [scan_of_some (framing.stable text frame rest later found), scan_of_some found, ih]
      rfl

/-- The frames of a first part of a text are the first of its frames. -/
theorem scan_prefix {part : List Symbol} (first : part <+: text) :
    (framing.scan part).1 <+: (framing.scan text).1 := by
  obtain ⟨later, rfl⟩ := first
  rw [scan_append]
  exact List.prefix_append _ _

variable (framing) in
/-- Reads a stream chunk by chunk, and keeps what is not a frame yet. -/
def reader : Machine (List Symbol) (List Symbol) (List Frame) :=
  ⟨fun kept chunk => ((framing.scan (kept ++ chunk)).2, (framing.scan (kept ++ chunk)).1)⟩

/-- However a stream is cut into chunks, its frames are those of the whole. -/
theorem reader_eq_scan (kept : List Symbol) (settled : framing.next kept = none)
    (chunks : List (List Symbol)) :
    (framing.reader.stateAfter kept chunks, (framing.reader.outputs kept chunks).flatten) =
      ((framing.scan (kept ++ chunks.flatten)).2, (framing.scan (kept ++ chunks.flatten)).1) := by
  induction chunks generalizing kept with
  | nil =>
      rw [List.flatten_nil, List.append_nil, scan_of_none settled]
      rfl
  | cons chunk chunks ih =>
      have later := ih (framing.scan (kept ++ chunk)).2 next_scan
      rw [Prod.mk.injEq] at later ⊢
      rw [List.flatten_cons, ← List.append_assoc, scan_append (kept ++ chunk)]
      refine ⟨later.1, ?_⟩
      change (framing.scan (kept ++ chunk)).1 ++
        (framing.reader.outputs (framing.scan (kept ++ chunk)).2 chunks).flatten = _
      rw [later.2]

end Framing

/-! ## Frames that end with a separator -/

section Separator

variable {Symbol : Type*} [DecidableEq Symbol]

/-- The text before the first separator and the text behind it. -/
def cutAt (separator : List Symbol) : List Symbol → Option (List Symbol × List Symbol)
  | [] => none
  | symbol :: text =>
      if separator.isPrefixOf (symbol :: text) then
        some ([], (symbol :: text).drop separator.length)
      else (cutAt separator text).map fun parts => (symbol :: parts.1, parts.2)

variable {separator text frame rest : List Symbol}

/-- What is cut off, the separator and what is behind it are the text. -/
theorem eq_of_cutAt (found : cutAt separator text = some (frame, rest)) :
    text = frame ++ (separator ++ rest) := by
  induction text generalizing frame with
  | nil => cases found
  | cons symbol text ih =>
      rw [cutAt] at found
      split_ifs at found with here
      · obtain ⟨rfl, rfl⟩ := Prod.mk.inj (Option.some.inj found)
        obtain ⟨behind, split⟩ := List.isPrefixOf_iff_prefix.mp here
        rw [← split, List.drop_left]
        rfl
      · obtain ⟨parts, cut, same⟩ := Option.map_eq_some_iff.mp found
        obtain ⟨rfl, rfl⟩ := Prod.mk.inj same
        rw [List.cons_append, ← ih cut]

/-- A separator that has been found stays where it is when more symbols arrive. -/
theorem cutAt_append (found : cutAt separator text = some (frame, rest)) (later : List Symbol) :
    cutAt separator (text ++ later) = some (frame, rest ++ later) := by
  induction text generalizing frame with
  | nil => cases found
  | cons symbol text ih =>
      have whole := eq_of_cutAt found
      rw [cutAt] at found
      rw [List.cons_append, cutAt, ← List.cons_append]
      split_ifs at found with here
      · obtain ⟨rfl, rfl⟩ := Prod.mk.inj (Option.some.inj found)
        have starts := List.isPrefixOf_iff_prefix.mp here
        rw [if_pos (List.isPrefixOf_iff_prefix.mpr (starts.trans (List.prefix_append _ _))),
          List.drop_append_of_le_length starts.length_le]
      · obtain ⟨parts, cut, same⟩ := Option.map_eq_some_iff.mp found
        obtain ⟨rfl, rfl⟩ := Prod.mk.inj same
        have long : separator.length ≤ (symbol :: text).length := by
          rw [whole, List.length_append, List.length_append]
          omega
        have elsewhere : ¬ separator.isPrefixOf (symbol :: text ++ later) = true := by
          intro starts
          exact here (List.isPrefixOf_iff_prefix.mpr (List.prefix_of_prefix_length_le
            (List.isPrefixOf_iff_prefix.mp starts) (List.prefix_append _ _) long))
        rw [if_neg elsewhere, ih cut]
        rfl

variable {first : Symbol} {others : List Symbol}

/-- A frame without the first symbol of the separator ends at the separator. -/
theorem cutAt_frame (clean : first ∉ frame) :
    cutAt (first :: others) (frame ++ (first :: others ++ rest)) = some (frame, rest) := by
  induction frame with
  | nil =>
      rw [List.nil_append, List.cons_append, cutAt, ← List.cons_append,
        if_pos (List.isPrefixOf_iff_prefix.mpr (List.prefix_append _ _)), List.drop_left]
  | cons symbol frame ih =>
      have different : ¬ first = symbol := List.ne_of_not_mem_cons clean
      rw [List.cons_append, cutAt, ih (List.not_mem_of_not_mem_cons clean),
        if_neg (by simp [List.isPrefixOf, different])]
      rfl

variable (first others) in
/-- Frames that end with a separator. -/
def endedBy : Framing Symbol (List Symbol) where
  next := cutAt (first :: others)
  shorter := by
    intro text frame rest found
    have whole := congrArg List.length (eq_of_cutAt found)
    simp only [List.length_append, List.length_cons] at whole
    omega
  stable := fun _ _ _ later found => cutAt_append found later

/-- Frames without the first symbol of the separator are read back. -/
theorem scan_endedBy {frames : List (List Symbol)} (clean : ∀ frame ∈ frames, first ∉ frame)
    (rest : List Symbol) :
    (endedBy first others).scan (frames.flatMap (· ++ first :: others) ++ rest) =
      (frames ++ ((endedBy first others).scan rest).1,
        ((endedBy first others).scan rest).2) := by
  induction frames with
  | nil => rfl
  | cons frame frames ih =>
      have taken : (endedBy first others).next
          ((frame :: frames).flatMap (· ++ first :: others) ++ rest) =
            some (frame, frames.flatMap (· ++ first :: others) ++ rest) := by
        rw [List.flatMap_cons, List.append_assoc, List.append_assoc]
        exact cutAt_frame (clean frame List.mem_cons_self)
      have others_clean := (List.forall_mem_cons.mp clean).2
      rw [Framing.scan_of_some taken, ih others_clean]
      rfl

end Separator

end Era.Lib
