import Era.Core.CronField

/-!
# How the text of a cron field is read

Names are replaced in the whole field before it is taken apart.  Separators are no word
characters, so the field can be taken apart first, and each number be looked up and read where
it stands.
-/

namespace Era.Core

/-! ## Separators -/

theorem cut_eq_none_iff {separator : Char} {text : List Char} :
    cut separator text = none ↔ separator ∉ text := by
  induction text with
  | nil => simp [cut]
  | cons char rest ih =>
      by_cases same : char = separator
      · simp [cut, same]
      · simp [cut, same, ih, Ne.symm same]

theorem cut_append {separator : Char} {before : List Char} (absent : separator ∉ before)
    (after : List Char) : cut separator (before ++ separator :: after) = some (before, after) := by
  induction before with
  | nil => simp [cut]
  | cons char rest ih =>
      simp only [List.mem_cons, not_or] at absent
      simp [cut, Ne.symm absent.1, ih absent.2]

theorem cut_eq_some {separator : Char} {text before after : List Char}
    (found : cut separator text = some (before, after)) :
    text = before ++ separator :: after ∧ separator ∉ before := by
  induction text generalizing before with
  | nil => simp [cut] at found
  | cons char rest ih =>
      by_cases same : char = separator
      · obtain ⟨rfl, rfl⟩ : [] = before ∧ rest = after := by simpa [cut, same] using found
        simp [same]
      · simp only [cut, same, if_false, Option.map_eq_some_iff] at found
        obtain ⟨⟨front, back⟩, foundRest, equal⟩ := found
        obtain ⟨rfl, rfl⟩ : char :: front = before ∧ back = after := by simpa using equal
        obtain ⟨rfl, absent⟩ := ih foundRest
        simp [absent, Ne.symm same]

/-- A text is one part, or a first part in front of a separator and the rest. -/
theorem parts_induction (separator : Char) {motive : List Char → Prop}
    (single : ∀ text, separator ∉ text → motive text)
    (more : ∀ before after, separator ∉ before → motive after →
      motive (before ++ separator :: after)) (text : List Char) : motive text := by
  induction size : text.length using Nat.strong_induction_on generalizing text with
  | _ length ih =>
      cases found : cut separator text with
      | none => exact single text (cut_eq_none_iff.mp found)
      | some parts =>
          obtain ⟨rfl, absent⟩ := cut_eq_some found
          refine more parts.1 parts.2 absent (ih _ ?_ parts.2 rfl)
          rw [← size, List.length_append, List.length_cons]
          omega

theorem mem_of_mem_splitOn {separator : Char} {text part : List Char}
    (listed : part ∈ text.splitOn separator) : ∀ char ∈ part, char ∈ text := by
  induction text using parts_induction separator with
  | single text absent =>
      rw [List.splitOn_eq_singleton absent, List.mem_singleton] at listed
      exact fun char member => listed ▸ member
  | more before after absent ih =>
      rw [List.splitOn_append_cons_self_of_not_mem absent] at listed
      intro char member
      obtain rfl | later := List.mem_cons.mp listed
      · exact List.mem_append_left _ member
      · exact List.mem_append_right _ (List.mem_cons_of_mem _ (ih later char member))

/-! ## Characters -/

theorem isDigit_iff {char : Char} : char.isDigit ↔ 48 ≤ char.toNat ∧ char.toNat ≤ 57 := by
  simp only [Char.isDigit, Bool.and_eq_true, decide_eq_true_eq, ge_iff_le, UInt32.le_iff_toNat_le]
  exact Iff.rfl

theorem isUpper_iff {char : Char} : char.isUpper ↔ 65 ≤ char.toNat ∧ char.toNat ≤ 90 := by
  have bounds : char.isUpper ↔ 'A'.val ≤ char.val ∧ char.val ≤ 'Z'.val := decide_eq_true_iff
  rw [bounds, UInt32.le_iff_toNat_le, UInt32.le_iff_toNat_le]
  exact Iff.rfl

theorem not_isPySpace_of_isDigit {char : Char} (digit : char.isDigit) :
    isPySpace char = false := by
  have bounds := isDigit_iff.mp digit
  simp only [isPySpace, Bool.or_eq_false_iff, Bool.and_eq_false_iff, decide_eq_false_iff_not,
    List.contains_eq_mem, List.mem_cons, List.not_mem_nil, or_false]
  omega

theorem not_isPySpace_of_isUpper {char : Char} (upper : char.isUpper) :
    isPySpace char = false := by
  have bounds := isUpper_iff.mp upper
  simp only [isPySpace, Bool.or_eq_false_iff, Bool.and_eq_false_iff, decide_eq_false_iff_not,
    List.contains_eq_mem, List.mem_cons, List.not_mem_nil, or_false]
  omega

/-! ## Names -/

/-- What a change of the words of a text leaves as it is: the text around separators, and which
characters other than digits occur. -/
structure KeepsSeparators (tables : CharTables) (change : List Char → List Char) : Prop where
  separated : ∀ separator, tables.isWord separator = false → ∀ before after,
    change (before ++ separator :: after) = change before ++ separator :: change after
  mem : ∀ text, ∀ char ∈ change text, char ∈ text ∨ char.isDigit
  blank : ∀ text, change text = [] ↔ text = []

namespace KeepsSeparators

variable {tables : CharTables} {change : List Char → List Char}

theorem comp {first second : List Char → List Char} (keepsSecond : KeepsSeparators tables second)
    (keepsFirst : KeepsSeparators tables first) :
    KeepsSeparators tables fun text => second (first text) where
  separated separator noWord before after := by
    rw [keepsFirst.separated separator noWord, keepsSecond.separated separator noWord]
  mem text char member := by
    obtain inFirst | digit := keepsSecond.mem _ char member
    · exact keepsFirst.mem text char inFirst
    · exact .inr digit
  blank text := by rw [keepsSecond.blank, keepsFirst.blank]

theorem not_mem (keeps : KeepsSeparators tables change) {char : Char} (notDigit : ¬char.isDigit)
    {text : List Char} (absent : char ∉ text) : char ∉ change text := fun member =>
  (keeps.mem text char member).elim absent notDigit

theorem cut_change (keeps : KeepsSeparators tables change) {separator : Char}
    (noWord : tables.isWord separator = false) (notDigit : ¬separator.isDigit)
    (text : List Char) :
    cut separator (change text) =
      (cut separator text).map fun (before, after) => (change before, change after) := by
  cases found : cut separator text with
  | none =>
      exact cut_eq_none_iff.mpr (keeps.not_mem notDigit (cut_eq_none_iff.mp found))
  | some parts =>
      obtain ⟨before, after⟩ := parts
      obtain ⟨rfl, absent⟩ := cut_eq_some found
      rw [keeps.separated separator noWord, cut_append (keeps.not_mem notDigit absent)]
      rfl

theorem splitOn_change (keeps : KeepsSeparators tables change) {separator : Char}
    (noWord : tables.isWord separator = false) (notDigit : ¬separator.isDigit)
    (text : List Char) :
    (change text).splitOn separator = (text.splitOn separator).map change := by
  induction text using parts_induction separator with
  | single text absent =>
      rw [List.splitOn_eq_singleton absent,
        List.splitOn_eq_singleton (keeps.not_mem notDigit absent)]
      rfl
  | more before after absent ih =>
      rw [keeps.separated separator noWord, List.splitOn_append_cons_self_of_not_mem absent,
        List.splitOn_append_cons_self_of_not_mem (keeps.not_mem notDigit absent), ih]
      rfl

/-- A single separator is not the result of a change. -/
theorem eq_singleton_iff (keeps : KeepsSeparators tables change) {separator : Char}
    (noWord : tables.isWord separator = false) (notDigit : ¬separator.isDigit)
    {text : List Char} : change text = [separator] ↔ text = [separator] := by
  have alone : change [separator] = [separator] := by
    have empty := (keeps.blank []).mpr rfl
    simpa [empty] using keeps.separated separator noWord [] []
  constructor
  · intro changed
    have member : separator ∈ text := by
      by_contra absent
      exact keeps.not_mem notDigit absent (by simp [changed])
    obtain ⟨before, after, rfl⟩ := List.append_of_mem member
    rw [keeps.separated separator noWord] at changed
    have lengths := congrArg List.length changed
    simp only [List.length_append, List.length_cons, List.length_nil] at lengths
    have noBefore : change before = [] := List.eq_nil_of_length_eq_zero (by omega)
    have noAfter : change after = [] := List.eq_nil_of_length_eq_zero (by omega)
    rw [(keeps.blank before).mp noBefore, (keeps.blank after).mp noAfter]
    rfl
  · rintro rfl
    exact alone

end KeepsSeparators

section SubWord

variable {tables : CharTables} {name replacement : List Char}

theorem subWord_separated {separator : Char} (noWord : tables.isWord separator = false)
    (run before after : List Char) :
    subWord tables name replacement run (before ++ separator :: after) =
      subWord tables name replacement run before ++
        separator :: subWord tables name replacement [] after := by
  induction before generalizing run with
  | nil => simp [subWord, noWord]
  | cons char rest ih =>
      simp only [List.cons_append, subWord, ih]
      split <;> simp

theorem mem_subWord {run text : List Char} {char : Char}
    (member : char ∈ subWord tables name replacement run text) :
    char ∈ run ∨ char ∈ text ∨ char ∈ replacement := by
  induction text generalizing run with
  | nil =>
      rw [subWord] at member
      split at member
      · exact .inr (.inr member)
      · exact .inl member
  | cons first rest ih =>
      rw [subWord] at member
      split at member
      · obtain inRun | inRest | replaced := ih member
        · obtain inRun | isFirst := List.mem_append.mp inRun
          · exact .inl inRun
          · exact .inr (.inl (List.mem_cons.mpr (.inl (List.mem_singleton.mp isFirst))))
        · exact .inr (.inl (List.mem_cons_of_mem _ inRest))
        · exact .inr (.inr replaced)
      · obtain inFirst | inLast := List.mem_append.mp member
        · split at inFirst
          · exact .inr (.inr inFirst)
          · exact .inl inFirst
        · obtain rfl | inLast := List.mem_cons.mp inLast
          · exact .inr (.inl List.mem_cons_self)
          · obtain inRun | inRest | replaced := ih inLast
            · simp at inRun
            · exact .inr (.inl (List.mem_cons_of_mem _ inRest))
            · exact .inr (.inr replaced)

theorem subWord_eq_nil_iff (named : name ≠ []) (replaced : replacement ≠ [])
    {run text : List Char} :
    subWord tables name replacement run text = [] ↔ run = [] ∧ text = [] := by
  induction text generalizing run with
  | nil =>
      rw [subWord]
      split
      next same => simp [replaced, same, named]
      next => simp
  | cons char rest ih =>
      rw [subWord]
      split
      · simp [ih]
      · simp

/-- A text of word characters is one run. -/
theorem subWord_word {run text : List Char} (word : ∀ char ∈ text, tables.isWord char) :
    subWord tables name replacement run text =
      if run ++ text = name then replacement else run ++ text := by
  induction text generalizing run with
  | nil => simp [subWord]
  | cons char rest ih =>
      rw [subWord, if_pos (word char List.mem_cons_self),
        ih fun other member => word other (List.mem_cons_of_mem _ member)]
      simp

end SubWord

/-- Text of the digits of a number. -/
theorem isDigit_of_mem_toString {number : Nat} {char : Char}
    (member : char ∈ (toString number).toList) : char.isDigit := by
  rw [Nat.toString_eq_ofList_toDigits, String.toList_ofList] at member
  exact Nat.isDigit_of_mem_toDigits (by decide) (by decide) member

theorem toString_toList_ne_nil (number : Nat) : (toString number).toList ≠ [] := by
  rw [Nat.toString_eq_ofList_toDigits, String.toList_ofList]
  exact Nat.toDigits_ne_nil

section Substitution

variable (tables : CharTables) (names : NameMap)

/-- The substitution of some of the entries of a name map. -/
def substituteEntries (entries : List (String × Nat)) (text : List Char) : List Char :=
  entries.foldl (fun text entry =>
    subWord tables entry.1.toList (toString entry.2).toList [] text) text

theorem keepsSeparators_subWord {entry : String × Nat} (named : entry.1 ≠ "") :
    KeepsSeparators tables
      (subWord tables entry.1.toList (toString entry.2).toList []) where
  separated separator noWord before after := subWord_separated noWord [] before after
  mem text char member := by
    obtain inRun | inText | inReplacement := mem_subWord member
    · simp at inRun
    · exact .inl inText
    · exact .inr (isDigit_of_mem_toString inReplacement)
  blank text := by
    rw [subWord_eq_nil_iff (by simpa using named) (toString_toList_ne_nil _)]
    simp

theorem keepsSeparators_substitute : KeepsSeparators tables (substituteNames tables names) := by
  have every : ∀ entries : List (String × Nat), (∀ entry ∈ entries, entry.1 ≠ "") →
      KeepsSeparators tables (substituteEntries tables entries) := by
    intro entries named
    induction entries with
    | nil =>
        exact ⟨fun _ _ _ _ => rfl, fun _ _ member => .inl member, fun _ => Iff.rfl⟩
    | cons entry entries ih =>
        have rest := ih fun other member => named other (List.mem_cons_of_mem _ member)
        exact rest.comp (keepsSeparators_subWord tables (named entry List.mem_cons_self))
  exact every names.entries fun entry member => (names.letters entry member).1

theorem isWord_of_isDigit {char : Char} (digit : char.isDigit) : tables.isWord char := by
  rw [tables.isWord_ascii char (by have := isDigit_iff.mp digit; omega)]
  simp [Char.isAlphanum, digit]

theorem isWord_of_isUpper {char : Char} (upper : char.isUpper) : tables.isWord char := by
  rw [tables.isWord_ascii char (by have := isUpper_iff.mp upper; omega)]
  have alpha : char.isAlpha = true := (Bool.or_eq_true _ _).mpr (.inl upper)
  simp [Char.isAlphanum, alpha]

theorem not_isUpper_of_isDigit {char : Char} (digit : char.isDigit) : ¬char.isUpper := by
  rw [isUpper_iff]
  have := isDigit_iff.mp digit
  omega

/-- Names in capital letters. -/
def CapitalNames (entries : List (String × Nat)) : Prop :=
  ∀ entry ∈ entries, ∀ char ∈ entry.1.toList, char.isUpper

/-- Digits are no name. -/
theorem substituteEntries_digits {entries : List (String × Nat)}
    (capital : CapitalNames entries) {text : List Char} (filled : text ≠ [])
    (digits : ∀ char ∈ text, char.isDigit) : substituteEntries tables entries text = text := by
  induction entries with
  | nil => rfl
  | cons entry entries ih =>
      have noName : [] ++ text ≠ entry.1.toList := by
        intro same
        obtain ⟨char, member⟩ := List.exists_mem_of_ne_nil text filled
        refine not_isUpper_of_isDigit (digits char member)
          (capital entry List.mem_cons_self char ?_)
        rwa [← same]
      have kept : subWord tables entry.1.toList (toString entry.2).toList [] text = text := by
        rw [subWord_word fun char member => isWord_of_isDigit tables (digits char member),
          if_neg noName]
        rfl
      rw [substituteEntries, List.foldl_cons, kept]
      exact ih fun other member => capital other (List.mem_cons_of_mem _ member)

/-- A name is replaced by its number, which is no name. -/
theorem substituteEntries_name {entries : List (String × Nat)} (capital : CapitalNames entries)
    (distinct : (entries.map Prod.fst).Nodup) {entry : String × Nat} (listed : entry ∈ entries) :
    substituteEntries tables entries entry.1.toList = (toString entry.2).toList := by
  induction entries with
  | nil => simp at listed
  | cons first rest ih =>
      have capitalRest : CapitalNames rest :=
        fun other member => capital other (List.mem_cons_of_mem _ member)
      obtain ⟨absent, distinctRest⟩ := List.nodup_cons.mp distinct
      rw [substituteEntries, List.foldl_cons,
        subWord_word fun char member => isWord_of_isUpper tables (capital entry listed char member)]
      obtain rfl | later := List.mem_cons.mp listed
      · rw [List.nil_append, if_pos rfl]
        exact substituteEntries_digits tables capitalRest (toString_toList_ne_nil _)
          fun char member => isDigit_of_mem_toString member
      · have other : entry.1.toList ≠ first.1.toList := by
          intro same
          exact absent (List.mem_map.mpr ⟨entry, later, String.toList_inj.mp same⟩)
        rw [List.nil_append, if_neg other]
        exact ih capitalRest distinctRest later

theorem NameMap.capital (names : NameMap) : CapitalNames names.entries :=
  fun entry member => (names.letters entry member).2

theorem substituteNames_digits {text : List Char} (filled : text ≠ [])
    (digits : ∀ char ∈ text, char.isDigit) : substituteNames tables names text = text :=
  substituteEntries_digits tables names.capital filled digits

theorem substituteNames_name {entry : String × Nat} (listed : entry ∈ names.entries) :
    substituteNames tables names entry.1.toList = (toString entry.2).toList :=
  substituteEntries_name tables names.capital names.distinct listed

end Substitution

/-! ## Numbers -/

/-- Decimal digits of ASCII. -/
def IsDigits (text : List Char) : Prop := text ≠ [] ∧ ∀ char ∈ text, char.isDigit

instance (text : List Char) : Decidable (IsDigits text) :=
  decidable_of_iff (text ≠ [] ∧ text.all Char.isDigit = true) (by rw [IsDigits, List.all_eq_true])

/-- The number that digits write. -/
def decimalValue (text : List Char) : Int := Nat.ofDigitChars 10 text 0

theorem digitsValue_eq (text : List Char) :
    (digitsValue (text.map fun char => char.toNat - 48) : Int) = decimalValue text := by
  rw [decimalValue, Nat.ofDigitChars_eq_foldl, digitsValue, List.foldl_map]
  rfl

theorem decimalValue_toString (number : Nat) : decimalValue (toString number).toList = number := by
  rw [decimalValue, Nat.toString_eq_ofList_toDigits, String.toList_ofList,
    Nat.ofDigitChars_ten_toDigits]

theorem stripText_eq_self {text : List Char} (noSpace : ∀ char ∈ text, isPySpace char = false) :
    stripText text = text := by
  have keeps : ∀ text : List Char, (∀ char ∈ text, isPySpace char = false) →
      text.dropWhile isPySpace = text := by
    intro text noSpace
    cases text with
    | nil => rfl
    | cons char rest => simp [List.dropWhile, noSpace char List.mem_cons_self]
  rw [stripText, keeps text noSpace,
    keeps text.reverse fun char member => noSpace char (List.mem_reverse.mp member),
    List.reverse_reverse]

/-- A digit is no other character. -/
theorem not_mem_digits {text : List Char} (digits : ∀ char ∈ text, char.isDigit) {char : Char}
    (other : char.isDigit = false) : char ∉ text := by
  intro member
  simp [digits char member] at other

theorem signOf_digits {text : List Char} (digits : ∀ char ∈ text, char.isDigit) :
    signOf text = (1, text) := by
  have noMinus : '-' ∉ text := not_mem_digits digits (by decide)
  have noPlus : '+' ∉ text := not_mem_digits digits (by decide)
  unfold signOf
  split
  next => simp at noMinus
  next => simp at noPlus
  next => rfl

theorem mapM_decimal (tables : CharTables) {text : List Char}
    (digits : ∀ char ∈ text, char.isDigit) :
    text.mapM tables.decimal = some (text.map fun char => char.toNat - 48) := by
  induction text with
  | nil => rfl
  | cons char rest ih =>
      rw [List.mapM_cons, tables.decimal_digit char (digits char List.mem_cons_self),
        ih fun other member => digits other (List.mem_cons_of_mem _ member)]
      rfl

/-- `int` reads digits, unless there are too many. -/
theorem int?_digits (tables : CharTables) {text : List Char} (digits : IsDigits text) :
    tables.int? text =
      if text.length ≤ maxStrDigits then some (decimalValue text) else none := by
  obtain ⟨filled, digits⟩ := digits
  have stripped : stripText text = text :=
    stripText_eq_self fun char member => not_isPySpace_of_isDigit (digits char member)
  have oneGroup : text.splitOn '_' = [text] :=
    List.splitOn_eq_singleton (not_mem_digits digits (by decide))
  have read : [text].mapM (fun group => if group = [] then none else group.mapM tables.decimal) =
      some [text.map fun char => char.toNat - 48] := by
    rw [List.mapM_cons, if_neg filled, mapM_decimal tables digits]
    rfl
  simp only [CharTables.int?, stripped, signOf_digits digits, oneGroup, read, bind,
    Option.bind_some, List.flatten_singleton, List.length_map, one_mul, digitsValue_eq]

end Era.Core
