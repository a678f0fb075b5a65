import Era.Core.CronGrammar

/-!
# Where `parse_field` is exact

`int` also reads signs, underscores and digits of other scripts, and no more than 4300 digits.
So `parse_field` accepts the grammar exactly for the fields whose numbers are written plainly,
and for those that both refuse.
-/

namespace Era.Core

section Agreement

variable (tables : CharTables) (names : NameMap)

/-- `int` reads the text of a number only as the grammar does, and has no limit in its way. -/
structure PlainNumberText (text : List Char) : Prop where
  plain : (readInt tables names text).isSome →
    IsDigits text ∨ ∃ entry ∈ names.entries, text = entry.1.toList
  short : IsDigits text → text.length ≤ maxStrDigits

/-- The same for the text of a step, where the grammar has no names. -/
structure PlainStepText (text : List Char) : Prop where
  plain : (readInt tables names text).isSome → IsDigits text
  short : IsDigits text → text.length ≤ maxStrDigits

/-- An element whose numbers are written plainly. -/
structure PlainElement (text : List Char) : Prop where
  numbers : ∀ part ∈ numberTexts text, PlainNumberText tables names part
  step : ∀ stepText, (splitStep text).2 = some stepText → PlainStepText tables names stepText

variable {tables names} {min max : Int}

theorem readInt_digits {text : List Char} (digits : IsDigits text) :
    readInt tables names text =
      if text.length ≤ maxStrDigits then some (decimalValue text) else none := by
  rw [readInt, substituteNames_digits tables names digits.1 digits.2, int?_digits tables digits]

theorem readInt_name {entry : String × Nat} (listed : entry ∈ names.entries) :
    readInt tables names entry.1.toList = some (entry.2 : Int) := by
  have digits : IsDigits (toString entry.2).toList :=
    ⟨toString_toList_ne_nil _, fun char member => isDigit_of_mem_toString member⟩
  have short := names.readable entry listed
  rw [← String.length_toList] at short
  rw [readInt, substituteNames_name tables names listed, int?_digits tables digits, if_pos short,
    decimalValue_toString]

theorem plainNumber_name {entry : String × Nat} (listed : entry ∈ names.entries) :
    plainNumber names entry.1.toList = some (entry.2 : Int) := number_iff.mp (.name listed)

theorem plainNumber_of_other {text : List Char} (noDigits : ¬IsDigits text)
    (noName : ¬∃ entry ∈ names.entries, text = entry.1.toList) : plainNumber names text = none := by
  rw [plainNumber, if_neg noDigits, Option.map_eq_none_iff, List.find?_eq_none]
  intro entry listed
  simpa using fun same => noName ⟨entry, listed, same.symm⟩

theorem PlainNumberText.same {text : List Char} (plainText : PlainNumberText tables names text) :
    readInt tables names text = plainNumber names text := by
  by_cases digits : IsDigits text
  · rw [readInt_digits digits, if_pos (plainText.short digits), plainNumber, if_pos digits]
  · by_cases named : ∃ entry ∈ names.entries, text = entry.1.toList
    · obtain ⟨entry, listed, rfl⟩ := named
      rw [readInt_name listed, plainNumber_name listed]
    · rw [plainNumber_of_other digits named]
      by_contra read
      exact (plainText.plain (Option.isSome_iff_ne_none.mpr read)).elim digits named

theorem PlainStepText.same {text : List Char} (plainText : PlainStepText tables names text) :
    readInt tables names text = plainStep text := by
  by_cases digits : IsDigits text
  · rw [readInt_digits digits, if_pos (plainText.short digits), plainStep, if_pos digits]
  · rw [plainStep, if_neg digits]
    by_contra read
    exact digits (plainText.plain (Option.isSome_iff_ne_none.mpr read))

theorem short_of_readInt {text : List Char} {value : Int} (digits : IsDigits text)
    (read : readInt tables names text = some value) : text.length ≤ maxStrDigits := by
  rw [readInt_digits digits] at read
  by_contra long
  simp [long] at read

/-- Plain elements are read alike. -/
theorem PlainElement.same {text : List Char} (plain : PlainElement tables names text) :
    readElement (readInt tables names) (readInt tables names) min max text =
      readElement (plainNumber names) plainStep min max text :=
  readElement_congr (fun part listed => (plain.numbers part listed).same)
    fun stepText stepped => (plain.step stepText stepped).same

/-- An element that both read is plain. -/
theorem plainElement_of_both {text : List Char} {values others : Finset Int}
    (read : readElement (readInt tables names) (readInt tables names) min max text = some values)
    (plainRead : readElement (plainNumber names) plainStep min max text = some others) :
    PlainElement tables names text := by
  obtain ⟨numbers, steps⟩ := readElement_some read
  obtain ⟨plainNumbers, plainSteps⟩ := readElement_some plainRead
  constructor
  · intro part listed
    obtain ⟨value, valueRead⟩ := numbers part listed
    obtain ⟨plainValue, number⟩ := plainNumbers part listed
    refine ⟨fun _ => ?_, fun digits => short_of_readInt digits valueRead⟩
    cases number_iff.mpr number with
    | digits digits => exact .inl digits
    | @name entry named => exact .inr ⟨entry, named, rfl⟩
  · intro stepText stepped
    obtain ⟨value, valueRead⟩ := steps stepText stepped
    obtain ⟨plainValue, stepRead⟩ := plainSteps stepText stepped
    refine ⟨fun _ => ?_, fun digits => short_of_readInt digits valueRead⟩
    by_contra noDigits
    simp [plainStep, noDigits] at stepRead

end Agreement

/-- `str.upper` makes no spaces. -/
def Platform.UpperAddsNoSpace (platform : Platform) : Prop :=
  ∀ text : String, (∀ char ∈ text.toList, isPySpace char = false) →
    ∀ char ∈ (platform.upper text).toList, isPySpace char = false

/-- A call that fails has raised `CronError`. -/
def RaisesCronError {α : Type} (answer : Except Raised α) : Prop :=
  ∀ raised, answer = .error raised → ∃ message, raised = cronError message

/-- `parse_field` accepts the fields of the grammar with the sets they denote, and refuses any
other with `CronError`. -/
structure GrammarExact (platform : Platform) (tables : CharTables) (text : String)
    (min max : Int) (names : NameMap) : Prop where
  accepts : ∀ allowed, parseField platform tables text min max names = .ok allowed ↔
    Denotes names min max (platform.upper text).toList allowed
  refuses : RaisesCronError (parseField platform tables text min max names)

section Refusal

variable {platform : Platform} {tables : CharTables} {min max : Int}

theorem RaisesCronError.bind {α β : Type} {first : Except Raised α} {next : α → Except Raised β}
    (firstRaises : RaisesCronError first) (nextRaises : ∀ value, RaisesCronError (next value)) :
    RaisesCronError (first.bind next) := by
  cases first with
  | error raised => exact fun other same => firstRaises other (by simpa [Except.bind] using same)
  | ok value => exact nextRaises value

theorem RaisesCronError.map {α β : Type} {first : Except Raised α} {change : α → β}
    (raises : RaisesCronError first) : RaisesCronError (first.map change) := by
  cases first with
  | error raised => exact fun other same => raises other (by simpa [Except.map] using same)
  | ok value => exact fun other same => by cases same

theorem raisesCronError_error {α : Type} (message : String) :
    RaisesCronError (.error (cronError message) : Except Raised α) :=
  fun _ same => ⟨message, (Except.error.inj same).symm⟩

theorem raisesCronError_ok {α : Type} (value : α) :
    RaisesCronError (.ok value : Except Raised α) := fun _ same => by cases same

theorem parseStep_raises (part : List Char) (stepText : Option (List Char)) :
    RaisesCronError (parseStep platform tables part stepText) := by
  cases stepText with
  | none => exact raisesCronError_ok 1
  | some text =>
      rw [parseStep]
      cases (tables.int? text).filter (0 < ·) with
      | none => exact raisesCronError_error _
      | some step => exact raisesCronError_ok step

theorem parseRange_raises (text : List Char) :
    RaisesCronError (parseRange platform tables min max text) := by
  unfold parseRange
  split
  · exact raisesCronError_ok _
  · split <;> split <;> first | exact raisesCronError_ok _ | exact raisesCronError_error _

theorem parsePart_raises (field part : List Char) :
    RaisesCronError (parsePart platform tables min max field part) := by
  unfold parsePart
  split
  · exact raisesCronError_error _
  · refine (parseStep_raises _ _).bind fun step => (parseRange_raises _).bind fun bounds => ?_
    dsimp only
    split
    · exact raisesCronError_error _
    · exact raisesCronError_ok _

theorem mapM_raises {α β : Type} {read : α → Except Raised β}
    (each : ∀ item, RaisesCronError (read item)) (items : List α) :
    RaisesCronError (items.mapM read) := by
  induction items with
  | nil => exact raisesCronError_ok _
  | cons item items ih =>
      rw [List.mapM_cons]
      exact (each item).bind fun first => ih.bind fun rest => raisesCronError_ok _

theorem parseField_raises (text : String) (names : NameMap) :
    RaisesCronError (parseField platform tables text min max names) := by
  unfold parseField
  dsimp only
  split
  · exact raisesCronError_error _
  · exact (mapM_raises (fun part => parsePart_raises _ part) _).map

end Refusal

/-- The fields for which `parse_field` is exact: those whose numbers are written plainly, and
those that have an element that is refused whatever `int` reads, and one that is not in the
grammar. -/
theorem grammarExact_iff {platform : Platform} (upperKeeps : platform.UpperAddsNoSpace)
    (tables : CharTables) {text : String} (noSpace : ∀ char ∈ text.toList, isPySpace char = false)
    (min max : Int) (names : NameMap) :
    GrammarExact platform tables text min max names ↔
      (∀ part ∈ (platform.upper text).toList.splitOn ',', PlainElement tables names part) ∨
        (∃ part ∈ (platform.upper text).toList.splitOn ',',
            readElement (readInt tables names) (readInt tables names) min max part = none) ∧
          ∃ part ∈ (platform.upper text).toList.splitOn ',',
            ∀ allowed, ¬Element names min max part allowed := by
  have stripped : pyStrip text = text := by
    have kept := stripText_eq_self noSpace
    exact (congrArg String.ofList kept).trans (by simp)
  have code : ∀ allowed, parseField platform tables text min max names = .ok allowed ↔
      Reads (readElement (readInt tables names) (readInt tables names) min max)
        (platform.upper text).toList allowed := by
    intro allowed
    rw [parseField_ok_iff_reads (by rw [stripped]; exact upperKeeps text noSpace), stripped]
  have exact_iff : GrammarExact platform tables text min max names ↔
      ∀ allowed, Reads (readElement (readInt tables names) (readInt tables names) min max)
          (platform.upper text).toList allowed ↔
        Reads (readElement (plainNumber names) plainStep min max)
          (platform.upper text).toList allowed := by
    constructor
    · rintro ⟨accepts, -⟩ allowed
      rw [← code, accepts, denotes_iff]
    · intro agree
      exact ⟨fun allowed => by rw [code, agree, denotes_iff], parseField_raises text names⟩
  rw [exact_iff]
  constructor
  · intro agree
    obtain both | ⟨refused, part, listed, outside⟩ := both_or_refused agree
    · left
      intro part listed
      obtain ⟨values, others, read, plainRead⟩ := both part listed
      exact plainElement_of_both read plainRead
    · right
      refine ⟨refused, part, listed, fun allowed element => ?_⟩
      simp [element_iff.mp element] at outside
  · rintro (plain | ⟨⟨part, listed, refused⟩, other, otherListed, outside⟩) allowed
    · constructor
      · exact Reads.congr fun part listed => (plain part listed).same
      · exact Reads.congr fun part listed => (plain part listed).same.symm
    · have otherRefused : readElement (plainNumber names) plainStep min max other = none := by
        by_contra read
        obtain ⟨values, read⟩ := Option.ne_none_iff_exists'.mp read
        exact outside values (element_iff.mpr read)
      exact iff_of_false (not_reads_of_refused listed refused allowed)
        (not_reads_of_refused otherListed otherRefused allowed)

/-! ## Examples -/

theorem isPySpace_toUpper {char : Char} (noSpace : isPySpace char = false) :
    isPySpace char.toUpper = false := by
  unfold Char.toUpper
  split
  next lower =>
    obtain ⟨low, high⟩ := lower
    simp only [ge_iff_le, UInt32.le_iff_toNat_le] at low high
    have a : 'a'.val.toNat = 97 := rfl
    have z : 'z'.val.toNat = 122 := rfl
    have shift : ('A'.val - 'a'.val).toNat = 4294967264 := rfl
    have value : (char.val + ('A'.val - 'a'.val)).toNat = char.val.toNat - 32 := by
      rw [UInt32.toNat_add, shift]
      omega
    refine not_isPySpace_of_isUpper (isUpper_iff.mpr ?_)
    simp only [Char.toNat, value]
    omega
  next => exact noSpace

theorem plain_upperAddsNoSpace : Platform.plain.UpperAddsNoSpace := by
  intro text noSpace char member
  simp only [Platform.plain, String.toUpper, String.toList_map, List.mem_map] at member
  obtain ⟨original, listed, rfl⟩ := member
  exact isPySpace_toUpper (noSpace original listed)

/-- A number is read exactly. -/
theorem grammarExact_demo : GrammarExact Platform.plain CharTables.ascii "5" 0 59 NameMap.none := by
  have noSpace : ∀ char ∈ "5".toList, isPySpace char = false := by
    intro char member
    obtain rfl := List.mem_singleton.mp member
    decide
  refine (grammarExact_iff plain_upperAddsNoSpace CharTables.ascii noSpace 0 59
    NameMap.none).mpr (.inl fun part listed => ?_)
  obtain rfl : part = ['5'] := by
    have parts : (Platform.plain.upper "5").toList.splitOn ',' = [['5']] := by decide +kernel
    simpa [parts] using listed
  refine ⟨fun number numberListed => ?_, fun stepText stepped => ?_⟩
  · obtain rfl : number = ['5'] := by
      have numbers : numberTexts ['5'] = [['5']] := by decide
      simpa [numbers] using numberListed
    exact ⟨fun _ => .inl (by decide), fun _ => by decide⟩
  · have noStep : (splitStep ['5']).2 = none := by decide
    simp [noStep] at stepped

/-- A sign is read, although the grammar has none. -/
theorem not_grammarExact :
    ¬GrammarExact Platform.plain CharTables.ascii "+5" 0 59 NameMap.none := by
  intro exact
  have parsed : parseField Platform.plain CharTables.ascii "+5" 0 59 NameMap.none = .ok {5} := by
    decide +kernel
  have denotes := (exact.accepts {5}).mp parsed
  have upper : (Platform.plain.upper "+5").toList = ['+', '5'] := by decide +kernel
  rw [upper, denotes_iff, reads_single_iff (by decide)] at denotes
  revert denotes
  decide +kernel

end Era.Core
