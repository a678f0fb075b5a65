import Era.Core.CronReading

/-!
# The grammar of a cron field

A field is a list of elements between commas: a star, a number or a range, with an optional
step.  `parse_field` takes its text apart like this grammar, but what `int` reads is a number
for it.  Both are readings of elements, which differ in how they read a number.
-/

namespace Era.Core

/-! ## The grammar -/

section Grammar

variable (names : NameMap) (min max : Int)

/-- A number: digits, or a name. -/
inductive Number : List Char → Int → Prop
  | digits {text : List Char} : IsDigits text → Number text (decimalValue text)
  | name {entry : String × Nat} : entry ∈ names.entries → Number entry.1.toList entry.2

/-- A star, a number or a range of numbers. -/
inductive Span : List Char → Int → Int → Prop
  | star : Span ['*'] min max
  | single {text : List Char} {value : Int} : Number names text value → Span text value value
  | range {firstText lastText : List Char} {first last : Int} : Number names firstText first →
      Number names lastText last → Span (firstText ++ '-' :: lastText) first last

/-- A span inside the bounds, with an optional positive step. -/
inductive Element : List Char → Finset Int → Prop
  | whole {text : List Char} {first last : Int} : Span names min max text first last →
      min ≤ first → first ≤ last → last ≤ max → Element text (wholeRange first last)
  | stepped {text stepText : List Char} {first last : Int} : Span names min max text first last →
      min ≤ first → first ≤ last → last ≤ max → IsDigits stepText → 0 < decimalValue stepText →
      Element (text ++ '/' :: stepText) (steppedRange first last (decimalValue stepText))

/-- Elements between commas, and the values that any of them allows. -/
inductive Denotes : List Char → Finset Int → Prop
  | last {text : List Char} {allowed : Finset Int} : Element names min max text allowed →
      Denotes text allowed
  | more {text rest : List Char} {allowed others : Finset Int} :
      Element names min max text allowed → Denotes rest others →
      Denotes (text ++ ',' :: rest) (allowed ∪ others)

end Grammar

/-! ## Reading elements -/

section Reading

variable (number step : List Char → Option Int) (min max : Int)

/-- A step, for any way to read it. -/
def readStep : Option (List Char) → Option Int
  | none => some 1
  | some stepText => (step stepText).filter (0 < ·)

/-- A star, a number or a range, for any way to read numbers. -/
def readSpan (text : List Char) : Option (Int × Int) :=
  if text = ['*'] then some (min, max)
  else
    match cut '-' text with
    | some (firstText, lastText) =>
        match number firstText, number lastText with
        | some first, some last => some (first, last)
        | _, _ => none
    | none => (number text).map fun value => (value, value)

/-- An element, for any way to read its numbers and its step. -/
def readElement (text : List Char) : Option (Finset Int) :=
  (readStep step (splitStep text).2).bind fun stride =>
    (readSpan number min max (splitStep text).1).bind fun (first, last) =>
      if first < min ∨ max < last ∨ last < first then none
      else some (steppedRange first last stride)

/-- The texts of the numbers of a span. -/
def spanNumbers (text : List Char) : List (List Char) :=
  if text = ['*'] then []
  else
    match cut '-' text with
    | some (firstText, lastText) => [firstText, lastText]
    | none => [text]

/-- The texts of the numbers of an element. -/
def numberTexts (text : List Char) : List (List Char) := spanNumbers (splitStep text).1

variable {number step min max} {other otherStep : List Char → Option Int}

theorem readSpan_congr {text : List Char}
    (same : ∀ part ∈ spanNumbers text, number part = other part) :
    readSpan number min max text = readSpan other min max text := by
  unfold spanNumbers at same
  unfold readSpan
  split
  next => rfl
  next notStar =>
    rw [if_neg notStar] at same
    cases found : cut '-' text with
    | none =>
        rw [found] at same
        dsimp only
        rw [same text (List.mem_singleton.mpr rfl)]
    | some parts =>
        rw [found] at same
        dsimp only
        rw [same parts.1 List.mem_cons_self,
          same parts.2 (List.mem_cons_of_mem _ List.mem_cons_self)]

/-- An element is read by its numbers and its step. -/
theorem readElement_congr {text : List Char}
    (numbers : ∀ part ∈ numberTexts text, number part = other part)
    (steps : ∀ stepText, (splitStep text).2 = some stepText → step stepText = otherStep stepText) :
    readElement number step min max text = readElement other otherStep min max text := by
  have stepSame : readStep step (splitStep text).2 = readStep otherStep (splitStep text).2 := by
    cases stepped : (splitStep text).2 with
    | none => rfl
    | some stepText => simp only [readStep, steps stepText stepped]
  rw [readElement, readElement, stepSame, readSpan_congr numbers]

theorem readSpan_some {text : List Char} {bounds : Int × Int}
    (read : readSpan number min max text = some bounds) :
    ∀ part ∈ spanNumbers text, ∃ value, number part = some value := by
  unfold spanNumbers
  unfold readSpan at read
  split at read
  next star => simp [star]
  next notStar =>
    rw [if_neg notStar]
    cases found : cut '-' text with
    | none =>
        simp only [found, Option.map_eq_some_iff] at read
        obtain ⟨value, value_eq, -⟩ := read
        simpa using ⟨value, value_eq⟩
    | some parts =>
        simp only [found] at read
        cases firstRead : number parts.1 with
        | none => simp [firstRead] at read
        | some first =>
            cases lastRead : number parts.2 with
            | none => simp [firstRead, lastRead] at read
            | some last => simp [firstRead, lastRead]

/-- The numbers and the step of an element that is read are read. -/
theorem readElement_some {text : List Char} {allowed : Finset Int}
    (read : readElement number step min max text = some allowed) :
    (∀ part ∈ numberTexts text, ∃ value, number part = some value) ∧
      ∀ stepText, (splitStep text).2 = some stepText → ∃ value, step stepText = some value := by
  obtain ⟨stride, strideRead, read⟩ := Option.bind_eq_some_iff.mp read
  obtain ⟨bounds, spanRead, -⟩ := Option.bind_eq_some_iff.mp read
  refine ⟨readSpan_some spanRead, fun stepText stepped => ?_⟩
  rw [stepped, readStep, Option.filter_eq_some_iff] at strideRead
  exact ⟨stride, strideRead.1⟩

end Reading

/-! ## What the code reads -/

section Code

variable (platform : Platform) (tables : CharTables) (names : NameMap) (min max : Int)

/-- `int` of a text whose names have been replaced. -/
def readInt (text : List Char) : Option Int := tables.int? (substituteNames tables names text)

variable {platform tables names min max}

theorem parseStep_ok_iff {part : List Char} {stepText : Option (List Char)} {stride : Int} :
    parseStep platform tables part stepText = .ok stride ↔
      readStep tables.int? stepText = some stride := by
  cases stepText with
  | none => simp [parseStep, readStep]
  | some text =>
      simp only [parseStep, readStep]
      cases (tables.int? text).filter (0 < ·) <;> simp

theorem parseRange_ok_iff {text : List Char} {bounds : Int × Int} :
    parseRange platform tables min max text = .ok bounds ↔
      readSpan tables.int? min max text = some bounds := by
  unfold parseRange readSpan
  split
  · simp
  · cases cut '-' text with
    | none => cases tables.int? text <;> simp
    | some parts =>
        obtain ⟨firstText, lastText⟩ := parts
        cases first : tables.int? firstText <;> cases last : tables.int? lastText <;>
          simp [first, last]

theorem parseElement_ok_iff {text : List Char} {allowed : Finset Int} :
    parseElement platform tables min max text = .ok allowed ↔
      readElement tables.int? tables.int? min max text = some allowed := by
  unfold parseElement readElement
  rw [bind_eq_ok_iff, Option.bind_eq_some_iff]
  simp only [parseStep_ok_iff, bind_eq_ok_iff, parseRange_ok_iff, Option.bind_eq_some_iff]
  refine exists_congr fun stride => and_congr_right fun _ =>
    exists_congr fun bounds => and_congr_right fun _ => ?_
  obtain ⟨first, last⟩ := bounds
  dsimp only
  split <;> simp

theorem splitStep_substitute (text : List Char) :
    splitStep (substituteNames tables names text) =
      (substituteNames tables names (splitStep text).1,
        (splitStep text).2.map (substituteNames tables names)) := by
  have keeps := keepsSeparators_substitute tables names
  rw [splitStep, keeps.cut_change (tables.isWord_ascii '/' (by decide)) (by decide), splitStep]
  cases cut '/' text <;> rfl

theorem readSpan_substitute (text : List Char) :
    readSpan tables.int? min max (substituteNames tables names text) =
      readSpan (readInt tables names) min max text := by
  have keeps := keepsSeparators_substitute tables names
  unfold readSpan
  rw [keeps.cut_change (tables.isWord_ascii '-' (by decide)) (by decide)]
  by_cases star : text = ['*']
  · rw [if_pos star, if_pos ((keeps.eq_singleton_iff (tables.isWord_ascii '*' (by decide))
      (by decide)).mpr star)]
  · rw [if_neg star, if_neg fun same => star ((keeps.eq_singleton_iff
      (tables.isWord_ascii '*' (by decide)) (by decide)).mp same)]
    cases cut '-' text <;> rfl

/-- Names can be replaced where the numbers of an element are read. -/
theorem readElement_substitute (text : List Char) :
    readElement tables.int? tables.int? min max (substituteNames tables names text) =
      readElement (readInt tables names) (readInt tables names) min max text := by
  rw [readElement, readElement, splitStep_substitute, readSpan_substitute]
  cases (splitStep text).2 <;> rfl

/-- What a reading of the elements of a text allows. -/
structure Reads (element : List Char → Option (Finset Int)) (text : List Char)
    (allowed : Finset Int) : Prop where
  each : ∀ part ∈ text.splitOn ',', ∃ values, element part = some values
  union : ∀ value, value ∈ allowed ↔
    ∃ part ∈ text.splitOn ',', ∃ values, element part = some values ∧ value ∈ values

theorem readElement_nil : readElement (readInt tables names) (readInt tables names) min max [] =
    none := by
  have nothing : readInt tables names [] = none := by
    rw [readInt, ((keepsSeparators_substitute tables names).blank []).mpr rfl]
    rfl
  have span : readSpan (readInt tables names) min max [] = none := by
    simp [readSpan, cut, nothing]
  simp [readElement, splitStep, cut, span, readStep]

theorem parsePart_substitute {field part : List Char}
    (noSpace : ∀ char ∈ part, isPySpace char = false) {allowed : Finset Int} :
    parsePart platform tables min max field (substituteNames tables names part) = .ok allowed ↔
      readElement (readInt tables names) (readInt tables names) min max part = some allowed := by
  have keeps := keepsSeparators_substitute tables names
  have stripped : stripText (substituteNames tables names part) =
      substituteNames tables names part := by
    refine stripText_eq_self fun char member => ?_
    obtain inPart | digit := keeps.mem part char member
    · exact noSpace char inPart
    · exact not_isPySpace_of_isDigit digit
  unfold parsePart
  rw [stripped]
  by_cases blank : substituteNames tables names part = []
  · obtain rfl := (keeps.blank part).mp blank
    simp [blank, readElement_nil]
  · rw [if_neg blank, parseElement_ok_iff, readElement_substitute]

/-- `parse_field` reads the elements of the text in capital letters. -/
theorem parseField_ok_iff_reads {text : String}
    (noSpace : ∀ char ∈ (platform.upper (pyStrip text)).toList, isPySpace char = false)
    {allowed : Finset Int} :
    parseField platform tables text min max names = .ok allowed ↔
      Reads (readElement (readInt tables names) (readInt tables names) min max)
        (platform.upper (pyStrip text)).toList allowed := by
  have keeps := keepsSeparators_substitute tables names
  rw [parseField_ok_iff]
  generalize (platform.upper (pyStrip text)).toList = upper at noSpace
  have parts_eq := keeps.splitOn_change (tables.isWord_ascii ',' (by decide)) (by decide) upper
  have part_iff : ∀ part ∈ upper.splitOn ',', ∀ values,
      parsePart platform tables min max (substituteNames tables names upper)
          (substituteNames tables names part) = .ok values ↔
        readElement (readInt tables names) (readInt tables names) min max part = some values :=
    fun part listed values => parsePart_substitute fun char member =>
      noSpace char (mem_of_mem_splitOn listed char member)
  rw [parts_eq]
  have union : ∀ parts, ((upper.splitOn ',').map (substituteNames tables names)).mapM
        (parsePart platform tables min max (substituteNames tables names upper)) = .ok parts →
      ∀ value, value ∈ parts.foldl (· ∪ ·) ∅ ↔ ∃ part ∈ upper.splitOn ',', ∃ values,
        readElement (readInt tables names) (readInt tables names) min max part = some values ∧
          value ∈ values := by
    intro parts run value
    rw [mem_foldl_union]
    simp only [Finset.notMem_empty, false_or, mem_mapM_iff run, List.mem_map]
    constructor
    · rintro ⟨values, ⟨_, ⟨part, listed, rfl⟩, parsed⟩, member⟩
      exact ⟨part, listed, values, (part_iff part listed values).mp parsed, member⟩
    · rintro ⟨part, listed, values, read, member⟩
      exact ⟨values, ⟨_, ⟨part, listed, rfl⟩, (part_iff part listed values).mpr read⟩, member⟩
  constructor
  · rintro ⟨-, parts, run, rfl⟩
    refine ⟨fun part listed => ?_, union parts run⟩
    obtain ⟨values, parsed⟩ := exists_mapM_ok_iff.mp ⟨parts, run⟩ _ (List.mem_map_of_mem listed)
    exact ⟨values, (part_iff part listed values).mp parsed⟩
  · intro reads
    have filled : upper ≠ [] := by
      rintro rfl
      obtain ⟨values, read⟩ := reads.each [] (by simp)
      simp [readElement_nil] at read
    obtain ⟨parts, run⟩ : ∃ parts, ((upper.splitOn ',').map (substituteNames tables names)).mapM
        (parsePart platform tables min max (substituteNames tables names upper)) = .ok parts := by
      refine exists_mapM_ok_iff.mpr fun changed listed => ?_
      obtain ⟨part, partListed, rfl⟩ := List.mem_map.mp listed
      obtain ⟨values, read⟩ := reads.each part partListed
      exact ⟨values, (part_iff part partListed values).mpr read⟩
    refine ⟨filled, parts, run, ?_⟩
    ext value
    rw [reads.union, union parts run]

end Code

/-! ## What the grammar reads -/

section Plain

variable (names : NameMap) (min max : Int)

/-- A step of the grammar. -/
def plainStep (text : List Char) : Option Int :=
  if IsDigits text then some (decimalValue text) else none

/-- A number of the grammar. -/
def plainNumber (text : List Char) : Option Int :=
  if IsDigits text then some (decimalValue text)
  else (names.entries.find? fun entry => entry.1.toList = text).map fun entry => entry.2

variable {names min max}

theorem not_isDigits_name {entry : String × Nat} (listed : entry ∈ names.entries) :
    ¬IsDigits entry.1.toList := by
  rintro ⟨filled, digits⟩
  obtain ⟨char, member⟩ := List.exists_mem_of_ne_nil _ filled
  exact not_isUpper_of_isDigit (digits char member) ((names.letters entry listed).2 char member)

theorem find?_name {entry : String × Nat} (listed : entry ∈ names.entries) :
    names.entries.find? (fun other => other.1.toList = entry.1.toList) = some entry := by
  cases found : names.entries.find? fun other => other.1.toList = entry.1.toList with
  | none =>
      have absent := List.find?_eq_none.mp found entry listed
      simp at absent
  | some other =>
      have same : other.1 = entry.1 :=
        String.toList_inj.mp (by simpa using List.find?_some found)
      exact congrArg some (List.inj_on_of_nodup_map names.distinct
        (List.mem_of_find?_eq_some found) listed same)

theorem number_iff {text : List Char} {value : Int} :
    Number names text value ↔ plainNumber names text = some value := by
  constructor
  · rintro (digits | listed)
    · exact if_pos digits
    · rw [plainNumber, if_neg (not_isDigits_name listed), find?_name listed]
      rfl
  · intro read
    unfold plainNumber at read
    split at read
    next digits =>
      obtain rfl := Option.some.inj read
      exact .digits digits
    next =>
      obtain ⟨entry, found, rfl⟩ := Option.map_eq_some_iff.mp read
      obtain rfl : entry.1.toList = text := by simpa using List.find?_some found
      exact .name (List.mem_of_find?_eq_some found)

/-- Numbers are digits or capital letters. -/
theorem Number.not_mem {text : List Char} {value : Int} (number : Number names text value)
    (char : Char) (notDigit : ¬char.isDigit) (notUpper : ¬char.isUpper) : char ∉ text := by
  intro member
  cases number with
  | digits digits => exact notDigit (digits.2 char member)
  | name listed => exact notUpper ((names.letters _ listed).2 char member)

theorem span_iff {text : List Char} {first last : Int} :
    Span names min max text first last ↔
      readSpan (plainNumber names) min max text = some (first, last) := by
  constructor
  · intro span
    cases span with
    | star => rfl
    | single number =>
        have notStar : text ≠ ['*'] := fun star =>
          number.not_mem '*' (by decide) (by decide) (star ▸ List.mem_singleton.mpr rfl)
        rw [readSpan, if_neg notStar,
          cut_eq_none_iff.mpr (number.not_mem '-' (by decide) (by decide)), number_iff.mp number]
        rfl
    | @range firstText lastText _ _ firstNumber lastNumber =>
        have notStar : firstText ++ '-' :: lastText ≠ ['*'] := fun star => by
          have member : '-' ∈ ['*'] := star ▸ List.mem_append_right _ List.mem_cons_self
          simp at member
        simp only [readSpan, if_neg notStar,
          cut_append (firstNumber.not_mem '-' (by decide) (by decide)),
          number_iff.mp firstNumber, number_iff.mp lastNumber]
  · intro read
    unfold readSpan at read
    split at read
    next star =>
      obtain ⟨rfl, rfl⟩ : min = first ∧ max = last := by simpa using read
      exact star ▸ .star
    next =>
      cases found : cut '-' text with
      | none =>
          simp only [found, Option.map_eq_some_iff, Prod.mk.injEq] at read
          obtain ⟨value, valueRead, rfl, rfl⟩ := read
          exact .single (number_iff.mpr valueRead)
      | some parts =>
          obtain ⟨firstText, lastText⟩ := parts
          obtain ⟨rfl, -⟩ := cut_eq_some found
          cases firstRead : plainNumber names firstText with
          | none => simp [found, firstRead] at read
          | some firstValue =>
              cases lastRead : plainNumber names lastText with
              | none => simp [found, firstRead, lastRead] at read
              | some lastValue =>
                  obtain ⟨rfl, rfl⟩ : firstValue = first ∧ lastValue = last := by
                    simpa [found, firstRead, lastRead] using read
                  exact .range (number_iff.mpr firstRead) (number_iff.mpr lastRead)

/-- No slash occurs in a span. -/
theorem Span.no_slash {text : List Char} {first last : Int}
    (span : Span names min max text first last) : '/' ∉ text := by
  cases span with
  | star => decide
  | single number => exact number.not_mem '/' (by decide) (by decide)
  | range firstNumber lastNumber =>
      simp [firstNumber.not_mem '/' (by decide) (by decide),
        lastNumber.not_mem '/' (by decide) (by decide)]

theorem Span.no_comma {text : List Char} {first last : Int}
    (span : Span names min max text first last) : ',' ∉ text := by
  cases span with
  | star => decide
  | single number => exact number.not_mem ',' (by decide) (by decide)
  | range firstNumber lastNumber =>
      simp [firstNumber.not_mem ',' (by decide) (by decide),
        lastNumber.not_mem ',' (by decide) (by decide)]

theorem steppedRange_one (first last : Int) :
    steppedRange first last 1 = wholeRange first last := by
  ext value
  simp [mem_steppedRange, Int.emod_one]

theorem element_iff {text : List Char} {allowed : Finset Int} :
    Element names min max text allowed ↔
      readElement (plainNumber names) plainStep min max text = some allowed := by
  constructor
  · intro element
    cases element with
    | @whole _ first last span low ordered high =>
        have noStep : splitStep text = (text, none) := by
          rw [splitStep, cut_eq_none_iff.mpr span.no_slash]
        have inBounds : ¬(first < min ∨ max < last ∨ last < first) := by omega
        simp only [readElement, noStep, readStep, Option.bind_some, span_iff.mp span,
          if_neg inBounds, steppedRange_one]
    | @stepped text stepText first last span low ordered high digits positive =>
        have withStep : splitStep (text ++ '/' :: stepText) = (text, some stepText) := by
          rw [splitStep, cut_append span.no_slash]
        have inBounds : ¬(first < min ∨ max < last ∨ last < first) := by omega
        have stride : readStep plainStep (some stepText) = some (decimalValue stepText) := by
          simp [readStep, plainStep, digits, positive]
        simp only [readElement, withStep, stride, Option.bind_some, span_iff.mp span,
          if_neg inBounds]
  · intro read
    obtain ⟨stride, strideRead, read⟩ := Option.bind_eq_some_iff.mp read
    obtain ⟨⟨first, last⟩, spanRead, read⟩ := Option.bind_eq_some_iff.mp read
    dsimp only at read
    split at read
    next => simp at read
    next inBounds =>
      obtain rfl := Option.some.inj read
      have span := span_iff.mpr spanRead
      unfold splitStep at strideRead span
      cases found : cut '/' text with
      | none =>
          rw [found] at strideRead span
          obtain rfl : 1 = stride := by simpa [readStep] using strideRead
          rw [steppedRange_one]
          exact .whole span (by omega) (by omega) (by omega)
      | some parts =>
          obtain ⟨rfl, -⟩ := cut_eq_some found
          rw [found] at strideRead span
          obtain ⟨stepRead, positive⟩ := Option.filter_eq_some_iff.mp strideRead
          unfold plainStep at stepRead
          split at stepRead
          next digits =>
            obtain rfl := Option.some.inj stepRead
            exact .stepped span (by omega) (by omega) (by omega) digits (by simpa using positive)
          next => simp at stepRead

theorem Element.no_comma {text : List Char} {allowed : Finset Int}
    (element : Element names min max text allowed) : ',' ∉ text := by
  cases element with
  | whole span => exact span.no_comma
  | stepped span _ _ _ digits =>
      simp only [List.mem_append, List.mem_cons, not_or]
      exact ⟨span.no_comma, by decide, not_mem_digits digits.2 (by decide)⟩

end Plain

section Union

variable {element : List Char → Option (Finset Int)}

/-- Elements that are all read allow a set together. -/
theorem exists_reads {text : List Char}
    (each : ∀ part ∈ text.splitOn ',', ∃ values, element part = some values) :
    ∃ allowed, Reads element text allowed := by
  have together : ∀ parts : List (List Char),
      (∀ part ∈ parts, ∃ values, element part = some values) →
      ∃ allowed : Finset Int, ∀ value, value ∈ allowed ↔
        ∃ part ∈ parts, ∃ values, element part = some values ∧ value ∈ values := by
    intro parts every
    induction parts with
    | nil => exact ⟨∅, by simp⟩
    | cons part parts ih =>
        obtain ⟨values, read⟩ := every part List.mem_cons_self
        obtain ⟨allowed, union⟩ :=
          ih fun other member => every other (List.mem_cons_of_mem _ member)
        exact ⟨values ∪ allowed, by simp [union, read]⟩
  obtain ⟨allowed, union⟩ := together _ each
  exact ⟨allowed, each, union⟩

theorem Reads.congr {second : List Char → Option (Finset Int)} {text : List Char}
    {allowed : Finset Int} (same : ∀ part ∈ text.splitOn ',', element part = second part)
    (reads : Reads element text allowed) : Reads second text allowed := by
  refine ⟨fun part listed => ?_, fun value => ?_⟩
  · rw [← same part listed]
    exact reads.each part listed
  · rw [reads.union]
    refine exists_congr fun part => and_congr_right fun listed => ?_
    rw [same part listed]

theorem not_reads_of_refused {text part : List Char} (listed : part ∈ text.splitOn ',')
    (refused : element part = none) (allowed : Finset Int) : ¬Reads element text allowed := by
  intro reads
  obtain ⟨values, read⟩ := reads.each part listed
  simp [refused] at read

/-- Readings that accept the same read every element, or refuse some element each. -/
theorem both_or_refused {second : List Char → Option (Finset Int)} {text : List Char}
    (agree : ∀ allowed, Reads element text allowed ↔ Reads second text allowed) :
    (∀ part ∈ text.splitOn ',', ∃ values others, element part = some values ∧
        second part = some others) ∨
      (∃ part ∈ text.splitOn ',', element part = none) ∧
        ∃ part ∈ text.splitOn ',', second part = none := by
  have both : (∃ allowed, Reads element text allowed) →
      ∀ part ∈ text.splitOn ',', ∃ values others, element part = some values ∧
        second part = some others := by
    rintro ⟨allowed, reads⟩ part listed
    obtain ⟨values, read⟩ := reads.each part listed
    obtain ⟨others, otherRead⟩ := ((agree allowed).mp reads).each part listed
    exact ⟨values, others, read, otherRead⟩
  by_cases refused : ∃ part ∈ text.splitOn ',', element part = none
  · by_cases otherRefused : ∃ part ∈ text.splitOn ',', second part = none
    · exact .inr ⟨refused, otherRefused⟩
    · simp only [not_exists, not_and, ← ne_eq, Option.ne_none_iff_exists'] at otherRefused
      obtain ⟨allowed, reads⟩ := exists_reads otherRefused
      exact .inl (both ⟨allowed, (agree allowed).mpr reads⟩)
  · simp only [not_exists, not_and, ← ne_eq, Option.ne_none_iff_exists'] at refused
    exact .inl (both (exists_reads refused))

end Union

theorem reads_single_iff {element : List Char → Option (Finset Int)} {text : List Char}
    (absent : ',' ∉ text) {allowed : Finset Int} :
    Reads element text allowed ↔ element text = some allowed := by
  constructor
  · rintro ⟨each, union⟩
    simp only [List.splitOn_eq_singleton absent, List.mem_singleton, forall_eq, exists_eq_left]
      at each union
    obtain ⟨values, read⟩ := each
    rw [read]
    congr 1
    ext value
    simp [union, read]
  · intro read
    constructor <;> simp [List.splitOn_eq_singleton absent, read]

theorem reads_cons_iff {element : List Char → Option (Finset Int)} {before after : List Char}
    (absent : ',' ∉ before) {allowed : Finset Int} :
    Reads element (before ++ ',' :: after) allowed ↔
      ∃ values others, element before = some values ∧ Reads element after others ∧
        allowed = values ∪ others := by
  have parts := List.splitOn_append_cons_self_of_not_mem absent after
  constructor
  · rintro ⟨each, union⟩
    simp only [parts, List.forall_mem_cons, List.exists_mem_cons_iff] at each union
    obtain ⟨⟨values, read⟩, eachAfter⟩ := each
    obtain ⟨others, reads⟩ := exists_reads eachAfter
    refine ⟨values, others, read, reads, ?_⟩
    ext value
    simp [union, read, reads.union]
  · rintro ⟨values, others, read, reads, rfl⟩
    refine ⟨?_, fun value => ?_⟩
    · simp only [parts, List.forall_mem_cons]
      exact ⟨⟨values, read⟩, reads.each⟩
    · simp [parts, read, reads.union]

/-- A field is in the grammar when its elements are read with the numbers of the grammar. -/
theorem denotes_iff {names : NameMap} {min max : Int} {text : List Char} {allowed : Finset Int} :
    Denotes names min max text allowed ↔
      Reads (readElement (plainNumber names) plainStep min max) text allowed := by
  constructor
  · intro denotes
    induction denotes with
    | last element => exact (reads_single_iff element.no_comma).mpr (element_iff.mp element)
    | more element _ ih =>
        exact (reads_cons_iff element.no_comma).mpr ⟨_, _, element_iff.mp element, ih, rfl⟩
  · intro reads
    induction text using parts_induction ',' generalizing allowed with
    | single text absent => exact .last (element_iff.mpr ((reads_single_iff absent).mp reads))
    | more before after absent ih =>
        obtain ⟨values, others, read, readsAfter, rfl⟩ := (reads_cons_iff absent).mp reads
        exact .more (element_iff.mpr read) (ih readsAfter)

end Era.Core
