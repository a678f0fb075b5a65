import Mathlib.Data.List.TakeWhile
import Era.Security.Hashing

/-!
# JSON text

`json.dumps` under a choice of separators, and `json.loads`.  What has been
written is read back, so a text stands for one document, and nothing is read that
is not a document.
-/

namespace Era.Security

open Era.Core

/-! ## Writing -/

/-- Texts with a separator between any two. -/
def separated (separator : List Char) : List (List Char) → List Char
  | [] => []
  | [item] => item
  | item :: next :: rest => item ++ (separator ++ separated separator (next :: rest))

/-- `json.dumps` with `space` behind each comma and colon. -/
def jsonDumps (platform : Platform) (space : List Char) : Value → List Char
  | .none => "null".toList
  | .bool true => "true".toList
  | .bool false => "false".toList
  | .int number => (toString number).toList
  | .float number => renderFloat platform number
  | .str text => encodeString text
  | .list items => '[' :: (separated (',' :: space) (dumpItems items) ++ [']'])
  | .dict fields => '{' :: (separated (',' :: space) (dumpFields fields) ++ ['}'])
where
  dumpItems : List Value → List (List Char)
    | [] => []
    | item :: rest => jsonDumps platform space item :: dumpItems rest
  dumpFields : Params → List (List Char)
    | [] => []
    | (key, item) :: rest =>
        (encodeString key ++ (':' :: space ++ jsonDumps platform space item)) :: dumpFields rest

/-- No dictionary of a document has two fields of one key. -/
def DistinctKeys : Value → Prop
  | .list items => distinctItems items
  | .dict fields => (fields.map Prod.fst).Nodup ∧ distinctFields fields
  | _ => True
where
  distinctItems : List Value → Prop
    | [] => True
    | item :: rest => DistinctKeys item ∧ distinctItems rest
  distinctFields : Params → Prop
    | [] => True
    | (_, item) :: rest => DistinctKeys item ∧ distinctFields rest

/-! ## Reading -/

/-- The white space of JSON. -/
def isJsonSpace (char : Char) : Bool := [' ', '\t', '\n', '\r'].contains char

def skipSpace (text : List Char) : List Char := text.dropWhile isJsonSpace

/-- Characters of which numbers consist; none of them may follow a number. -/
def isNumberChar (char : Char) : Bool :=
  char.isDigit || ['-', '+', '.', 'e', 'E'].contains char

/-- `0|[1-9][0-9]*`. -/
def naturalLiteral : List Char → Bool
  | [] => false
  | ['0'] => true
  | first :: rest => first.isDigit && first != '0' && rest.all Char.isDigit

/-- `[0-9]+`. -/
def digitsLiteral (text : List Char) : Bool := !text.isEmpty && text.all Char.isDigit

/-- `[eE][-+]?[0-9]+`. -/
def exponentLiteral : List Char → Bool
  | [] => false
  | mark :: rest =>
      (mark == 'e' || mark == 'E') &&
        match rest with
        | '+' :: digits | '-' :: digits => digitsLiteral digits
        | digits => digitsLiteral digits

/-- A natural number with a fraction, an exponent or both. -/
def unsignedFloatLiteral (text : List Char) : Bool :=
  naturalLiteral (text.takeWhile Char.isDigit) &&
    match text.dropWhile Char.isDigit with
    | '.' :: fraction =>
        digitsLiteral (fraction.takeWhile Char.isDigit) &&
          ((fraction.dropWhile Char.isDigit).isEmpty ||
            exponentLiteral (fraction.dropWhile Char.isDigit))
    | tail => exponentLiteral tail

def floatLiteral : List Char → Bool
  | '-' :: text => unsignedFloatLiteral text
  | text => unsignedFloatLiteral text

/-- An integer literal as a number. -/
def readInt : List Char → Option Int
  | '-' :: digits =>
      if naturalLiteral digits then some (-(Nat.ofDigitChars 10 digits 0 : Nat)) else none
  | digits => if naturalLiteral digits then some (Nat.ofDigitChars 10 digits 0 : Nat) else none

/-- `float` of a text, and what is documented about it: it undoes `repr`, which
writes a fraction or an exponent. -/
structure FloatReading (platform : Platform) where
  parse : String → PyFloat
  repr_literal : ∀ number : PyFloat, number.isFinite = true →
    floatLiteral (platform.floatRepr number).toList = true
  parse_repr : ∀ number : PyFloat, number.isFinite = true →
    parse (platform.floatRepr number) = number

/-- One lower-case or upper-case hexadecimal digit. -/
def isHexDigit (char : Char) : Bool :=
  char.isDigit || (97 ≤ char.toNat && char.toNat ≤ 102) || (65 ≤ char.toNat && char.toNat ≤ 70)

/-- Whether a character of a string literal may stand here.  The second half of a
surrogate pair may not stand alone. -/
def legalInString : List Char → Bool
  | '\\' :: 'u' :: first :: second :: third :: fourth :: _ =>
      [first, second, third, fourth].all isHexDigit &&
        !(0xdc00 ≤ unitValue first second third fourth &&
          unitValue first second third fourth < 0xe000)
  | '\\' :: char :: _ => ['"', '\\', '/', 'b', 'f', 'n', 'r', 't'].contains char
  | char :: _ => 0x20 ≤ char.toNat
  | [] => false

/-- The rest of a string literal, up to its closing quotation mark. -/
def readChars : Nat → List Char → Option (List Char × List Char)
  | 0, _ => none
  | _ + 1, '"' :: rest => some ([], rest)
  | fuel + 1, text =>
      if legalInString text then do
        let (char, rest) ← unescapeChar text
        let (chars, rest) ← readChars fuel rest
        some (char :: chars, rest)
      else none

def readString (text : List Char) : Option (String × List Char) :=
  (readChars (text.length + 1) text).map fun (chars, rest) => (String.ofList chars, rest)

/-- The words of JSON, and those that Python adds. -/
def keywords : List (String × Value) :=
  [("null", .none), ("true", .bool true), ("false", .bool false), ("NaN", .float .nan),
    ("Infinity", .float .posInf), ("-Infinity", .float .negInf)]

def readKeyword (text : List Char) : Option (Value × List Char) :=
  keywords.findSome? fun (word, value) =>
    if word.toList.isPrefixOf text then some (value, text.drop word.length) else none

/-- A dictionary from its items: a repeated key keeps its place and takes the
later value. -/
def dictOf (items : Params) : Params :=
  items.foldl (fun dict (key, item) =>
    if dict.any (fun field => field.1 == key) then
      dict.map fun field => if field.1 = key then (key, item) else field
    else dict ++ [(key, item)]) []

section Reader

variable {platform : Platform} (floats : FloatReading platform)

def readNumber (text : List Char) : Option (Value × List Char) :=
  let token := text.takeWhile isNumberChar
  let rest := text.dropWhile isNumberChar
  if floatLiteral token then some (.float (floats.parse (String.ofList token)), rest)
  else (readInt token).map fun number => (.int number, rest)

mutual

/-- Read one document, within a bound on the depth of the recursion. -/
def readValue : Nat → List Char → Option (Value × List Char)
  | 0, _ => none
  | fuel + 1, text =>
      match skipSpace text with
      | '"' :: rest => (readString rest).map fun (text, rest) => (.str text, rest)
      | '[' :: rest =>
          match skipSpace rest with
          | ']' :: rest => some (.list [], rest)
          | _ => (readItems fuel rest).map fun (items, rest) => (.list items, rest)
      | '{' :: rest =>
          match skipSpace rest with
          | '}' :: rest => some (.dict [], rest)
          | _ => (readFields fuel rest).map fun (fields, rest) => (.dict (dictOf fields), rest)
      | rest => (readKeyword rest).or (readNumber floats rest)

def readItems : Nat → List Char → Option (List Value × List Char)
  | 0, _ => none
  | fuel + 1, text => do
      let (item, rest) ← readValue fuel text
      match skipSpace rest with
      | ']' :: rest => some ([item], rest)
      | ',' :: rest =>
          let (items, rest) ← readItems fuel rest
          some (item :: items, rest)
      | _ => none

def readFields : Nat → List Char → Option (Params × List Char)
  | 0, _ => none
  | fuel + 1, text =>
      match skipSpace text with
      | '"' :: rest => do
          let (key, rest) ← readString rest
          match skipSpace rest with
          | ':' :: rest =>
              let (item, rest) ← readValue fuel rest
              match skipSpace rest with
              | '}' :: rest => some ([(key, item)], rest)
              | ',' :: rest =>
                  let (fields, rest) ← readFields fuel rest
                  some ((key, item) :: fields, rest)
              | _ => none
          | _ => none
      | _ => none

end

/-- `json.loads`. -/
def jsonLoads (text : List Char) : Option Value :=
  match readValue floats (text.length + 1) text with
  | some (value, rest) => if (skipSpace rest).isEmpty then some value else none
  | none => none

end Reader

/-! ## Numbers are read back -/

theorem toDigits_succ_head (number : Nat) (positive : 0 < number) :
    ∃ first rest, Nat.toDigits 10 number = first :: rest ∧ first ≠ '0' := by
  induction number using Nat.strongRecOn with
  | _ number ih =>
      by_cases small : number < 10
      · refine ⟨_, _, Nat.toDigits_of_lt_base small, ?_⟩
        have nonzero : ∀ digit < 10, 0 < digit → Nat.digitChar digit ≠ '0' := by decide
        exact nonzero number small positive
      · obtain ⟨first, rest, digits, nonzero⟩ :=
          ih (number / 10) (by omega) (by omega)
        exact ⟨first, _, by rw [Nat.toDigits_of_base_le (by decide) (by omega), digits]; rfl,
          nonzero⟩

theorem isDigit_toDigits (number : Nat) :
    ∀ char ∈ Nat.toDigits 10 number, char.isDigit = true :=
  fun _ member => Nat.isDigit_of_mem_toDigits (by decide) (by decide) member

theorem naturalLiteral_toDigits (number : Nat) :
    naturalLiteral (Nat.toDigits 10 number) = true := by
  cases number with
  | zero => rfl
  | succ number =>
      obtain ⟨first, rest, digits, nonzero⟩ := toDigits_succ_head (number + 1) (by omega)
      have allDigits := isDigit_toDigits (number + 1)
      rw [digits] at allDigits ⊢
      unfold naturalLiteral
      split
      next empty => cases empty
      · rfl
      next split_eq =>
        obtain ⟨rfl, rfl⟩ := List.cons.inj split_eq
        simp only [Bool.and_eq_true, bne_iff_ne, List.all_eq_true]
        exact ⟨⟨allDigits _ List.mem_cons_self, nonzero⟩,
          fun char member => allDigits char (List.mem_cons_of_mem _ member)⟩

/-- Nothing but digits, with a sign at most. -/
inductive IntegerText : List Char → Int → Prop where
  | natural (number : Nat) : IntegerText (Nat.toDigits 10 number) number
  | negative (number : Nat) : IntegerText ('-' :: Nat.toDigits 10 number) (-number)

theorem integerText_toString (number : Int) : IntegerText (toString number).toList number := by
  cases number with
  | ofNat number =>
      have text : (toString (Int.ofNat number)).toList = Nat.toDigits 10 number := by
        simp [Int.toString_eq_repr, Int.repr_eq_if]
      rw [text]
      exact .natural number
  | negSucc number =>
      have text : (toString (Int.negSucc number)).toList =
          '-' :: Nat.toDigits 10 (number + 1) := by
        simp [Int.toString_eq_repr, Int.repr_eq_if]
      rw [text]
      exact .negative (number + 1)

theorem readInt_integerText {text : List Char} {number : Int}
    (integer : IntegerText text number) : readInt text = some number := by
  cases integer with
  | natural number =>
      unfold readInt
      split
      next digits text_eq =>
        have digit := isDigit_toDigits number '-' (by rw [text_eq]; exact List.mem_cons_self)
        simp at digit
      · simp [naturalLiteral_toDigits]
  | negative number => simp [readInt, naturalLiteral_toDigits]

theorem toString_inj {left right : Int}
    (equal : (toString left).toList = (toString right).toList) : left = right := by
  have read := readInt_integerText (integerText_toString left)
  rw [equal, readInt_integerText (integerText_toString right)] at read
  exact (Option.some.inj read).symm

/-- What follows the last separator of a text. -/
theorem eq_of_append_cons_eq {separator : Char} {left right before after : List Char}
    (equal : before ++ separator :: left = after ++ separator :: right)
    (not_left : separator ∉ left) (not_right : separator ∉ right) : left = right := by
  obtain ⟨middle, rfl, right_eq⟩ | ⟨middle, rfl, left_eq⟩ := List.append_eq_append_iff.mp equal
  · cases middle with
    | nil => exact (List.cons.inj right_eq).2
    | cons first rest =>
        obtain ⟨_, rfl⟩ := List.cons.inj right_eq
        simp at not_left
  · cases middle with
    | nil => exact (List.cons.inj left_eq).2.symm
    | cons first rest =>
        obtain ⟨_, rfl⟩ := List.cons.inj left_eq
        simp at not_right

theorem floatLiteral_integerText {text : List Char} {number : Int}
    (integer : IntegerText text number) : floatLiteral text = false := by
  have digitsOnly : ∀ number, unsignedFloatLiteral (Nat.toDigits 10 number) = false := by
    intro number
    have tail : (Nat.toDigits 10 number).dropWhile Char.isDigit = [] :=
      List.dropWhile_eq_nil_iff.mpr (isDigit_toDigits number)
    simp [unsignedFloatLiteral, tail, exponentLiteral]
  cases integer with
  | natural number =>
      unfold floatLiteral
      split
      next digits text_eq =>
        have digit := isDigit_toDigits number '-' (by rw [text_eq]; exact List.mem_cons_self)
        simp at digit
      · exact digitsOnly number
  | negative number => exact digitsOnly number

/-- The text of a number: number characters, the first of them a digit or a sign in
front of one. -/
structure NumberText (text : List Char) : Prop where
  numberChars : ∀ char ∈ text, isNumberChar char = true
  starts : ∃ first rest, text = first :: rest ∧
    (first.isDigit = true ∨ first = '-' ∧ ∃ second tail, rest = second :: tail ∧
      second.isDigit = true)

theorem isNumberChar_of_isDigit {char : Char} (digit : char.isDigit = true) :
    isNumberChar char = true := by
  simp [isNumberChar, digit]

theorem numberText_integerText {text : List Char} {number : Int}
    (integer : IntegerText text number) : NumberText text := by
  have digitsStart : ∀ number, ∃ first rest, Nat.toDigits 10 number = first :: rest ∧
      first.isDigit = true := by
    intro number
    obtain ⟨first, rest, digits⟩ := List.exists_cons_of_ne_nil
      (Nat.toDigits_ne_nil (n := number) (b := 10))
    exact ⟨first, rest, digits,
      isDigit_toDigits number first (by rw [digits]; exact List.mem_cons_self)⟩
  cases integer with
  | natural number =>
      obtain ⟨first, rest, digits, digit⟩ := digitsStart number
      exact ⟨fun char member => isNumberChar_of_isDigit (isDigit_toDigits number char member),
        first, rest, digits, .inl digit⟩
  | negative number =>
      obtain ⟨first, rest, digits, digit⟩ := digitsStart number
      refine ⟨fun char member => ?_, '-', _, rfl, .inr ⟨rfl, first, rest, digits, digit⟩⟩
      cases List.mem_cons.mp member with
      | inl sign =>
          subst sign
          rfl
      | inr later => exact isNumberChar_of_isDigit (isDigit_toDigits number char later)

theorem numberChars_of_digitsLiteral {text : List Char} (literal : digitsLiteral text = true) :
    ∀ char ∈ text, isNumberChar char = true := by
  intro char member
  simp only [digitsLiteral, Bool.and_eq_true, List.all_eq_true] at literal
  exact isNumberChar_of_isDigit (literal.2 char member)

theorem numberChars_of_exponentLiteral {text : List Char}
    (literal : exponentLiteral text = true) : ∀ char ∈ text, isNumberChar char = true := by
  cases text with
  | nil => simp
  | cons mark rest =>
      simp only [exponentLiteral, Bool.and_eq_true, Bool.or_eq_true, beq_iff_eq] at literal
      obtain ⟨isMark, digits⟩ := literal
      intro char member
      cases List.mem_cons.mp member with
      | inl first =>
          subst first
          obtain rfl | rfl := isMark <;> rfl
      | inr later =>
          split at digits
          all_goals first
            | exact numberChars_of_digitsLiteral digits char later
            | cases List.mem_cons.mp later with
              | inl sign =>
                  subst sign
                  rfl
              | inr digit => exact numberChars_of_digitsLiteral digits char digit

theorem numberText_unsignedFloatLiteral {text : List Char}
    (literal : unsignedFloatLiteral text = true) :
    (∀ char ∈ text, isNumberChar char = true) ∧
      ∃ first rest, text = first :: rest ∧ first.isDigit = true := by
  simp only [unsignedFloatLiteral, Bool.and_eq_true] at literal
  obtain ⟨whole, tail⟩ := literal
  have tailChars : ∀ char ∈ text.dropWhile Char.isDigit, isNumberChar char = true := by
    split at tail
    next fraction tail_eq =>
      simp only [Bool.and_eq_true, Bool.or_eq_true] at tail
      obtain ⟨digits, last⟩ := tail
      rw [tail_eq, ← List.takeWhile_append_dropWhile (p := Char.isDigit) (l := fraction)]
      intro char member
      cases List.mem_cons.mp member with
      | inl point =>
          subst point
          rfl
      | inr later =>
          cases List.mem_append.mp later with
          | inl digit => exact numberChars_of_digitsLiteral digits char digit
          | inr rest =>
              cases last with
              | inl empty => simp [List.isEmpty_iff.mp empty] at rest
              | inr exponent => exact numberChars_of_exponentLiteral exponent char rest
    · exact numberChars_of_exponentLiteral tail
  constructor
  · rw [← List.takeWhile_append_dropWhile (p := Char.isDigit) (l := text)]
    intro char member
    cases List.mem_append.mp member with
    | inl digit =>
        exact isNumberChar_of_isDigit (List.mem_takeWhile_imp digit)
    | inr rest => exact tailChars char rest
  · cases text with
    | nil => simp [naturalLiteral] at whole
    | cons first rest =>
        refine ⟨first, rest, rfl, ?_⟩
        by_contra notDigit
        simp [notDigit, naturalLiteral] at whole

theorem numberText_floatLiteral {text : List Char} (literal : floatLiteral text = true) :
    NumberText text := by
  unfold floatLiteral at literal
  split at literal
  next unsigned =>
    obtain ⟨chars, second, tail, rest_eq, digit⟩ := numberText_unsignedFloatLiteral literal
    refine ⟨fun char member => ?_, '-', unsigned, rfl, .inr ⟨rfl, second, tail, rest_eq, digit⟩⟩
    cases List.mem_cons.mp member with
    | inl sign =>
        subst sign
        rfl
    | inr later => exact chars char later
  · obtain ⟨chars, first, rest, text_eq, digit⟩ := numberText_unsignedFloatLiteral literal
    exact ⟨chars, first, rest, text_eq, .inl digit⟩

/-- What follows does not go on with a number. -/
def Delimited (rest : List Char) : Prop := ∀ char ∈ rest.head?, isNumberChar char = false

theorem takeWhile_numberText {text rest : List Char} (number : NumberText text)
    (delimited : Delimited rest) :
    (text ++ rest).takeWhile isNumberChar = text ∧
      (text ++ rest).dropWhile isNumberChar = rest := by
  have noMore : rest.takeWhile isNumberChar = [] ∧ rest.dropWhile isNumberChar = rest := by
    cases rest with
    | nil => exact ⟨rfl, rfl⟩
    | cons char rest =>
        have stops := delimited char rfl
        simp [stops]
  rw [List.takeWhile_append_of_pos number.numberChars,
    List.dropWhile_append_of_pos number.numberChars, noMore.1, noMore.2]
  exact ⟨List.append_nil text, rfl⟩

/-- No keyword starts like a number. -/
theorem readKeyword_numberText {text rest : List Char} (number : NumberText text) :
    readKeyword (text ++ rest) = none := by
  obtain ⟨first, tail, rfl, digit | ⟨rfl, second, tail, rfl, digit⟩⟩ := number.starts
  · have notLetter : ∀ char, char.isDigit = false → char ≠ first := by
      rintro char notDigit rfl
      exact Bool.false_ne_true (notDigit.symm.trans digit)
    have letters := And.intro (notLetter 'n' rfl) (And.intro (notLetter 't' rfl)
      (And.intro (notLetter 'f' rfl) (And.intro (notLetter 'N' rfl)
        (And.intro (notLetter 'I' rfl) (notLetter '-' rfl)))))
    simp [readKeyword, keywords, letters]
  · have notLetter : 'I' ≠ second := by
      rintro rfl
      simp at digit
    simp [readKeyword, keywords, notLetter]

theorem readNumber_integer {platform : Platform} (floats : FloatReading platform) (number : Int)
    {rest : List Char} (delimited : Delimited rest) :
    readNumber floats ((toString number).toList ++ rest) = some (.int number, rest) := by
  have integer := integerText_toString number
  obtain ⟨token, remaining⟩ := takeWhile_numberText (numberText_integerText integer) delimited
  simp only [readNumber, token, remaining, floatLiteral_integerText integer,
    readInt_integerText integer, Bool.false_eq_true, if_false, Option.map_some]

theorem readNumber_float {platform : Platform} (floats : FloatReading platform)
    {number : PyFloat} (finite : number.isFinite = true) {rest : List Char}
    (delimited : Delimited rest) :
    readNumber floats ((platform.floatRepr number).toList ++ rest) =
      some (.float number, rest) := by
  have literal := floats.repr_literal number finite
  obtain ⟨token, remaining⟩ := takeWhile_numberText (numberText_floatLiteral literal) delimited
  simp [readNumber, token, remaining, literal, floats.parse_repr number finite]

/-! ## Strings are read back -/

theorem isHexDigit_hexDigit (digit : Nat) : isHexDigit (hexDigit digit) = true := by
  have allDigits : ∀ value < 16, isHexDigit (Nat.digitChar value) = true := by decide
  exact allDigits _ (Nat.mod_lt _ (by decide))

theorem legalInString_unicodeEscape {unit : Nat} (bound : unit < 0x10000)
    (notLow : ¬(0xdc00 ≤ unit ∧ unit < 0xe000)) (rest : List Char) :
    legalInString (unicodeEscape unit ++ rest) = true := by
  simp only [unicodeEscape, List.cons_append, List.nil_append, legalInString,
    unitValue_unicodeEscape bound, isHexDigit_hexDigit, List.all_cons, List.all_nil,
    Bool.and_true, Bool.true_and]
  have outside : unit < 0xdc00 ∨ 0xe000 ≤ unit := by omega
  simpa using outside

theorem legalInString_escapeChar (char : Char) (rest : List Char) :
    legalInString (escapeChar char ++ rest) = true := by
  have valid : char.toNat < 0xd800 ∨ 0xdfff < char.toNat ∧ char.toNat < 0x110000 :=
    char.valid
  unfold escapeChar
  split_ifs with backslash
  all_goals try rfl
  next printable =>
    unfold legalInString
    split
    next start => exact absurd (List.cons.inj start).1 backslash
    next start => exact absurd (List.cons.inj start).1 backslash
    next start =>
      obtain ⟨rfl, _⟩ := List.cons.inj start
      simpa using printable.1
    next start => cases start
  next bmp => exact legalInString_unicodeEscape bmp (by omega) rest
  next astral =>
    rw [List.append_assoc]
    exact legalInString_unicodeEscape (by omega) (by omega) _

theorem readChars_escaped {fuel : Nat} (chars rest : List Char) (enough : chars.length < fuel) :
    readChars fuel (chars.flatMap escapeChar ++ '"' :: rest) = some (chars, rest) := by
  induction chars generalizing fuel with
  | nil =>
      cases fuel with
      | zero => simp at enough
      | succ fuel => rfl
  | cons char chars ih =>
      cases fuel with
      | zero => simp at enough
      | succ fuel =>
          rw [List.flatMap_cons, List.append_assoc]
          unfold readChars
          split
          next impossible => cases impossible
          next opened =>
            exact absurd opened (escapeChar_ne_quote char _ _)
          next goesOn =>
            obtain rfl := Nat.succ.inj ‹_›
            rw [legalInString_escapeChar, if_pos rfl, unescapeChar_escapeChar]
            simp [ih (Nat.lt_of_succ_lt_succ enough)]

theorem escapeChar_length_pos (char : Char) : 0 < (escapeChar char).length := by
  unfold escapeChar
  repeat' split
  all_goals simp [unicodeEscape]

theorem length_le_flatMap_escapeChar (chars : List Char) :
    chars.length ≤ (chars.flatMap escapeChar).length := by
  induction chars with
  | nil => simp
  | cons char chars ih =>
      have := escapeChar_length_pos char
      simp only [List.length_cons, List.flatMap_cons, List.length_append]
      omega

/-- Behind its opening quotation mark, a string literal is read back. -/
theorem readString_encodeString (text : String) (rest : List Char) :
    readString (text.toList.flatMap escapeChar ++ '"' :: rest) = some (text, rest) := by
  have enough := length_le_flatMap_escapeChar text.toList
  rw [readString, readChars_escaped]
  · simp
  · simp only [List.length_append, List.length_cons]
    omega

/-! ## Documents are read back -/

theorem dictOf_eq_self {fields : Params} (distinct : (fields.map Prod.fst).Nodup) :
    dictOf fields = fields := by
  suffices generalized : ∀ (items dict : Params), ((dict ++ items).map Prod.fst).Nodup →
      items.foldl (fun dict (key, item) =>
        if dict.any (fun field => field.1 == key) then
          dict.map fun field => if field.1 = key then (key, item) else field
        else dict ++ [(key, item)]) dict = dict ++ items by
    exact generalized fields [] distinct
  intro items
  induction items with
  | nil => simp
  | cons field items ih =>
      intro dict distinct
      obtain ⟨key, item⟩ := field
      have fresh : dict.any (fun field => field.1 == key) = false := by
        rw [List.any_eq_false]
        rintro ⟨other, value⟩ member same
        have keys : (dict.map Prod.fst ++ key :: items.map Prod.fst).Nodup := by
          simpa using distinct
        refine (List.nodup_append.mp keys).2.2 other ?_ key List.mem_cons_self (by simpa using same)
        exact List.mem_map.mpr ⟨_, member, rfl⟩
      simp only [List.foldl_cons, fresh, Bool.false_eq_true, if_false]
      rw [ih (dict ++ [(key, item)]) (by simpa using distinct), List.append_assoc]
      rfl

theorem skipSpace_append {space : List Char} (spaces : ∀ char ∈ space, isJsonSpace char = true)
    (text : List Char) : skipSpace (space ++ text) = skipSpace text :=
  List.dropWhile_append_of_pos spaces

theorem skipSpace_cons {first : Char} (visible : isJsonSpace first = false)
    (rest : List Char) : skipSpace (first :: rest) = first :: rest := by
  simp [skipSpace, visible]

/-- A written document starts with a character that is no space and ends no list. -/
theorem exists_jsonDumps_eq_cons {platform : Platform} (floats : FloatReading platform)
    (space : List Char) (value : Value) :
    ∃ first rest, jsonDumps platform space value = first :: rest ∧
      isJsonSpace first = false ∧ first ≠ ']' := by
  have number : ∀ text, NumberText text → ∃ first rest, text = first :: rest ∧
      isJsonSpace first = false ∧ first ≠ ']' := by
    rintro text numberText
    obtain ⟨first, rest, text_eq, digit | ⟨rfl, _⟩⟩ := numberText.starts
    · have notDigit : ∀ char, char.isDigit = false → first ≠ char := by
        rintro char notDigit rfl
        exact Bool.false_ne_true (notDigit.symm.trans digit)
      refine ⟨first, rest, text_eq, ?_, notDigit _ rfl⟩
      simp [isJsonSpace, notDigit ' ' rfl, notDigit '\t' rfl, notDigit '\n' rfl,
        notDigit '\r' rfl]
    · exact ⟨'-', rest, text_eq, rfl, by decide⟩
  cases value with
  | none => exact ⟨'n', _, rfl, rfl, by decide⟩
  | bool value => cases value <;> exact ⟨_, _, rfl, rfl, by decide⟩
  | int value => exact number _ (numberText_integerText (integerText_toString value))
  | float value =>
      have finite : value.isFinite = true → ∃ first rest,
          (platform.floatRepr value).toList = first :: rest ∧ isJsonSpace first = false ∧
            first ≠ ']' :=
        fun finite => number _ (numberText_floatLiteral (floats.repr_literal value finite))
      cases value with
      | finite value => exact finite rfl
      | negZero => exact finite rfl
      | posInf | negInf | nan => exact ⟨_, _, rfl, rfl, by decide⟩
  | str text => exact ⟨'"', _, rfl, rfl, by decide⟩
  | list items => exact ⟨'[', _, rfl, rfl, by decide⟩
  | dict fields => exact ⟨'{', _, rfl, rfl, by decide⟩

theorem delimited_cons {first : Char} (stops : isNumberChar first = false)
    (rest : List Char) : Delimited (first :: rest) := by
  intro char head
  obtain rfl : first = char := by simpa using head
  exact stops

/-- A number or keyword at the head of a text is read by its own reader. -/
theorem readValue_plain {platform : Platform} (floats : FloatReading platform) {fuel : Nat}
    {first : Char} {text : List Char} (visible : isJsonSpace first = false)
    (plain : first ≠ '"' ∧ first ≠ '[' ∧ first ≠ '{') :
    readValue floats (fuel + 1) (first :: text) =
      (readKeyword (first :: text)).or (readNumber floats (first :: text)) := by
  obtain ⟨notQuote, notBracket, notBrace⟩ := plain
  rw [readValue, skipSpace_cons visible]
  split
  next start => exact absurd (List.cons.inj start).1 notQuote
  next start => exact absurd (List.cons.inj start).1 notBracket
  next start => exact absurd (List.cons.inj start).1 notBrace
  · rfl

theorem readValue_numberText {platform : Platform} (floats : FloatReading platform)
    {fuel : Nat} {text rest : List Char} (number : NumberText text) :
    readValue floats (fuel + 1) (text ++ rest) = readNumber floats (text ++ rest) := by
  have keyword : readKeyword (text ++ rest) = none := readKeyword_numberText number
  obtain ⟨first, tail, rfl, start⟩ := number.starts
  have visible : isJsonSpace first = false ∧ first ≠ '"' ∧ first ≠ '[' ∧ first ≠ '{' := by
    cases start with
    | inl digit =>
        have notDigit : ∀ char, char.isDigit = false → first ≠ char := by
          rintro char notDigit rfl
          exact Bool.false_ne_true (notDigit.symm.trans digit)
        refine ⟨?_, notDigit _ rfl, notDigit _ rfl, notDigit _ rfl⟩
        simp [isJsonSpace, notDigit ' ' rfl, notDigit '\t' rfl, notDigit '\n' rfl,
          notDigit '\r' rfl]
    | inr sign =>
        obtain ⟨rfl, _⟩ := sign
        exact ⟨rfl, by decide, by decide, by decide⟩
  rw [List.cons_append] at keyword ⊢
  rw [readValue_plain floats visible.1 visible.2, keyword, Option.none_or]

theorem readValue_list {platform : Platform} (floats : FloatReading platform) {fuel : Nat}
    {first : Char} {text : List Char} (visible : isJsonSpace first = false)
    (goesOn : first ≠ ']') :
    readValue floats (fuel + 1) ('[' :: first :: text) =
      (readItems floats fuel (first :: text)).map fun (items, rest) => (.list items, rest) := by
  have opens : isJsonSpace '[' = false := rfl
  simp only [readValue, skipSpace_cons opens, skipSpace_cons visible]
  split
  next closed => exact absurd (List.cons.inj closed).1 goesOn
  · rfl

theorem readValue_dict {platform : Platform} (floats : FloatReading platform) {fuel : Nat}
    {first : Char} {text : List Char} (visible : isJsonSpace first = false)
    (goesOn : first ≠ '}') :
    readValue floats (fuel + 1) ('{' :: first :: text) =
      (readFields floats fuel (first :: text)).map
        fun (fields, rest) => (.dict (dictOf fields), rest) := by
  have opens : isJsonSpace '{' = false := rfl
  simp only [readValue, skipSpace_cons opens, skipSpace_cons visible]
  split
  next closed => exact absurd (List.cons.inj closed).1 goesOn
  · rfl

theorem readValue_space {platform : Platform} (floats : FloatReading platform)
    {space : List Char} (spaces : ∀ char ∈ space, isJsonSpace char = true) (fuel : Nat)
    (text : List Char) :
    readValue floats fuel (space ++ text) = readValue floats fuel text := by
  cases fuel with
  | zero => rfl
  | succ fuel => simp only [readValue, skipSpace_append spaces]

theorem readItems_space {platform : Platform} (floats : FloatReading platform)
    {space : List Char} (spaces : ∀ char ∈ space, isJsonSpace char = true) (fuel : Nat)
    (text : List Char) :
    readItems floats fuel (space ++ text) = readItems floats fuel text := by
  cases fuel with
  | zero => rfl
  | succ fuel => simp only [readItems, readValue_space floats spaces]

theorem readFields_space {platform : Platform} (floats : FloatReading platform)
    {space : List Char} (spaces : ∀ char ∈ space, isJsonSpace char = true) (fuel : Nat)
    (text : List Char) :
    readFields floats fuel (space ++ text) = readFields floats fuel text := by
  cases fuel with
  | zero => rfl
  | succ fuel => simp only [readFields, skipSpace_append spaces]

theorem encodeString_append (text : String) (rest : List Char) :
    encodeString text ++ rest = '"' :: (text.toList.flatMap escapeChar ++ '"' :: rest) := by
  simp [encodeString]

section RoundTrip

variable {platform : Platform} (floats : FloatReading platform) {space : List Char}
variable (spaces : ∀ char ∈ space, isJsonSpace char = true)

/-- Separated texts start as the first of them does. -/
theorem separated_append_eq_cons {first : Char} {item tail : List Char}
    (starts : item = first :: tail) (separator : List Char) (items : List (List Char))
    (rest : List Char) :
    ∃ later, separated separator (item :: items) ++ rest = first :: later := by
  subst starts
  cases items with
  | nil => exact ⟨_, rfl⟩
  | cons next items => exact ⟨_, rfl⟩

include floats spaces

set_option linter.unusedSectionVars false in
mutual

/-- By induction on the document; every level of it takes one unit of fuel and at
least one character. -/
theorem readValue_jsonDumps (value : Value) (distinct : DistinctKeys value) (fuel : Nat)
    (rest : List Char) (enough : (jsonDumps platform space value).length ≤ fuel)
    (delimited : Delimited rest) :
    readValue floats fuel (jsonDumps platform space value ++ rest) = some (value, rest) := by
  cases fuel with
  | zero =>
      obtain ⟨first, tail, starts, _⟩ := exists_jsonDumps_eq_cons floats space value
      simp [starts] at enough
  | succ fuel =>
    match value, distinct with
    | .none, _ => rfl
    | .bool true, _ => rfl
    | .bool false, _ => rfl
    | .int number, _ =>
        rw [jsonDumps, readValue_numberText floats
          (numberText_integerText (integerText_toString number))]
        exact readNumber_integer floats number delimited
    | .float .nan, _ => rfl
    | .float .posInf, _ => rfl
    | .float .negInf, _ => rfl
    | .float (.finite number), _ =>
        have literal := floats.repr_literal (.finite number) rfl
        exact (readValue_numberText floats (numberText_floatLiteral literal)).trans
          (readNumber_float floats rfl delimited)
    | .float .negZero, _ =>
        have literal := floats.repr_literal .negZero rfl
        exact (readValue_numberText floats (numberText_floatLiteral literal)).trans
          (readNumber_float floats rfl delimited)
    | .str text, _ =>
        have visible : isJsonSpace '"' = false := rfl
        rw [jsonDumps, encodeString_append, readValue, skipSpace_cons visible]
        simp [readString_encodeString]
    | .list [], _ => rfl
    | .list (item :: items), distinct =>
        have read := readItems_dumpItems item items distinct fuel rest (by
          simp only [jsonDumps, List.length_cons, List.length_append] at enough
          omega)
        obtain ⟨first, tail, starts, visible, notEnd⟩ :=
          exists_jsonDumps_eq_cons floats space item
        obtain ⟨later, items_eq⟩ := separated_append_eq_cons starts (',' :: space)
          (jsonDumps.dumpItems platform space items) (']' :: rest)
        rw [jsonDumps.dumpItems, items_eq] at read
        rw [jsonDumps, jsonDumps.dumpItems, List.cons_append, List.append_assoc,
          List.singleton_append, items_eq, readValue_list floats visible notEnd, read]
        rfl
    | .dict [], _ => rfl
    | .dict ((key, item) :: fields), distinct =>
        have read := readFields_dumpFields key item fields distinct.2 fuel rest (by
          simp only [jsonDumps, List.length_cons, List.length_append] at enough
          omega)
        have starts : encodeString key ++ (':' :: space ++ jsonDumps platform space item) =
          '"' :: _ := rfl
        obtain ⟨later, fields_eq⟩ := separated_append_eq_cons starts (',' :: space)
          (jsonDumps.dumpFields platform space fields) ('}' :: rest)
        rw [jsonDumps.dumpFields, fields_eq] at read
        rw [jsonDumps, jsonDumps.dumpFields, List.cons_append, List.append_assoc,
          List.singleton_append, fields_eq, readValue_dict floats rfl (by decide), read]
        simp only [dictOf_eq_self distinct.1, Option.map_some]
termination_by fuel

theorem readItems_dumpItems (item : Value) (items : List Value)
    (distinct : DistinctKeys.distinctItems (item :: items)) (fuel : Nat) (rest : List Char)
    (enough : (separated (',' :: space)
      (jsonDumps.dumpItems platform space (item :: items))).length < fuel) :
    readItems floats fuel (separated (',' :: space)
      (jsonDumps.dumpItems platform space (item :: items)) ++ ']' :: rest) =
        some (item :: items, rest) := by
  have visible : isJsonSpace ']' = false := rfl
  have visibleComma : isJsonSpace ',' = false := rfl
  cases fuel with
  | zero => exact absurd enough (Nat.not_lt_zero _)
  | succ fuel =>
    match items, distinct with
    | [], distinct =>
        have first := readValue_jsonDumps item distinct.1 fuel (']' :: rest)
          (Nat.lt_succ_iff.mp enough) (delimited_cons rfl rest)
        simp [readItems, jsonDumps.dumpItems, separated, first, skipSpace_cons visible]
    | next :: items, distinct =>
        simp only [jsonDumps.dumpItems, separated, List.length_append, List.length_cons]
          at enough
        have first := readValue_jsonDumps item distinct.1 fuel
          (',' :: (space ++ (separated (',' :: space)
            (jsonDumps.dumpItems platform space (next :: items)) ++ ']' :: rest)))
          (by omega) (delimited_cons rfl _)
        have later := readItems_dumpItems next items distinct.2 fuel rest (by
          simp only [jsonDumps.dumpItems]
          omega)
        simp only [jsonDumps.dumpItems] at first later
        simp [readItems, jsonDumps.dumpItems, separated, first, skipSpace_cons visibleComma,
          readItems_space floats spaces, later]
termination_by fuel

theorem readFields_dumpFields (key : String) (item : Value) (fields : Params)
    (distinct : DistinctKeys.distinctFields ((key, item) :: fields)) (fuel : Nat)
    (rest : List Char)
    (enough : (separated (',' :: space)
      (jsonDumps.dumpFields platform space ((key, item) :: fields))).length < fuel) :
    readFields floats fuel (separated (',' :: space)
      (jsonDumps.dumpFields platform space ((key, item) :: fields)) ++ '}' :: rest) =
        some ((key, item) :: fields, rest) := by
  have visibleKey : isJsonSpace '"' = false := rfl
  have visibleColon : isJsonSpace ':' = false := rfl
  have visibleEnd : isJsonSpace '}' = false := rfl
  have visibleComma : isJsonSpace ',' = false := rfl
  cases fuel with
  | zero => exact absurd enough (Nat.not_lt_zero _)
  | succ fuel =>
    match fields, distinct with
    | [], distinct =>
        simp only [jsonDumps.dumpFields, separated, List.length_append, List.length_cons]
          at enough
        have first := readValue_jsonDumps item distinct.1 fuel ('}' :: rest) (by omega)
          (delimited_cons rfl rest)
        simp [readFields, jsonDumps.dumpFields, separated, encodeString_append,
          readString_encodeString, first, readValue_space floats spaces,
          skipSpace_cons visibleKey, skipSpace_cons visibleColon, skipSpace_cons visibleEnd]
    | (nextKey, next) :: fields, distinct =>
        simp only [jsonDumps.dumpFields, separated, List.length_append, List.length_cons]
          at enough
        have first := readValue_jsonDumps item distinct.1 fuel
          (',' :: (space ++ (separated (',' :: space)
            (jsonDumps.dumpFields platform space ((nextKey, next) :: fields)) ++ '}' :: rest)))
          (by omega) (delimited_cons rfl _)
        have later := readFields_dumpFields nextKey next fields distinct.2 fuel rest (by
          simp only [jsonDumps.dumpFields]
          omega)
        simp only [jsonDumps.dumpFields] at first later
        simp only [jsonDumps.dumpFields, separated]
        generalize separated (',' :: space) (_ :: jsonDumps.dumpFields platform space fields) =
          text at first later ⊢
        simp [readFields, encodeString_append, readString_encodeString, first,
          readValue_space floats spaces, skipSpace_cons visibleKey, skipSpace_cons visibleColon,
          skipSpace_cons visibleComma, readFields_space floats spaces, later]
termination_by fuel

end

/-- `json.loads(json.dumps(document)) == document`. -/
theorem jsonLoads_jsonDumps {value : Value} (distinct : DistinctKeys value) :
    jsonLoads floats (jsonDumps platform space value) = some value := by
  have read := readValue_jsonDumps floats spaces value distinct
    ((jsonDumps platform space value).length + 1) [] (Nat.le_succ _) (by simp [Delimited])
  rw [List.append_nil] at read
  simp [jsonLoads, read, skipSpace]

/-- One text stands for one document. -/
theorem jsonDumps_inj {left right : Value} (leftDistinct : DistinctKeys left)
    (rightDistinct : DistinctKeys right)
    (equal : jsonDumps platform space left = jsonDumps platform space right) :
    left = right := by
  have read := jsonLoads_jsonDumps floats spaces leftDistinct
  rw [equal, jsonLoads_jsonDumps floats spaces rightDistinct] at read
  exact (Option.some.inj read).symm

end RoundTrip

/-! ## What is read is a document -/

theorem distinctFields_iff (fields : Params) :
    DistinctKeys.distinctFields fields ↔ ∀ field ∈ fields, DistinctKeys field.2 := by
  induction fields with
  | nil => simp [DistinctKeys.distinctFields]
  | cons field fields ih => simp [DistinctKeys.distinctFields, ih]

theorem dictOf_distinct {items : Params} (distinct : ∀ field ∈ items, DistinctKeys field.2) :
    DistinctKeys (.dict (dictOf items)) := by
  suffices generalized : ∀ (items dict : Params), (dict.map Prod.fst).Nodup →
      (∀ field ∈ dict, DistinctKeys field.2) → (∀ field ∈ items, DistinctKeys field.2) →
      DistinctKeys (.dict (items.foldl (fun dict (key, item) =>
        if dict.any (fun field => field.1 == key) then
          dict.map fun field => if field.1 = key then (key, item) else field
        else dict ++ [(key, item)]) dict)) by
    exact generalized items [] List.nodup_nil (by simp) distinct
  intro items
  induction items with
  | nil => exact fun dict keys values _ => ⟨keys, (distinctFields_iff dict).mpr values⟩
  | cons field items ih =>
      intro dict keys values distinct
      obtain ⟨key, item⟩ := field
      have itemDistinct := distinct (key, item) List.mem_cons_self
      rw [List.foldl_cons]
      apply ih
      · dsimp only
        split
        next known =>
          have sameKeys : (dict.map fun field => if field.1 = key then (key, item) else field).map
              Prod.fst = dict.map Prod.fst := by
            rw [List.map_map]
            apply List.map_congr_left
            intro field member
            by_cases same : field.1 = key
            · simp [same]
            · simp [same]
          rw [sameKeys]
          exact keys
        next fresh =>
          rw [List.map_append, List.nodup_append]
          refine ⟨keys, List.nodup_singleton _, ?_⟩
          rintro other member _ new rfl
          obtain rfl : other = key := by simpa using new
          obtain ⟨field, fieldMember, sameKey⟩ := List.mem_map.mp member
          exact fresh (List.any_eq_true.mpr ⟨field, fieldMember, by simp [sameKey]⟩)
      · dsimp only
        intro field member
        split at member
        next known =>
          obtain ⟨old, oldMember, rfl⟩ := List.mem_map.mp member
          by_cases same : old.1 = key
          · simpa [same] using itemDistinct
          · simpa [same] using values old oldMember
        next fresh =>
          cases List.mem_append.mp member with
          | inl old => exact values field old
          | inr new =>
              obtain rfl := List.mem_singleton.mp new
              exact itemDistinct
      · exact fun field member => distinct field (List.mem_cons_of_mem _ member)

theorem readKeyword_distinct {text rest : List Char} {value : Value}
    (read : readKeyword text = some (value, rest)) : DistinctKeys value := by
  obtain ⟨⟨word, keyword⟩, member, found⟩ := List.exists_of_findSome?_eq_some read
  dsimp only at found
  split at found
  · obtain ⟨rfl, _⟩ := Prod.mk.inj (Option.some.inj found)
    simp only [keywords, List.mem_cons, Prod.mk.injEq, List.not_mem_nil, or_false] at member
    obtain ⟨_, rfl⟩ | ⟨_, rfl⟩ | ⟨_, rfl⟩ | ⟨_, rfl⟩ | ⟨_, rfl⟩ | ⟨_, rfl⟩ := member
    all_goals trivial
  · cases found

section ReadDistinct

variable {platform : Platform} (floats : FloatReading platform)

theorem readNumber_distinct {text rest : List Char} {value : Value}
    (read : readNumber floats text = some (value, rest)) : DistinctKeys value := by
  simp only [readNumber] at read
  split at read
  · obtain ⟨rfl, _⟩ := Prod.mk.inj (Option.some.inj read)
    trivial
  · obtain ⟨number, _, pair⟩ := Option.map_eq_some_iff.mp read
    obtain ⟨rfl, _⟩ := Prod.mk.inj pair
    trivial

mutual

theorem readValue_distinct (fuel : Nat) (text : List Char) (value : Value) (rest : List Char)
    (read : readValue floats fuel text = some (value, rest)) : DistinctKeys value := by
  match fuel with
  | 0 => simp [readValue] at read
  | fuel + 1 =>
      rw [readValue] at read
      split at read
      · obtain ⟨_, _, pair⟩ := Option.map_eq_some_iff.mp read
        obtain ⟨rfl, _⟩ := Prod.mk.inj pair
        trivial
      · split at read
        · obtain ⟨rfl, _⟩ := Prod.mk.inj (Option.some.inj read)
          trivial
        · obtain ⟨⟨items, _⟩, itemsRead, pair⟩ := Option.map_eq_some_iff.mp read
          obtain ⟨rfl, _⟩ := Prod.mk.inj pair
          exact readItems_distinct fuel _ items _ itemsRead
      · split at read
        · obtain ⟨rfl, _⟩ := Prod.mk.inj (Option.some.inj read)
          exact ⟨List.nodup_nil, trivial⟩
        · obtain ⟨⟨fields, _⟩, fieldsRead, pair⟩ := Option.map_eq_some_iff.mp read
          obtain ⟨rfl, _⟩ := Prod.mk.inj pair
          exact dictOf_distinct (readFields_distinct fuel _ fields _ fieldsRead)
      · cases Option.or_eq_some_iff.mp read with
        | inl keyword => exact readKeyword_distinct keyword
        | inr number => exact readNumber_distinct floats number.2

theorem readItems_distinct (fuel : Nat) (text : List Char) (items : List Value)
    (rest : List Char) (read : readItems floats fuel text = some (items, rest)) :
    DistinctKeys.distinctItems items := by
  match fuel with
  | 0 => simp [readItems] at read
  | fuel + 1 =>
      rw [readItems] at read
      obtain ⟨⟨item, _⟩, itemRead, read⟩ := Option.bind_eq_some_iff.mp read
      have first := readValue_distinct fuel _ item _ itemRead
      dsimp only at read
      split at read
      · obtain ⟨rfl, _⟩ := Prod.mk.inj (Option.some.inj read)
        exact ⟨first, trivial⟩
      · obtain ⟨⟨later, _⟩, laterRead, read⟩ := Option.bind_eq_some_iff.mp read
        obtain ⟨rfl, _⟩ := Prod.mk.inj (Option.some.inj read)
        exact ⟨first, readItems_distinct fuel _ later _ laterRead⟩
      · cases read

theorem readFields_distinct (fuel : Nat) (text : List Char) (fields : Params)
    (rest : List Char) (read : readFields floats fuel text = some (fields, rest)) :
    ∀ field ∈ fields, DistinctKeys field.2 := by
  match fuel with
  | 0 => simp [readFields] at read
  | fuel + 1 =>
      rw [readFields] at read
      split at read
      · obtain ⟨⟨key, _⟩, _, read⟩ := Option.bind_eq_some_iff.mp read
        dsimp only at read
        split at read
        · obtain ⟨⟨item, _⟩, itemRead, read⟩ := Option.bind_eq_some_iff.mp read
          have first := readValue_distinct fuel _ item _ itemRead
          dsimp only at read
          split at read
          · obtain ⟨rfl, _⟩ := Prod.mk.inj (Option.some.inj read)
            simpa using first
          · obtain ⟨⟨later, _⟩, laterRead, read⟩ := Option.bind_eq_some_iff.mp read
            obtain ⟨rfl, _⟩ := Prod.mk.inj (Option.some.inj read)
            intro field member
            cases member with
            | head => exact first
            | tail _ member => exact readFields_distinct fuel _ later _ laterRead field member
          · cases read
        · cases read
      · cases read

end

/-- No text is read as a document with a repeated key. -/
theorem distinctKeys_jsonLoads {text : List Char} {value : Value}
    (read : jsonLoads floats text = some value) : DistinctKeys value := by
  unfold jsonLoads at read
  split at read
  next value' rest valueRead =>
    split at read
    · obtain rfl := Option.some.inj read
      exact readValue_distinct floats _ _ _ _ valueRead
    · cases read
  · cases read

end ReadDistinct

end Era.Security
