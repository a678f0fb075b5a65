import Era.Core.Value

/-!
# Functions the services take from outside the model

Results quantify over every platform, so nothing below depends on how these
functions compute; where a result needs collision freedom of SHA-256 it says so.
-/

namespace Era.Core

structure Platform where
  /-- `hashlib.sha256(data.encode("utf-8")).hexdigest()`. -/
  sha256Hex : String → String
  /-- `float.__repr__` of a finite float. -/
  floatRepr : PyFloat → String
  /-- The `g` format of a number of seconds. -/
  formatSeconds : PyFloat → String
  /-- `repr` of a string. -/
  reprString : String → String
  /-- `str.upper`. -/
  upper : String → String
  /-- `str.lower`. -/
  lower : String → String
  /-- `str.casefold`. -/
  casefold : String → String
  /-- `str.isdecimal` of one character. -/
  isDecimal : Char → Bool
  /-- `email.utils.getaddresses`, without the display names. -/
  getAddresses : List String → List String
  /-- `email.utils.parseaddr`, without the display name. -/
  parseAddress : String → String
  /-- `redact_sensitive_text`, a chain of regular-expression substitutions. -/
  redactSensitiveText : String → String

/-- SHA-256 is collision free. -/
def Platform.CollisionFree (platform : Platform) : Prop :=
  Function.Injective platform.sha256Hex

/-- A platform for concrete histories.  The identity stands in for SHA-256, so distinct texts
have distinct hashes. -/
def Platform.plain : Platform :=
  { sha256Hex := id, floatRepr := fun _ => "0.0", formatSeconds := fun _ => "30",
    reprString := id, upper := String.toUpper, lower := String.toLower
    casefold := String.toLower, isDecimal := Char.isDigit, getAddresses := id
    parseAddress := id, redactSensitiveText := id }

/-! ## Strings -/

/-- The characters for which `str.isspace` holds. -/
def isPySpace (char : Char) : Bool :=
  let code := char.toNat
  (9 ≤ code && code ≤ 13) || (28 ≤ code && code ≤ 32) || (0x2000 ≤ code && code ≤ 0x200A) ||
    [0x85, 0xA0, 0x1680, 0x2028, 0x2029, 0x202F, 0x205F, 0x3000].contains code

/-- `str.strip`. -/
def pyStrip (text : String) : String :=
  String.ofList ((text.toList.dropWhile isPySpace).reverse.dropWhile isPySpace).reverse

/-- A text without its final newline: the `$` of a regular expression also matches in front
of one. -/
def withoutFinalNewline (text : List Char) : List Char :=
  if text.getLast? = some '\n' then text.dropLast else text

/-- `text[:length]`. -/
def pyTake (text : String) (length : Nat) : String :=
  String.ofList (text.toList.take length)

namespace Value

/-- Python's `left or right`. -/
def or (left right : Value) : Value := if left.truthy then left else right

/-- `type(value).__name__`. -/
def typeName : Value → String
  | .none => "NoneType"
  | .bool _ => "bool"
  | .int _ => "int"
  | .float _ => "float"
  | .str _ => "str"
  | .list _ => "list"
  | .dict _ => "dict"

/-- `repr` of a value. -/
def repr (platform : Platform) : Value → String
  | .none => "None"
  | .bool value => if value then "True" else "False"
  | .int value => toString value
  | .float value => platform.floatRepr value
  | .str value => platform.reprString value
  | .list items => "[" ++ ", ".intercalate (reprItems items) ++ "]"
  | .dict fields => "\x7b" ++ ", ".intercalate (reprFields fields) ++ "\x7d"
where
  reprItems : List Value → List String
    | [] => []
    | item :: rest => repr platform item :: reprItems rest
  reprFields : Params → List String
    | [] => []
    | (key, item) :: rest =>
        (platform.reprString key ++ ": " ++ repr platform item) :: reprFields rest

/-- `str` of a value. -/
def pyStr (platform : Platform) : Value → String
  | .str text => text
  | value => value.repr platform

end Value

/-- `int(value)`, without the digits of other scripts. -/
def pyInt? : Value → Option Int
  | .int number => some number
  | .bool value => some (if value then 1 else 0)
  | .float number => number.toRat?.map fun value => value.num.tdiv value.den
  | .str text =>
      let digits (text : List Char) : Option Nat :=
        let groups := text.splitOn '_'
        if groups.all fun group => !group.isEmpty && group.all Char.isDigit then
          (String.ofList groups.flatten).toNat?
        else none
      match (pyStrip text).toList with
      | '-' :: rest => (digits rest).map fun number => -number
      | '+' :: rest => (digits rest).map Int.ofNat
      | rest => (digits rest).map Int.ofNat
  | .none | .list _ | .dict _ => none

end Era.Core
