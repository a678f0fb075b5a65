import Mathlib.Data.Rat.Defs
import Mathlib.Algebra.Order.Ring.Rat

/-!
# JSON values that travel through the services

Action parameters, audit parameters and sanitised provider results are JSON
documents held as Python values.  Strings are sequences of Unicode scalar
values.
-/

namespace Era.Core

/-- A Python `float`: a finite number, negative zero (which prints differently
from zero but is equal to it), an infinity or a NaN. -/
inductive PyFloat where
  | finite (value : ℚ)
  | negZero
  | posInf
  | negInf
  | nan
  deriving DecidableEq

namespace PyFloat

/-- The number a finite float stands for. -/
def toRat? : PyFloat → Option ℚ
  | .finite value => some value
  | .negZero => some 0
  | .posInf | .negInf | .nan => none

/-- `math.isfinite`. -/
def isFinite (number : PyFloat) : Bool := number.toRat?.isSome

/-- Python's `left <= right`; every comparison with a NaN is false. -/
def le (left right : PyFloat) : Bool :=
  match left, right with
  | .nan, _ | _, .nan => false
  | .negInf, _ | _, .posInf => true
  | .posInf, _ | _, .negInf => false
  | left, right => decide (left.toRat?.getD 0 ≤ right.toRat?.getD 0)

/-- Python's `left < right`. -/
def lt (left right : PyFloat) : Bool :=
  match left, right with
  | .nan, _ | _, .nan => false
  | left, right => !right.le left

/-- Python's `left + right`, without rounding. -/
def add (left right : PyFloat) : PyFloat :=
  match left, right with
  | .nan, _ | _, .nan | .posInf, .negInf | .negInf, .posInf => .nan
  | .posInf, _ | _, .posInf => .posInf
  | .negInf, _ | _, .negInf => .negInf
  | left, right => .finite (left.toRat?.getD 0 + right.toRat?.getD 0)

/-- Python's unary minus. -/
def neg : PyFloat → PyFloat
  | .finite value => if value = 0 then .negZero else .finite (-value)
  | .negZero => .finite 0
  | .posInf => .negInf
  | .negInf => .posInf
  | .nan => .nan

/-- Python's `left - right`, without rounding. -/
def sub (left right : PyFloat) : PyFloat := left.add right.neg

/-- Python's `left == right`. -/
def eq (left right : PyFloat) : Bool := left.le right && right.le left

end PyFloat

/-- A JSON document as a Python value. -/
inductive Value where
  | none
  | bool (value : Bool)
  | int (value : Int)
  | float (value : PyFloat)
  | str (value : String)
  | list (items : List Value)
  | dict (fields : List (String × Value))

/-- A `dict` with string keys, in insertion order. -/
abbrev Params := List (String × Value)

namespace Params

/-- `params.get(key)`, which is `None` for a missing key. -/
def get (params : Params) (key : String) : Value :=
  (params.lookup key).getD .none

/-- `params.get(key, default)`. -/
def getOr (params : Params) (key : String) (default : Value) : Value :=
  (params.lookup key).getD default

/-- `key in params`. -/
def contains (params : Params) (key : String) : Bool :=
  (params.lookup key).isSome

/-- `params[key] = value`. -/
def set (params : Params) (key : String) (value : Value) : Params :=
  match params with
  | [] => [(key, value)]
  | (other, found) :: rest =>
      if other = key then (key, value) :: rest else (other, found) :: set rest key value

@[simp] theorem lookup_set_self (params : Params) (key : String) (value : Value) :
    (params.set key value).lookup key = some value := by
  induction params with
  | nil => simp [set]
  | cons field rest ih =>
      rw [set]
      split
      next => exact List.lookup_cons_self
      next different =>
        rw [List.lookup_cons, beq_false_of_ne (Ne.symm different)]
        exact ih

theorem lookup_set_ne (params : Params) {key other : String} (value : Value)
    (different : key ≠ other) : (params.set other value).lookup key = params.lookup key := by
  induction params with
  | nil => simp [set, different]
  | cons field rest ih =>
      rw [set]
      split
      next same =>
        have unequal : (key == other) = false := beq_false_of_ne different
        rw [List.lookup_cons, List.lookup_cons, same, unequal]
      next =>
        rw [List.lookup_cons, List.lookup_cons]
        split
        next => rfl
        next => exact ih

@[simp] theorem get_set_self (params : Params) (key : String) (value : Value) :
    (params.set key value).get key = value := by
  rw [get, lookup_set_self, Option.getD_some]

theorem get_set_ne (params : Params) {key other : String} (value : Value)
    (different : key ≠ other) : (params.set other value).get key = params.get key := by
  rw [get, get, lookup_set_ne params value different]

end Params

namespace Value

/-- Booleans and integers take part in numeric comparisons. -/
def number? : Value → Option PyFloat
  | .bool value => some (.finite (if value then 1 else 0))
  | .int value => some (.finite value)
  | .float value => some value
  | _ => Option.none

/-- Python's `left == right` on JSON values: numbers compare by value
across their types, lists item by item, dictionaries key by key. -/
def pyEq : Value → Value → Bool
  | .none, .none => true
  | .str left, .str right => left == right
  | .list left, .list right => pyEqItems left right
  | .dict left, .dict right =>
      left.length == right.length && pyEqFields left right
  | left, right =>
      match left.number?, right.number? with
      | some leftNumber, some rightNumber => leftNumber.eq rightNumber
      | _, _ => false
where
  pyEqItems : List Value → List Value → Bool
    | [], [] => true
    | left :: lefts, right :: rights => pyEq left right && pyEqItems lefts rights
    | _, _ => false
  pyEqFields : Params → Params → Bool
    | [], _ => true
    | (key, left) :: rest, rights =>
        (match rights.lookup key with
          | some right => pyEq left right
          | Option.none => false) && pyEqFields rest rights

/-- Python truthiness. -/
def truthy : Value → Bool
  | .none => false
  | .bool value => value
  | .int value => value != 0
  | .float value => !value.eq (.finite 0)
  | .str value => value != ""
  | .list items => !items.isEmpty
  | .dict fields => !fields.isEmpty

/-- The strings of a list that holds nothing else. -/
def strings? : List Value → Option (List String)
  | [] => some []
  | .str text :: rest => (strings? rest).map (text :: ·)
  | _ :: _ => Option.none

/-- The dictionaries of a list that holds nothing else. -/
def dicts? : List Value → Option (List Params)
  | [] => some []
  | .dict fields :: rest => (dicts? rest).map (fields :: ·)
  | _ :: _ => Option.none

end Value

/-- The strings of a value that are no keys. -/
def stringsIn : Value → List String
  | .str text => [text]
  | .list items => itemStrings items
  | .dict fields => fieldStrings fields
  | _ => []
where
  itemStrings : List Value → List String
    | [] => []
    | item :: rest => stringsIn item ++ itemStrings rest
  fieldStrings : Params → List String
    | [] => []
    | (_, item) :: rest => stringsIn item ++ fieldStrings rest

/-- The keys of all dictionaries in a value. -/
def keysIn : Value → List String
  | .list items => itemKeys items
  | .dict fields => fieldKeys fields
  | _ => []
where
  itemKeys : List Value → List String
    | [] => []
    | item :: rest => keysIn item ++ itemKeys rest
  fieldKeys : Params → List String
    | [] => []
    | (key, item) :: rest => key :: (keysIn item ++ fieldKeys rest)

/-- A single action the agent wishes to perform. -/
structure Action where
  actionType : String
  params : Params

/-- Identity, restored scope, opaque credential references and the optional
absolute dispatch deadline. -/
structure ExecutionContext where
  actorId : String
  executionScope : Option String := none
  credentials : List (String × String) := []
  deadline : Option PyFloat := none

end Era.Core
