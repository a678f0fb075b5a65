import Era.Core.Enums
import Era.Core.Value

/-!
# Provider results and raised exceptions
-/

namespace Era.Core

/-- Any Python object a provider may put into its result data.  A key of `none`
is a dictionary key that is not a string. -/
inductive ProviderValue where
  | none
  | bool (value : Bool)
  | int (value : Int)
  | float (value : PyFloat)
  | str (value : String)
  | list (items : List ProviderValue)
  | dict (fields : List (Option String × ProviderValue))
  | other (typeName : String)

/-- What a provider call returns: an `ActionResult` with unchecked data, or,
from a buggy provider, an object of another type. -/
inductive ProviderReturn where
  | actionResult (success : Bool) (summary : String)
      (data : List (Option String × ProviderValue))
  | object (typeName : String)

/-- A result as the services report it: its data is JSON. -/
structure ActionResult where
  success : Bool := true
  summary : String := ""
  data : Params := []

/-- A raised Python exception.  `ToolError` is the provider error with a code of
the taxonomy (an unrecognised code string has become `UNKNOWN`); every other
subclass of `Exception` is an `exception`; a `BaseException` outside `Exception`
(`KeyboardInterrupt`, `SystemExit`, `GeneratorExit`) passes every
`except Exception`. -/
inductive Raised where
  | toolError (code : ProviderErrorCode) (message : String)
  | exception (typeName : String) (message : String)
  | baseException (typeName : String)
  deriving DecidableEq, Repr

namespace Raised

/-- `type(exc).__name__`. -/
def typeName : Raised → String
  | .toolError _ _ => "ToolError"
  | .exception typeName _ => typeName
  | .baseException typeName => typeName

/-- The code of a `ToolError`. -/
def code? : Raised → Option ProviderErrorCode
  | .toolError code _ => some code
  | .exception _ _ | .baseException _ => none

/-- Whether `except Exception` catches it. -/
def isException : Raised → Bool
  | .toolError _ _ | .exception _ _ => true
  | .baseException _ => false

end Raised

/-- A computation that succeeds has succeeded at its first step. -/
theorem bind_eq_ok_iff {ε α β : Type} {first : Except ε α} {next : α → Except ε β} {value : β} :
    first.bind next = .ok value ↔ ∃ found, first = .ok found ∧ next found = .ok value := by
  cases first <;> simp [Except.bind]

/-- A check in front of a computation. -/
theorem then_eq_ok_iff {ε β : Type} {check : Except ε Unit} {next : Unit → Except ε β} {value : β} :
    check.bind next = .ok value ↔ check = .ok () ∧ next () = .ok value := by
  rw [bind_eq_ok_iff]
  exact ⟨fun ⟨(), checked, ok⟩ => ⟨checked, ok⟩, fun ⟨checked, ok⟩ => ⟨(), checked, ok⟩⟩

theorem map_eq_ok_iff {ε α β : Type} {first : Except ε α} {change : α → β} {value : β} :
    first.map change = .ok value ↔ ∃ found, first = .ok found ∧ change found = value := by
  cases first <;> simp [Except.map]

/-- Checks in a row succeed if each of them does. -/
theorem forM_eq_ok_iff {ε α : Type} {items : List α} {check : α → Except ε Unit} :
    items.forM check = .ok () ↔ ∀ item ∈ items, check item = .ok () := by
  induction items with
  | nil => exact ⟨fun _ => nofun, fun _ => rfl⟩
  | cons item rest ih =>
      show (check item).bind (fun _ => rest.forM check) = .ok () ↔ _
      rw [then_eq_ok_iff, List.forall_mem_cons, ← ih]

end Era.Core
