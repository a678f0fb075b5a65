import Era.Core.Enums
import Era.Core.Value

/-!
# Static action catalog and runtime provider wiring

The catalog says how risky an action type is, the registry says which provider
handles it.  What a registered provider does when it is called is not part of
its wiring; it is an input of each dispatch.
-/

namespace Era.Core

/-- Static description of an action type. -/
structure ActionSpec where
  actionType : String
  riskLevel : RiskLevel
  capabilityDomain : String
  secretFields : List String := []
  paramSchema : Option Value := none

/-- Catalog of known action types. -/
structure ActionCatalog where
  specs : List ActionSpec

/-- A later specification of an action type replaces an earlier one. -/
def ActionCatalog.get (catalog : ActionCatalog) (actionType : String) : Option ActionSpec :=
  catalog.specs.reverse.find? fun spec => spec.actionType == actionType

/-- What the services read from a provider besides calling it. -/
structure Provider where
  id : String
  actionTypes : List String
  nonRetryableActionTypes : List String := []
  ambiguousOnFailureActionTypes : List String := []

/-- Registered providers.  `register` refuses a known identifier and a handled
action type, so a registry with duplicates cannot be built. -/
structure ToolRegistry where
  providers : List Provider
  ids_nodup : (providers.map Provider.id).Nodup := by decide
  actionTypes_nodup : (providers.flatMap Provider.actionTypes).Nodup := by decide

def ToolRegistry.get (registry : ToolRegistry) (actionType : String) : Option Provider :=
  registry.providers.find? fun provider => provider.actionTypes.contains actionType

end Era.Core
