import Era.Core.ToolRegistry

/-!
# Versioned policies and the permission engine

The engine decides from an action and a policy alone; every ambiguity is a
denial.
-/

namespace Era.Services

open Era.Core

/-- An explicit rule for one action type, optionally scoped by an equality
predicate on parameters. -/
structure ActionRule where
  decision : Decision
  when : Option Params := none

def ActionRule.matches (rule : ActionRule) (params : Params) : Bool :=
  match rule.when with
  | none => true
  | some predicate => predicate.all fun field => (params.get field.1).pyEq field.2

/-- A versioned permission policy document. -/
structure Policy where
  version : Int := 1
  tierDefaults : List (RiskLevel × Decision)
  overrides : List (String × ActionRule) := []

def defaultTierDefaults : List (RiskLevel × Decision) :=
  [(.safe, .allow), (.sensitive, .allow), (.communication, .confirm), (.mutating, .confirm),
    (.financial, .confirmStrong), (.booking, .confirmStrong), (.destructive, .confirmStrong),
    (.forbidden, .deny)]

def defaultPolicy : Policy := { version := 1, tierDefaults := defaultTierDefaults }

/-- `PermissionEngine.evaluate`. -/
def evaluate (catalog : ActionCatalog) (action : Action) (policy : Option Policy) : Decision :=
  match policy with
  | none => .deny
  | some policy =>
      if action.actionType = "" then .deny
      else
        match catalog.get action.actionType with
        | none => .deny
        | some spec =>
            if spec.riskLevel = .forbidden then .deny
            else if policy.tierDefaults.isEmpty then .deny
            else
              match (policy.overrides.lookup action.actionType).filter
                  fun rule => rule.matches action.params with
              | some rule => rule.decision
              | none => (policy.tierDefaults.lookup spec.riskLevel).getD .deny

/-- The stored policy with the highest version. -/
def currentPolicy (policies : List Policy) : Option Policy :=
  policies.foldl (fun best policy =>
    match best with
    | none => some policy
    | some current => if current.version < policy.version then some policy else some current)
    none

/-- `create_version`: the next version of the document, stored with the others. -/
def createVersion (policies : List Policy) (document : Policy) : Policy :=
  { document with
    version := ((currentPolicy policies).map fun current => current.version + 1).getD 1 }

end Era.Services
