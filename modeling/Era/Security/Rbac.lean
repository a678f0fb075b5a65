import Era.Core.Platform

/-!
# Roles and permissions

A role grants permissions and may act on capability domains.  What is no role grants nothing and
acts on nothing.
-/

namespace Era.Security

/-- `Role`. -/
inductive Role where
  | admin
  | user
  deriving DecidableEq, Repr

def Role.value : Role → String
  | .admin => "admin"
  | .user => "user"

/-- `Role(value)`. -/
def Role.ofValue? (value : String) : Option Role :=
  [Role.admin, .user].find? fun role => role.value == value

namespace Permission

def policyRead := "policy.read"
def policyWrite := "policy.write"
def auditRead := "audit.read"
def providersRead := "providers.read"
def actionsEvaluate := "actions.evaluate"
def actionsExecute := "actions.execute"
def actionsConfirm := "actions.confirm"
def usersManage := "users.manage"
def apiKeysManage := "api_keys.manage"
def agentRun := "agent.run"
def vaultManage := "vault.manage"
def jobsRead := "jobs.read"
def schedulesManage := "schedules.manage"
def schedulesRead := "schedules.read"
def workflowSchedule := "workflow.schedule"
def workflowTemplatesManage := "workflow.templates.manage"
def workflowReview := "workflow.review"
def workflowRead := "workflow.read"
def operatorReview := "operator.review"

end Permission

open Permission in
/-- `ALL_PERMISSIONS`. -/
def allPermissions : List String :=
  [policyRead, policyWrite, auditRead, providersRead, actionsEvaluate, actionsExecute,
    actionsConfirm, usersManage, apiKeysManage, agentRun, vaultManage, jobsRead, schedulesManage,
    schedulesRead, workflowSchedule, workflowTemplatesManage, workflowReview, workflowRead,
    operatorReview]

open Permission in
/-- `ROLE_PERMISSIONS`. -/
def rolePermissions : Role → List String
  | .admin => allPermissions
  | .user =>
      [policyRead, providersRead, actionsEvaluate, actionsExecute, actionsConfirm, agentRun,
        jobsRead, schedulesManage, schedulesRead, workflowSchedule, workflowRead]

/-- `_ALL_ACTION_DOMAINS`. -/
def allActionDomains : List String :=
  ["core", "web", "browser", "email", "whatsapp", "booking", "file", "device", "github", "code",
    "image"]

/-- `ACTION_DOMAIN_ALLOWLIST`. -/
def actionDomainAllowlist : Role → List String
  | .admin => allActionDomains
  | .user =>
      ["core", "web", "browser", "email", "whatsapp", "booking", "file", "github", "code", "image"]

/-- `coerce_role`; `str(None)` is no role. -/
def coerceRole (value : Option String) : Option Role := value.bind Role.ofValue?

/-- `role_has_permission`. -/
def roleHasPermission (role : Option String) (permission : String) : Bool :=
  match coerceRole role with
  | none => false
  | some role => (rolePermissions role).contains permission

/-- `role_domain_allowed`. -/
def roleDomainAllowed (role domain : Option String) : Bool :=
  match coerceRole role, domain with
  | some role, some domain => domain != "" && (actionDomainAllowlist role).contains domain
  | some _, none | none, _ => false

/-! ## What the roles may do -/

theorem Role.ofValue?_eq_some {value : String} {role : Role} :
    Role.ofValue? value = some role ↔ value = role.value := by
  constructor
  · intro found
    have same := List.find?_some found
    exact (beq_iff_eq.mp same).symm
  · rintro rfl
    cases role <;> decide

theorem coerceRole_eq_some {value : String} {role : Role} :
    coerceRole (some value) = some role ↔ value = role.value :=
  Role.ofValue?_eq_some

/-- Whatever a user may do, an administrator may do. -/
theorem rolePermissions_subset (role : Role) : rolePermissions role ⊆ rolePermissions .admin := by
  cases role <;> decide

/-- What a user may not do takes an administrator. -/
theorem roleHasPermission_eq_true_of_admin {role permission : String}
    (reserved : permission ∉ rolePermissions .user)
    (granted : roleHasPermission (some role) permission = true) : role = Role.admin.value := by
  unfold roleHasPermission at granted
  split at granted
  next => cases granted
  next found coerced =>
    have member : permission ∈ rolePermissions found := by simpa using granted
    cases found with
    | admin => exact coerceRole_eq_some.mp coerced
    | user => exact absurd member reserved

theorem usersManage_reserved : Permission.usersManage ∉ rolePermissions .user := by decide

theorem apiKeysManage_reserved : Permission.apiKeysManage ∉ rolePermissions .user := by decide

end Era.Security
