/-!
# Enumerations of the permission, audit and provider layers

Every enumeration of the source is a `StrEnum`; `value` is the string under
which a member is stored, hashed and serialised.
-/

namespace Era.Core

/-- Risk tier of an action type, fixed in the catalog. -/
inductive RiskLevel where
  | safe
  | sensitive
  | communication
  | mutating
  | financial
  | booking
  | destructive
  | forbidden
  deriving DecidableEq, Repr

def RiskLevel.value : RiskLevel → String
  | .safe => "SAFE"
  | .sensitive => "SENSITIVE"
  | .communication => "COMMUNICATION"
  | .mutating => "MUTATING"
  | .financial => "FINANCIAL"
  | .booking => "BOOKING"
  | .destructive => "DESTRUCTIVE"
  | .forbidden => "FORBIDDEN"

/-- Outcome of permission evaluation. -/
inductive Decision where
  | allow
  | confirm
  | confirmStrong
  | deny
  deriving DecidableEq, Repr

def Decision.value : Decision → String
  | .allow => "ALLOW"
  | .confirm => "CONFIRM"
  | .confirmStrong => "CONFIRM_STRONG"
  | .deny => "DENY"

/-- Audit outcome of an action attempt. -/
inductive Outcome where
  | authorized
  | pending
  | executed
  | failed
  | rejected
  | deniedByPolicy
  | deniedByUser
  | expired
  deriving DecidableEq, Repr

def Outcome.value : Outcome → String
  | .authorized => "AUTHORIZED"
  | .pending => "PENDING"
  | .executed => "EXECUTED"
  | .failed => "FAILED"
  | .rejected => "REJECTED"
  | .deniedByPolicy => "DENIED_BY_POLICY"
  | .deniedByUser => "DENIED_BY_USER"
  | .expired => "EXPIRED"

/-- Stable error codes for provider failures. -/
inductive ProviderErrorCode where
  | validation
  | auth
  | forbidden
  | notFound
  | conflict
  | timeout
  | sideEffectUnknown
  | unavailable
  | notImplemented
  | providerError
  | internal
  | unknown
  deriving DecidableEq, Repr

def ProviderErrorCode.value : ProviderErrorCode → String
  | .validation => "VALIDATION"
  | .auth => "AUTH"
  | .forbidden => "FORBIDDEN"
  | .notFound => "NOT_FOUND"
  | .conflict => "CONFLICT"
  | .timeout => "TIMEOUT"
  | .sideEffectUnknown => "SIDE_EFFECT_UNKNOWN"
  | .unavailable => "UNAVAILABLE"
  | .notImplemented => "NOT_IMPLEMENTED"
  | .providerError => "PROVIDER_ERROR"
  | .internal => "INTERNAL"
  | .unknown => "UNKNOWN"

/-- Status of a pending confirmation. -/
inductive Status where
  | pending
  | used
  | denied
  | expired
  deriving DecidableEq, Repr

def Status.value : Status → String
  | .pending => "PENDING"
  | .used => "USED"
  | .denied => "DENIED"
  | .expired => "EXPIRED"

/-- Status of one dual-approval record. -/
inductive ApprovalStatus where
  | granted
  | denied
  deriving DecidableEq, Repr

/-- Status of an `ExecutionResponse`. -/
inductive ExecutionStatus where
  | executed
  | failed
  | rejected
  | confirmationRequired
  | awaitingApproval
  | denied
  deriving DecidableEq, Repr

end Era.Core
