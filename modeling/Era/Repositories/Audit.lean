import Era.Core.Clock
import Era.Lib.HashChain
import Era.Lib.Machine
import Era.Security.CanonicalJson
import Era.Security.Signing

/-!
# The audit table and its chain of hashes

An appended row hashes the fields it is built from; verification hashes the fields
that the table gives back, where JSON columns have been written to text and read
again.
-/

namespace Era.Repositories

open Era.Core Era.Lib Era.Security

/-! ## Columns -/

/-- The columns that take part in the hash of an entry. -/
inductive HashField where
  | seq | createdAt | actorId | actionType | actionParams | riskLevel | decision | outcome
  | confirmationId | result | errorCode | providerId | capabilityDomain | credentialRef
  | policyVersion | appVersion | metadata | prevHash
  deriving DecidableEq

namespace HashField

/-- The name of the column, which is the key of its value in the hashed payload. -/
def name : HashField → String
  | seq => "seq"
  | createdAt => "created_at"
  | actorId => "actor_id"
  | actionType => "action_type"
  | actionParams => "action_params"
  | riskLevel => "risk_level"
  | decision => "decision"
  | outcome => "outcome"
  | confirmationId => "confirmation_id"
  | result => "result"
  | errorCode => "error_code"
  | providerId => "provider_id"
  | capabilityDomain => "capability_domain"
  | credentialRef => "credential_ref"
  | policyVersion => "policy_version"
  | appVersion => "app_version"
  | metadata => "meta"
  | prevHash => "prev_hash"

/-- The SQLAlchemy type of a column. -/
inductive ColumnType where
  | integer
  | string
  | json

def columnType : HashField → ColumnType
  | seq | policyVersion => .integer
  | actionParams | metadata => .json
  | _ => .string

def nullable : HashField → Bool
  | confirmationId | result | errorCode | providerId | capabilityDomain | credentialRef => true
  | _ => false

end HashField

/-- `AuditLogEntry.HASH_FIELDS`. -/
def hashFields : List HashField :=
  [.seq, .createdAt, .actorId, .actionType, .actionParams, .riskLevel, .decision, .outcome,
    .confirmationId, .result, .errorCode, .providerId, .capabilityDomain, .credentialRef,
    .policyVersion, .appVersion, .metadata, .prevHash]

theorem mem_hashFields (column : HashField) : column ∈ hashFields := by
  cases column <;> decide

/-! ## Entries -/

/-- `NewAuditEntry`: all fields of an entry except those of the chain. -/
structure NewAuditEntry where
  actorId : String
  actionType : String
  actionParams : Params
  riskLevel : String
  decision : String
  outcome : String
  policyVersion : Int
  appVersion : String
  confirmationId : Option String
  result : Option String
  errorCode : Option String
  providerId : Option String
  capabilityDomain : Option String
  credentialRef : Option String
  metadata : Params
  actionParams_distinct : DistinctKeys (.dict actionParams)
  metadata_distinct : DistinctKeys (.dict metadata)

theorem distinctKeys_empty : DistinctKeys (.dict []) := ⟨List.nodup_nil, trivial⟩

/-- A row of `audit_log` as a Python object; its fields are JSON values. -/
structure AuditLogEntry where
  field : HashField → Value
  distinctKeys : ∀ column, DistinctKeys (field column)
  entryHash : String
  signingAlgorithm : Option String
  signingKeyId : Option String
  signature : Option String

/-- A text or `None`. -/
def optionalText : Option String → Value
  | some text => .str text
  | none => .none

/-- The payload of `build_audit_row`. -/
def auditPayload (entry : NewAuditEntry) (createdAt : String) (seq : Int) (prevHash : String) :
    Params :=
  [("seq", .int seq),
    ("created_at", .str createdAt),
    ("actor_id", .str entry.actorId),
    ("action_type", .str entry.actionType),
    ("action_params", .dict entry.actionParams),
    ("risk_level", .str entry.riskLevel),
    ("decision", .str entry.decision),
    ("outcome", .str entry.outcome),
    ("confirmation_id", optionalText entry.confirmationId),
    ("result", optionalText entry.result),
    ("error_code", optionalText entry.errorCode),
    ("provider_id", optionalText entry.providerId),
    ("capability_domain", optionalText entry.capabilityDomain),
    ("credential_ref", optionalText entry.credentialRef),
    ("policy_version", .int entry.policyVersion),
    ("app_version", .str entry.appVersion),
    ("meta", .dict entry.metadata),
    ("prev_hash", .str prevHash)]

/-- `_payload_from_row`. -/
def AuditLogEntry.payload (row : AuditLogEntry) : Params :=
  hashFields.map fun column => (column.name, row.field column)

/-- `sha256_hex(canonical_json(payload))`. -/
def payloadHash (platform : Platform) (payload : Params) : String :=
  platform.sha256Hex (String.ofList (canonicalJson platform (.dict payload)))

theorem distinctKeys_optionalText (text : Option String) :
    DistinctKeys (optionalText text) := by
  cases text <;> trivial

theorem distinctKeys_auditPayload (entry : NewAuditEntry) (createdAt : String) (seq : Int)
    (prevHash : String) (column : HashField) :
    DistinctKeys ((auditPayload entry createdAt seq prevHash).get column.name) := by
  cases column
  case actionParams => exact entry.actionParams_distinct
  case metadata => exact entry.metadata_distinct
  all_goals first | trivial | exact distinctKeys_optionalText _

section Build

variable (platform : Platform) {library : SigningLibrary} (signer : Option (AuditSigner library))

/-- `build_audit_row` at a given time.  A signer without a private key raises. -/
def buildAuditRow (entry : NewAuditEntry) (createdAt : String) (seq : Int)
    (prevHash : String) : Option AuditLogEntry :=
  let payload := auditPayload entry createdAt seq prevHash
  let entryHash := payloadHash platform payload
  let row (algorithm keyId signature : Option String) : AuditLogEntry :=
    { field := fun column => payload.get column.name
      distinctKeys := distinctKeys_auditPayload entry createdAt seq prevHash
      entryHash
      signingAlgorithm := algorithm
      signingKeyId := keyId
      signature }
  match signer with
  | none => some (row none none none)
  | some signer => (signer.sign platform entryHash).map fun signature =>
      row (some signer.algorithm) (some signer.keyId) (some signature)

end Build

/-! ## Verification -/

structure VerifyResult where
  valid : Bool
  entryCount : Nat
  firstMismatchSeq : Option Value
  message : String

/-- `bool` of an optional text. -/
def truthyText (text : Option String) : Bool := text.any fun text => text != ""

section Verify

variable (platform : Platform) {library : SigningLibrary} (signer : Option (AuditSigner library))

/-- `_verify_signature`: why the signature of a row is refused. -/
def verifySignature (row : AuditLogEntry) : Option String :=
  let signed := truthyText row.signingAlgorithm || truthyText row.signingKeyId ||
    truthyText row.signature
  match signer with
  | none => if signed then some "signing key unavailable for signed entry" else none
  | some signer =>
      if row.signingAlgorithm ≠ some signer.algorithm then
        some "audit signing algorithm mismatch"
      else if row.signingKeyId ≠ some signer.keyId then some "audit signing key id mismatch"
      else if !truthyText row.signature ||
          !signer.verify platform row.entryHash (row.signature.getD "") then
        some "audit signature mismatch"
      else none

/-- `_mismatch`. -/
def mismatch (entryCount : Nat) (row : AuditLogEntry) (reason : String) : VerifyResult :=
  { valid := false
    entryCount
    firstMismatchSeq := some (row.field .seq)
    message := reason ++ " at seq " ++ (row.field .seq).pyStr platform }

/-- The loop of `verify_audit_rows`, behind an entry of a given hash. -/
def verifyFrom (entryCount : Nat) : String → List AuditLogEntry → VerifyResult
  | _, [] =>
      let mode := match signer with
        | some signer => "signed by " ++ signer.keyId
        | none => "legacy unsigned"
      { valid := true
        entryCount
        firstMismatchSeq := none
        message := "chain valid (" ++ mode ++ ")" }
  | prev, row :: rest =>
      if !(row.field .prevHash).pyEq (.str prev) then
        mismatch platform entryCount row "broken chain link"
      else if row.entryHash ≠ payloadHash platform row.payload then
        mismatch platform entryCount row "entry hash mismatch"
      else
        match verifySignature platform signer row with
        | some reason => mismatch platform entryCount row reason
        | none => verifyFrom entryCount row.entryHash rest

def verifyAuditRows (genesisHash : String) (rows : List AuditLogEntry) : VerifyResult :=
  if rows.isEmpty then
    { valid := true, entryCount := 0, firstMismatchSeq := none, message := "empty log" }
  else verifyFrom platform signer rows.length genesisHash rows

end Verify

/-! ## Storage -/

/-- What SQLite keeps in a column. -/
inductive Cell where
  | null
  | integer (value : Int)
  | text (value : String)
  deriving DecidableEq

/-- A stored row of `audit_log`. -/
structure AuditLogRow where
  cell : HashField → Cell
  entryHash : String
  signingAlgorithm : Option String
  signingKeyId : Option String
  signature : Option String

/-- Bind a value to a column: a JSON column takes the text of `json.dumps`. -/
def HashField.bind (platform : Platform) (column : HashField) (value : Value) : Option Cell :=
  match column.columnType, value with
  | .integer, .int number => some (.integer number)
  | .string, .str text => some (.text text)
  | .string, .none => if column.nullable then some .null else none
  | .json, value => some (.text (String.ofList (jsonDumps platform [' '] value)))
  | _, _ => none

/-- The value that a column gives back. -/
def HashField.load {platform : Platform} (floats : FloatReading platform) (column : HashField)
    (cell : Cell) : Option Value :=
  match column.columnType, cell with
  | .integer, .integer number => some (.int number)
  | .string, .text text => some (.str text)
  | .json, .text text => jsonLoads floats text.toList
  | _, .null => some .none
  | _, _ => none

theorem HashField.distinctKeys_load {platform : Platform} {floats : FloatReading platform}
    {column : HashField} {cell : Cell} {value : Value}
    (loaded : column.load floats cell = some value) : DistinctKeys value := by
  unfold HashField.load at loaded
  split at loaded
  next => exact Option.some.inj loaded ▸ trivial
  next => exact Option.some.inj loaded ▸ trivial
  next => exact distinctKeys_jsonLoads floats loaded
  next => exact Option.some.inj loaded ▸ trivial
  next => cases loaded

section Table

variable {platform : Platform} (floats : FloatReading platform)

/-- `INSERT` of a row, which fails on a value that does not fit its column. -/
def insertRow (platform : Platform) (row : AuditLogEntry) : Option AuditLogRow :=
  if hashFields.all fun column => (column.bind platform (row.field column)).isSome then
    some {
      cell := fun column => (column.bind platform (row.field column)).getD .null
      entryHash := row.entryHash
      signingAlgorithm := row.signingAlgorithm
      signingKeyId := row.signingKeyId
      signature := row.signature }
  else none

/-- `SELECT` of a row, which fails on a text that is no JSON. -/
def loadRow (row : AuditLogRow) : Option AuditLogEntry :=
  if readable : ∀ column ∈ hashFields, (column.load floats (row.cell column)).isSome = true then
    some {
      field := fun column =>
        (column.load floats (row.cell column)).get (readable column (mem_hashFields column))
      distinctKeys := fun column =>
        HashField.distinctKeys_load (Option.some_get (readable column (mem_hashFields column))).symm
      entryHash := row.entryHash
      signingAlgorithm := row.signingAlgorithm
      signingKeyId := row.signingKeyId
      signature := row.signature }
  else none

end Table

/-! ## The repository -/

/-- `SQLiteAuditRepo`. -/
structure SQLiteAuditRepo (library : SigningLibrary) where
  genesisHash : String
  signer : Option (AuditSigner library)

namespace SQLiteAuditRepo

variable {library : SigningLibrary} {platform : Platform}
variable (floats : FloatReading platform) (repo : SQLiteAuditRepo library)

/-- The sequence number and the link of the next entry: those behind `get_last`, the
last of the rows in the order of their sequence numbers. -/
def nextLink (log : List AuditLogRow) : Option (Int × String) :=
  match log.getLast? with
  | none => some (1, repo.genesisHash)
  | some row => do
      let last ← loadRow floats row
      match last.field .seq with
      | .int seq => return (seq + 1, last.entryHash)
      | _ => none

/-- The row that `append` builds on the rows it has read. -/
def nextRow (now : Instant) (entry : NewAuditEntry) (log : List AuditLogRow) :
    Option AuditLogRow := do
  let (seq, prevHash) ← repo.nextLink floats log
  let row ← buildAuditRow platform repo.signer entry (utcnowIso now) seq prevHash
  insertRow platform row

/-- `append`, alone in its transaction. -/
def append (now : Instant) (entry : NewAuditEntry) (log : List AuditLogRow) :
    Option (List AuditLogRow) :=
  (repo.nextRow floats now entry log).map fun stored => log ++ [stored]

/-- `verify`. -/
def verify (log : List AuditLogRow) : Option VerifyResult :=
  (log.mapM (loadRow floats)).map (verifyAuditRows platform repo.signer repo.genesisHash)

/-- The audit table as a machine that appends one entry after another; an append that
raises is rolled back. -/
def machine : Machine (List AuditLogRow) (Instant × NewAuditEntry) Bool where
  step log input :=
    match repo.append floats input.1 input.2 log with
    | some log => (log, true)
    | none => (log, false)

end SQLiteAuditRepo

end Era.Repositories
