import Mathlib.Data.Rat.Encodable
import Era.Repositories.Audit

/-!
# Honest logs verify and tampering shows

A row that has been built and stored is read back as it was, so that verification
hashes what was hashed when it was appended.  Conversely a verified log is a chain
whose last hash pins every hashed field of every row.
-/

namespace Era.Repositories

open Era.Core Era.Lib Era.Security

/-! ## What verification accepts -/

section Valid

variable (platform : Platform) {library : SigningLibrary} (signer : Option (AuditSigner library))

/-- A row that verification accepts behind an entry of a given hash. -/
structure RowValid (prev : String) (row : AuditLogEntry) : Prop where
  linked : row.field .prevHash = .str prev
  hashed : row.entryHash = payloadHash platform row.payload
  signed : verifySignature platform signer row = none

theorem pyEq_str {value : Value} {text : String} :
    value.pyEq (.str text) = true ↔ value = .str text := by
  cases value <;> simp [Value.pyEq, Value.number?]

theorem verifyFrom_valid_iff (entryCount : Nat) (prev : String) (rows : List AuditLogEntry) :
    (verifyFrom platform signer entryCount prev rows).valid = true ↔
      HashChain.Chained (RowValid platform signer) AuditLogEntry.entryHash prev rows := by
  induction rows generalizing prev with
  | nil => simp [verifyFrom, HashChain.Chained]
  | cons row rest ih =>
      have accepted : (verifyFrom platform signer entryCount prev (row :: rest)).valid = true ↔
          RowValid platform signer prev row ∧
            (verifyFrom platform signer entryCount row.entryHash rest).valid = true := by
        rw [verifyFrom]
        split
        next broken =>
          simp only [mismatch, Bool.false_eq_true, false_iff, not_and]
          intro valid
          simp [valid.linked, Value.pyEq] at broken
        next linked =>
          have linked : row.field .prevHash = .str prev := pyEq_str.mp (by simpa using linked)
          split
          next changed =>
            simp only [mismatch, Bool.false_eq_true, false_iff, not_and]
            exact fun valid => absurd valid.hashed changed
          next hashed =>
            split
            next reason refused =>
              simp only [mismatch, Bool.false_eq_true, false_iff, not_and]
              intro valid
              rw [valid.signed] at refused
              cases refused
            next signed =>
              have valid : RowValid platform signer prev row :=
                ⟨linked, not_not.mp hashed, signed⟩
              exact (and_iff_right valid).symm
      rw [accepted, ih]
      rfl

theorem verifyAuditRows_valid_iff (genesisHash : String) (rows : List AuditLogEntry) :
    (verifyAuditRows platform signer genesisHash rows).valid = true ↔
      HashChain.Chained (RowValid platform signer) AuditLogEntry.entryHash genesisHash rows := by
  cases rows with
  | nil => simp [verifyAuditRows, HashChain.Chained]
  | cons row rest => exact verifyFrom_valid_iff platform signer _ genesisHash (row :: rest)

end Valid

/-! ## A stored row is read back -/

section Storage

variable {platform : Platform} (floats : FloatReading platform)

theorem HashField.load_bind {column : HashField} {value : Value} {cell : Cell}
    (distinct : DistinctKeys value) (bound : column.bind platform value = some cell) :
    column.load floats cell = some value := by
  have space : ∀ char ∈ [' '], isJsonSpace char = true := by
    intro char member
    rw [List.mem_singleton.mp member]
    rfl
  unfold HashField.bind at bound
  split at bound
  next number type =>
    obtain rfl := Option.some.inj bound
    simp [HashField.load, type]
  next text type =>
    obtain rfl := Option.some.inj bound
    simp [HashField.load, type]
  next type =>
    split at bound
    · obtain rfl := Option.some.inj bound
      simp [HashField.load, type]
    · cases bound
  next type =>
    obtain rfl := Option.some.inj bound
    simp [HashField.load, type, jsonLoads_jsonDumps floats space distinct]
  next => cases bound

theorem AuditLogEntry.ext_field {left right : AuditLogEntry}
    (fields : ∀ column, left.field column = right.field column)
    (entryHash : left.entryHash = right.entryHash)
    (signingAlgorithm : left.signingAlgorithm = right.signingAlgorithm)
    (signingKeyId : left.signingKeyId = right.signingKeyId)
    (signature : left.signature = right.signature) : left = right := by
  cases left
  cases right
  obtain rfl := funext fields
  simp_all

/-- Reading a row back gives the row that has been inserted. -/
theorem loadRow_insertRow {row : AuditLogEntry} {stored : AuditLogRow}
    (inserted : insertRow platform row = some stored) : loadRow floats stored = some row := by
  unfold insertRow at inserted
  split at inserted
  next fits =>
    rw [List.all_eq_true] at fits
    obtain rfl := Option.some.inj inserted
    have loads : ∀ column, column.load floats
        ((column.bind platform (row.field column)).getD .null) = some (row.field column) := by
      intro column
      obtain ⟨cell, bound⟩ := Option.isSome_iff_exists.mp (fits column (mem_hashFields column))
      rw [bound, Option.getD_some]
      exact HashField.load_bind floats (row.distinctKeys column) bound
    unfold loadRow
    rw [dif_pos fun column _ => by rw [loads]; rfl]
    congr 1
    apply AuditLogEntry.ext_field
    · intro column
      simp [loads]
    all_goals rfl
  next => cases inserted

end Storage

/-! ## Honest logs -/

section Honest

variable {platform : Platform} {library : SigningLibrary}

/-- The payload rebuilt from a row is the payload that has been hashed. -/
theorem payload_of_fields {row : AuditLogEntry} {entry : NewAuditEntry} {createdAt : String}
    {seq : Int} {prevHash : String}
    (fields : ∀ column, row.field column =
      (auditPayload entry createdAt seq prevHash).get column.name) :
    row.payload = auditPayload entry createdAt seq prevHash := by
  simp only [AuditLogEntry.payload, fields]
  rfl

theorem buildAuditRow_valid {signer : Option (AuditSigner library)} {entry : NewAuditEntry}
    {createdAt : String} {seq : Int} {prevHash : String} {row : AuditLogEntry}
    (built : buildAuditRow platform signer entry createdAt seq prevHash = some row) :
    RowValid platform signer prevHash row ∧ row.field .seq = .int seq := by
  cases signer with
  | none =>
      obtain rfl := Option.some.inj built
      refine ⟨⟨rfl, ?_, rfl⟩, rfl⟩
      rw [payload_of_fields fun _ => rfl]
  | some signer =>
      obtain ⟨signature, signed, rfl⟩ := Option.map_eq_some_iff.mp built
      obtain ⟨nonempty, verified⟩ := signer.verify_of_sign signed
      refine ⟨⟨rfl, ?_, ?_⟩, rfl⟩
      · rw [payload_of_fields fun _ => rfl]
      · simp [verifySignature, truthyText, nonempty, verified]

/-- Rows are numbered from one without a gap. -/
def Numbered (rows : List AuditLogEntry) : Prop :=
  ∀ (index : Nat) (row : AuditLogEntry), rows[index]? = some row →
    row.field .seq = .int (index + 1)

/-- A log whose rows can be read, form a valid chain and are numbered from one. -/
def Honest (floats : FloatReading platform) (repo : SQLiteAuditRepo library)
    (log : List AuditLogRow) : Prop :=
  ∃ rows, log.mapM (loadRow floats) = some rows ∧
    HashChain.Chained (RowValid platform repo.signer) AuditLogEntry.entryHash repo.genesisHash
      rows ∧
    Numbered rows

theorem Numbered.left {before after : List AuditLogEntry} (numbered : Numbered (before ++ after)) :
    Numbered before := by
  intro index row found
  obtain ⟨bound, _⟩ := List.getElem?_eq_some_iff.mp found
  exact numbered index row (by rw [List.getElem?_append_left bound, found])

theorem Numbered.append_singleton {rows : List AuditLogEntry} {row : AuditLogEntry}
    (numbered : Numbered rows) (last : row.field .seq = .int (rows.length + 1)) :
    Numbered (rows ++ [row]) := by
  intro index other found
  by_cases earlier : index < rows.length
  · exact numbered index other (by rwa [List.getElem?_append_left earlier] at found)
  · obtain ⟨bound, _⟩ := List.getElem?_eq_some_iff.mp found
    obtain rfl : index = rows.length := by
      rw [List.length_append, List.length_singleton] at bound
      omega
    rw [List.getElem?_concat_length] at found
    exact Option.some.inj found ▸ last

variable {floats : FloatReading platform} {repo : SQLiteAuditRepo library}

/-- The rows of a log that ends in a stored row. -/
theorem mapM_loadRow_append_singleton {before : List AuditLogRow} {stored : AuditLogRow}
    {rows : List AuditLogEntry}
    (loaded : (before ++ [stored]).mapM (loadRow floats) = some rows) :
    ∃ earlier last, before.mapM (loadRow floats) = some earlier ∧
      loadRow floats stored = some last ∧ rows = earlier ++ [last] := by
  rw [List.mapM_append] at loaded
  obtain ⟨earlier, earlierLoaded, loaded⟩ := Option.bind_eq_some_iff.mp loaded
  obtain ⟨later, laterLoaded, loaded⟩ := Option.bind_eq_some_iff.mp loaded
  rw [List.mapM_cons] at laterLoaded
  obtain ⟨last, lastLoaded, laterLoaded⟩ := Option.bind_eq_some_iff.mp laterLoaded
  obtain rfl := Option.some.inj laterLoaded
  exact ⟨earlier, last, earlierLoaded, lastLoaded, (Option.some.inj loaded).symm⟩

theorem Honest.left {before after : List AuditLogRow}
    (honest : Honest floats repo (before ++ after)) : Honest floats repo before := by
  obtain ⟨rows, loaded, chained, numbered⟩ := honest
  rw [List.mapM_append] at loaded
  obtain ⟨earlier, earlierLoaded, loaded⟩ := Option.bind_eq_some_iff.mp loaded
  obtain ⟨later, laterLoaded, loaded⟩ := Option.bind_eq_some_iff.mp loaded
  obtain rfl := Option.some.inj loaded
  exact ⟨earlier, earlierLoaded, chained.left, numbered.left⟩

theorem Honest.take {log : List AuditLogRow} (honest : Honest floats repo log)
    (count : Nat) : Honest floats repo (log.take count) := by
  rw [← List.take_append_drop count log] at honest
  exact honest.left

theorem Honest.verify_valid {log : List AuditLogRow} (honest : Honest floats repo log) :
    ∃ result, repo.verify floats log = some result ∧ result.valid = true := by
  obtain ⟨rows, loaded, chained, _⟩ := honest
  refine ⟨verifyAuditRows platform repo.signer repo.genesisHash rows, ?_, ?_⟩
  · simp [SQLiteAuditRepo.verify, loaded]
  · exact (verifyAuditRows_valid_iff platform repo.signer repo.genesisHash rows).mpr chained

/-- The next entry takes the next number and is linked to the last hash. -/
theorem nextLink_eq {log : List AuditLogRow} {rows : List AuditLogEntry}
    (loaded : log.mapM (loadRow floats) = some rows) (numbered : Numbered rows) :
    repo.nextLink floats log =
      some ((rows.length : Int) + 1,
        HashChain.tip AuditLogEntry.entryHash repo.genesisHash rows) := by
  cases log using List.reverseRecOn with
  | nil =>
      obtain rfl := Option.some.inj loaded
      rfl
  | append_singleton before stored =>
      obtain ⟨earlier, last, _, lastLoaded, rfl⟩ := mapM_loadRow_append_singleton loaded
      have lastSeq := numbered earlier.length last List.getElem?_concat_length
      simp [SQLiteAuditRepo.nextLink, lastLoaded, lastSeq]

/-- Appending keeps a log honest. -/
theorem Honest.append {log : List AuditLogRow} {stored : AuditLogRow} {now : Instant}
    {entry : NewAuditEntry} (honest : Honest floats repo log)
    (next : repo.nextRow floats now entry log = some stored) :
    Honest floats repo (log ++ [stored]) := by
  obtain ⟨rows, loaded, chained, numbered⟩ := honest
  simp only [SQLiteAuditRepo.nextRow, nextLink_eq loaded numbered, Option.bind_eq_bind,
    Option.bind_some] at next
  obtain ⟨row, built, inserted⟩ := Option.bind_eq_some_iff.mp next
  obtain ⟨valid, rowSeq⟩ := buildAuditRow_valid built
  have read := loadRow_insertRow floats inserted
  refine ⟨rows ++ [row], by simp [List.mapM_append, loaded, read], ?_, ?_⟩
  · rw [HashChain.chained_append_singleton]
    exact ⟨chained, valid⟩
  · exact numbered.append_singleton rowSeq

theorem getElem?_of_mapM_loadRow {log : List AuditLogRow} {rows : List AuditLogEntry}
    (loaded : log.mapM (loadRow floats) = some rows) {index : Nat} {stored : AuditLogRow}
    (found : log[index]? = some stored) :
    ∃ row, loadRow floats stored = some row ∧ rows[index]? = some row := by
  induction log generalizing rows index with
  | nil => simp at found
  | cons first log ih =>
      rw [List.mapM_cons] at loaded
      obtain ⟨row, firstLoaded, loaded⟩ := Option.bind_eq_some_iff.mp loaded
      obtain ⟨rest, restLoaded, loaded⟩ := Option.bind_eq_some_iff.mp loaded
      obtain rfl := Option.some.inj loaded
      cases index with
      | zero =>
          obtain rfl : first = stored := by simpa using found
          exact ⟨row, firstLoaded, rfl⟩
      | succ index => exact ih restLoaded (by simpa using found)

/-- The stored numbers of an honest log count its rows. -/
theorem Honest.cell_seq {log : List AuditLogRow} (honest : Honest floats repo log) {index : Nat}
    {stored : AuditLogRow} (found : log[index]? = some stored) :
    stored.cell .seq = .integer (index + 1) := by
  obtain ⟨rows, loaded, _, numbered⟩ := honest
  obtain ⟨row, rowLoaded, rowFound⟩ := getElem?_of_mapM_loadRow loaded found
  have rowSeq := numbered index row rowFound
  unfold loadRow at rowLoaded
  split at rowLoaded
  next readable =>
    obtain rfl := Option.some.inj rowLoaded
    have loads : HashField.load floats .seq (stored.cell .seq) = some (.int (index + 1)) :=
      Option.eq_some_iff_get_eq.mpr ⟨readable .seq (mem_hashFields _), rowSeq⟩
    cases cell : stored.cell .seq with
    | integer number =>
        simp only [HashField.load, HashField.columnType, cell, Option.some.injEq,
          Value.int.injEq] at loads
        rw [loads]
    | null => simp [HashField.load, HashField.columnType, cell] at loads
    | text text => simp [HashField.load, HashField.columnType, cell] at loads
  next => cases rowLoaded

theorem Honest.nextRow_seq {log : List AuditLogRow} {stored : AuditLogRow} {now : Instant}
    {entry : NewAuditEntry} (honest : Honest floats repo log)
    (next : repo.nextRow floats now entry log = some stored) :
    stored.cell .seq = .integer (log.length + 1) :=
  (honest.append next).cell_seq List.getElem?_concat_length

/-- Every history of appends leaves an honest log. -/
theorem honest_stateAfter (floats : FloatReading platform) (repo : SQLiteAuditRepo library)
    (appends : List (Instant × NewAuditEntry)) :
    Honest floats repo ((repo.machine floats).stateAfter [] appends) := by
  apply Machine.invariant
  · exact ⟨[], rfl, trivial, by simp [Numbered]⟩
  · rintro log ⟨now, entry⟩ honest
    dsimp only [SQLiteAuditRepo.machine]
    split
    next appended success =>
      obtain ⟨stored, next, rfl⟩ := Option.map_eq_some_iff.mp success
      exact honest.append next
    next => exact honest

/-- Whatever has been appended, every prefix of the log verifies. -/
theorem verify_prefix_valid (floats : FloatReading platform) (repo : SQLiteAuditRepo library)
    (appends : List (Instant × NewAuditEntry)) (count : Nat) :
    ∃ result,
      repo.verify floats (((repo.machine floats).stateAfter [] appends).take count) =
        some result ∧ result.valid = true :=
  ((honest_stateAfter floats repo appends).take count).verify_valid

end Honest

/-! ## A demonstration log

Floats are written so that they can be read again, and one entry is written twice with
its parameters in different orders. -/

namespace Demo

/-- Floats are numbered, and written as their number with a fraction. -/
def floatRepr : PyFloat → String
  | .finite number => String.ofList (Nat.toDigits 10 (Encodable.encode number) ++ ['.', '0'])
  | .negZero => "-0.0"
  | _ => ""

def parseFloat (text : String) : PyFloat :=
  if text = "-0.0" then .negZero
  else
    let digits := text.toList.takeWhile Char.isDigit
    match Encodable.decode (Nat.ofDigitChars 10 digits 0) with
    | some number => .finite number
    | none => .nan

/-- The identity stands in for SHA-256, so distinct texts have distinct hashes. -/
def platform : Platform :=
  { sha256Hex := id, floatRepr, formatSeconds := fun _ => "30", reprString := id
    upper := String.toUpper, lower := String.toLower, casefold := String.toLower
    isDecimal := Char.isDigit, getAddresses := id, parseAddress := id
    redactSensitiveText := id }

theorem takeWhile_digits (number : Nat) :
    (Nat.toDigits 10 number ++ ['.', '0']).takeWhile Char.isDigit = Nat.toDigits 10 number ∧
      (Nat.toDigits 10 number ++ ['.', '0']).dropWhile Char.isDigit = ['.', '0'] := by
  have digits := isDigit_toDigits number
  rw [List.takeWhile_append_of_pos digits, List.dropWhile_append_of_pos digits]
  exact ⟨List.append_nil _, rfl⟩

theorem toDigits_ne_sign (number : Nat) (rest : List Char) :
    Nat.toDigits 10 number ++ ['.', '0'] ≠ '-' :: rest := by
  intro equal
  obtain ⟨first, tail, digits⟩ := List.exists_cons_of_ne_nil
    (Nat.toDigits_ne_nil (b := 10) (n := number))
  rw [digits] at equal
  have digit := isDigit_toDigits number first (by rw [digits]; exact List.mem_cons_self)
  rw [(List.cons.inj equal).1] at digit
  cases digit

def floats : FloatReading platform where
  parse := parseFloat
  repr_literal := by
    rintro (number | _ | _ | _ | _) finite
    · obtain ⟨digits, tail⟩ := takeWhile_digits (Encodable.encode number)
      simp only [platform, floatRepr, String.toList_ofList]
      unfold floatLiteral
      split
      next unsigned text_eq => exact absurd text_eq (toDigits_ne_sign _ _)
      · simp only [unsignedFloatLiteral, digits, tail, naturalLiteral_toDigits]
        rfl
    · decide
    all_goals cases finite
  parse_repr := by
    rintro (number | _ | _ | _ | _) finite
    · obtain ⟨digits, _⟩ := takeWhile_digits (Encodable.encode number)
      have notNegZero : floatRepr (.finite number) ≠ "-0.0" := by
        intro equal
        exact toDigits_ne_sign _ ['0', '.', '0']
          (by simpa [floatRepr] using congrArg String.toList equal)
      change parseFloat (floatRepr (.finite number)) = _
      rw [parseFloat, if_neg notNegZero]
      simp [floatRepr, digits]
    · rfl
    all_goals cases finite

/-- A write into the notes, with its parameters in a given order. -/
def entry (actionParams : Params) (distinct : DistinctKeys (.dict actionParams)) :
    NewAuditEntry :=
  { actorId := "alice", actionType := "fs.write", actionParams, riskLevel := "MUTATING"
    decision := "ALLOW", outcome := "EXECUTED", policyVersion := 1, appVersion := "0"
    confirmationId := none, result := some "done", errorCode := none
    providerId := some "stub", capabilityDomain := some "file", credentialRef := none
    metadata := [], actionParams_distinct := distinct
    metadata_distinct := distinctKeys_empty }

/-- The first row of a log, without a signer. -/
def row (entry : NewAuditEntry) : AuditLogEntry :=
  { field := fun column => (auditPayload entry "2026-01-01T00:00:00+00:00" 1 "").get column.name
    distinctKeys := distinctKeys_auditPayload entry _ 1 ""
    entryHash := payloadHash platform (auditPayload entry "2026-01-01T00:00:00+00:00" 1 "")
    signingAlgorithm := none
    signingKeyId := none
    signature := none }

def pathFirst : AuditLogEntry :=
  row (entry [("path", .str "notes.txt"), ("content", .str "milk")] (by
    simp [DistinctKeys, DistinctKeys.distinctFields]))

def contentFirst : AuditLogEntry :=
  row (entry [("content", .str "milk"), ("path", .str "notes.txt")] (by
    simp [DistinctKeys, DistinctKeys.distinctFields]))

/-- Primitives that sign with the message alone. -/
def library : SigningLibrary :=
  { hmacSha256 := fun _ _ => List.replicate 32 0
    ed25519PublicKey := id
    ed25519Sign := fun _ _ => List.replicate 64 0
    ed25519Verify := fun _ _ signature => signature == List.replicate 64 0
    hmacSha256_length := fun _ _ => List.length_replicate
    ed25519Sign_length := fun _ _ => List.length_replicate
    ed25519Verify_sign := fun _ _ => by simp }

theorem verify_row (entry : NewAuditEntry) :
    (verifyAuditRows platform (none : Option (AuditSigner library)) "" [row entry]).valid =
      true := by
  rw [verifyAuditRows_valid_iff]
  have built : buildAuditRow platform (none : Option (AuditSigner library)) entry
    "2026-01-01T00:00:00+00:00" 1 "" = some (row entry) := rfl
  exact ⟨(buildAuditRow_valid built).1, trivial⟩

theorem sameEntryHash : pathFirst.entryHash = contentFirst.entryHash := by
  have sameParams : canonicalJson platform
      (.dict [("path", .str "notes.txt"), ("content", .str "milk")]) =
        canonicalJson platform
          (.dict [("content", .str "milk"), ("path", .str "notes.txt")]) := by
    decide +kernel
  simp only [pathFirst, contentFirst, row, payloadHash]
  rw [canonicalJson, canonicalJson]
  simp only [auditPayload, canonicalJson.renderFields, entry, sameParams]

end Demo

/-! ## Tampering shows -/

section Tampering

variable {platform : Platform}

theorem HashField.name_injective : Function.Injective HashField.name := by
  intro left right equal
  cases left <;> cases right <;> first | rfl | exact absurd equal (by decide)

/-- Two rows that agree on every hashed field, up to the order of dictionary keys. -/
def SameFields (left right : AuditLogEntry) : Prop :=
  ∀ column, sortKeys (left.field column) = sortKeys (right.field column)

theorem distinctKeys_payload (row : AuditLogEntry) : DistinctKeys (.dict row.payload) := by
  constructor
  · have names : row.payload.map Prod.fst = hashFields.map HashField.name := by
      simp [AuditLogEntry.payload]
    rw [names]
    decide
  · rw [distinctFields_iff]
    intro field member
    obtain ⟨column, _, rfl⟩ := List.mem_map.mp member
    exact row.distinctKeys column

theorem sortFields_eq_map (fields : Params) :
    sortKeys.sortFields fields = fields.map fun field => (field.1, sortKeys field.2) := by
  induction fields with
  | nil => rfl
  | cons field fields ih => rw [sortKeys.sortFields, ih, List.map_cons]

/-- Payloads with one canonical form have the same value under every name. -/
theorem sameFields_of_payload {left right : AuditLogEntry}
    (equal : sortKeys (.dict left.payload) = sortKeys (.dict right.payload)) :
    SameFields left right := by
  intro column
  simp only [sortKeys, Value.dict.injEq, sortFields_eq_map] at equal
  have leftMember : (column.name, sortKeys (left.field column)) ∈
      left.payload.map fun field => (field.1, sortKeys field.2) :=
    List.mem_map.mpr ⟨_, List.mem_map.mpr ⟨column, mem_hashFields column, rfl⟩, rfl⟩
  rw [← List.mem_insertionSort fun left right : String × Value => left.1 ≤ right.1, equal,
    List.mem_insertionSort] at leftMember
  obtain ⟨field, fieldMember, fieldEq⟩ := List.mem_map.mp leftMember
  obtain ⟨other, _, rfl⟩ := List.mem_map.mp fieldMember
  obtain ⟨sameName, sameValue⟩ := Prod.mk.inj fieldEq
  obtain rfl := HashField.name_injective sameName
  exact sameValue.symm

theorem sameFields_of_payloadHash (floats : FloatReading platform)
    (collisionFree : platform.CollisionFree) {left right : AuditLogEntry}
    (equal : payloadHash platform left.payload = payloadHash platform right.payload) :
    SameFields left right :=
  sameFields_of_payload (canonicalJson_inj floats (distinctKeys_payload left)
    (distinctKeys_payload right) (String.ofList_injective (collisionFree equal)))

/-- What verification has checked of a row whatever its signature. -/
structure RowLinked (platform : Platform) (prev : String) (row : AuditLogEntry) : Prop where
  linked : row.field .prevHash = .str prev
  hashed : row.entryHash = payloadHash platform row.payload

theorem RowLinked.inj (floats : FloatReading platform) (collisionFree : platform.CollisionFree)
    {leftPrev rightPrev : String} {left right : AuditLogEntry}
    (leftLinked : RowLinked platform leftPrev left)
    (rightLinked : RowLinked platform rightPrev right)
    (equal : left.entryHash = right.entryHash) :
    leftPrev = rightPrev ∧ SameFields left right := by
  rw [leftLinked.hashed, rightLinked.hashed] at equal
  have same := sameFields_of_payloadHash floats collisionFree equal
  have links := same .prevHash
  rw [leftLinked.linked, rightLinked.linked] at links
  exact ⟨Value.str.inj links, same⟩

theorem tip_eq_of_last {genesisHash : String} {left right : List AuditLogEntry}
    (sameLast : left.getLast?.map AuditLogEntry.entryHash =
      right.getLast?.map AuditLogEntry.entryHash) :
    HashChain.tip AuditLogEntry.entryHash genesisHash left =
      HashChain.tip AuditLogEntry.entryHash genesisHash right := by
  rw [HashChain.tip, HashChain.tip, sameLast]

/-- Two verified lists of rows that end in one hash agree row by row. -/
theorem sameFields_of_last_entryHash (floats : FloatReading platform)
    (collisionFree : platform.CollisionFree) {library : SigningLibrary}
    {leftSigner rightSigner : Option (AuditSigner library)} {genesisHash : String}
    (noGenesis : ∀ row : AuditLogEntry, payloadHash platform row.payload ≠ genesisHash)
    {left right : List AuditLogEntry}
    (leftValid : (verifyAuditRows platform leftSigner genesisHash left).valid = true)
    (rightValid : (verifyAuditRows platform rightSigner genesisHash right).valid = true)
    (sameLast : left.getLast?.map AuditLogEntry.entryHash =
      right.getLast?.map AuditLogEntry.entryHash) :
    List.Forall₂ SameFields left right := by
  have linkedOf : ∀ {signer : Option (AuditSigner library)} {rows : List AuditLogEntry},
      (verifyAuditRows platform signer genesisHash rows).valid = true →
      HashChain.Chained (RowLinked platform) AuditLogEntry.entryHash genesisHash rows := by
    intro signer rows valid
    exact ((verifyAuditRows_valid_iff ..).mp valid).mono fun row => ⟨row.linked, row.hashed⟩
  apply HashChain.forall₂_of_tip_eq (linkedOf leftValid) (linkedOf rightValid)
    (tip_eq_of_last sameLast)
  · intro leftPrev rightPrev left right leftLinked rightLinked equal
    exact leftLinked.inj floats collisionFree rightLinked equal
  · intro prev row linked
    rw [linked.hashed]
    exact noGenesis row

/-- The order of the parameters of a request is not pinned, everything else is. -/
theorem sameFields_of_last_entryHash_demo :
    List.Forall₂ SameFields [Demo.pathFirst] [Demo.contentFirst] :=
  sameFields_of_last_entryHash Demo.floats Function.injective_id
    (fun row empty => by
      have text := congrArg String.toList empty
      simp [payloadHash, Demo.platform, canonicalJson, renderObject] at text)
    (Demo.verify_row _) (Demo.verify_row _) (congrArg some Demo.sameEntryHash)

end Tampering

end Era.Repositories
