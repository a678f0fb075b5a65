import Era.Lib.Base64
import Era.Security.Hashing

/-!
# Keyed audit-chain signing

A plain chain of hashes can be recomputed by whoever rewrites the table.  The
signers authenticate every entry hash with HMAC-SHA-256 or Ed25519, over a document
that also names the algorithm and the key.
-/

namespace Era.Security

open Era.Core Era.Lib

/-- The primitives of `hmac` and `cryptography`, on raw keys, and what is documented
about them: digests and signatures have a fixed positive length, and the public key
of a private key accepts what the private key has signed. -/
structure SigningLibrary where
  hmacSha256 : List UInt8 → List UInt8 → List UInt8
  ed25519PublicKey : List UInt8 → List UInt8
  ed25519Sign : List UInt8 → List UInt8 → List UInt8
  ed25519Verify : List UInt8 → List UInt8 → List UInt8 → Bool
  hmacSha256_length : ∀ key message, (hmacSha256 key message).length = 32
  ed25519Sign_length : ∀ key message, (ed25519Sign key message).length = 64
  ed25519Verify_sign : ∀ key message,
    ed25519Verify (ed25519PublicKey key) message (ed25519Sign key message) = true

def signingDomain : List UInt8 := "ERA-AUDIT-SIGNATURE-V1\x00".toUTF8.data.toList

/-- Domain-separated canonical bytes bound to both algorithm and key id. -/
def signingPayload (platform : Platform) (entryHash algorithm keyId : String) : List UInt8 :=
  let document := canonicalJson platform (.dict [("algorithm", .str algorithm),
    ("entry_hash", .str entryHash), ("key_id", .str keyId)])
  signingDomain ++ (String.ofList document).toUTF8.data.toList

/-- `_encode_signature`. -/
def encodeSignature (value : List UInt8) : String :=
  String.ofList (Base64.strip (Base64.encode value))

/-- `_decode_signature`; a missing or malformed signature raises. -/
def decodeSignature (value : String) : Option (List UInt8) :=
  if value = "" then none
  else Base64.decode (value.toList ++ Base64.padding value.toList.length)

/-- A signer whose constructor has accepted its keys. -/
inductive AuditSigner (library : SigningLibrary) where
  /-- `HMACAuditSigner`. -/
  | hmac (key : List UInt8) (keyId : String) (keyLength : 32 ≤ key.length)
      (keyIdNonempty : keyId ≠ "")
  /-- `Ed25519AuditSigner`, which without a private key only verifies. -/
  | ed25519 (privateKey : Option (List UInt8)) (publicKey : List UInt8) (keyId : String)
      (keysMatch : ∀ key ∈ privateKey, library.ed25519PublicKey key = publicKey)
      (keyIdNonempty : keyId ≠ "")

namespace AuditSigner

variable {library : SigningLibrary}

def algorithm : AuditSigner library → String
  | hmac .. => "hmac-sha256"
  | ed25519 .. => "ed25519"

def keyId : AuditSigner library → String
  | hmac _ keyId .. => keyId
  | ed25519 _ _ keyId .. => keyId

/-- What a signer puts its key to. -/
def payload (platform : Platform) (signer : AuditSigner library) (entryHash : String) :
    List UInt8 :=
  signingPayload platform entryHash signer.algorithm signer.keyId

/-- `sign`, which raises when there is no private key. -/
def sign (platform : Platform) (signer : AuditSigner library) (entryHash : String) :
    Option String :=
  match signer with
  | hmac key .. =>
      some (encodeSignature (library.hmacSha256 key (signer.payload platform entryHash)))
  | ed25519 privateKey .. => privateKey.map fun key =>
      encodeSignature (library.ed25519Sign key (signer.payload platform entryHash))

def verify (platform : Platform) (signer : AuditSigner library)
    (entryHash signature : String) : Bool :=
  match decodeSignature signature with
  | none => false
  | some supplied =>
      match signer with
      | hmac key .. => supplied == library.hmacSha256 key (signer.payload platform entryHash)
      | ed25519 _ publicKey .. =>
          library.ed25519Verify publicKey (signer.payload platform entryHash) supplied

/-- A signer that holds what it needs to sign. -/
def CanSign : AuditSigner library → Prop
  | hmac .. => True
  | ed25519 privateKey .. => privateKey.isSome = true

end AuditSigner

theorem encodeSignature_ne_empty {value : List UInt8} (nonempty : value ≠ []) :
    encodeSignature value ≠ "" := by
  intro empty
  apply Base64.strip_encode_ne_nil nonempty
  simpa [encodeSignature] using congrArg String.toList empty

theorem decodeSignature_encodeSignature {value : List UInt8} (nonempty : value ≠ []) :
    decodeSignature (encodeSignature value) = some value := by
  rw [decodeSignature, if_neg (encodeSignature_ne_empty nonempty), encodeSignature,
    String.toList_ofList]
  exact Base64.decode_strip_encode value

namespace AuditSigner

variable {library : SigningLibrary} {platform : Platform}

/-- A signer accepts its own signatures, none of which is empty. -/
theorem verify_of_sign {signer : AuditSigner library} {entryHash signature : String}
    (signed : signer.sign platform entryHash = some signature) :
    signature ≠ "" ∧ signer.verify platform entryHash signature = true := by
  cases signer with
  | hmac key keyId keyLength keyIdNonempty =>
      obtain rfl := Option.some.inj signed
      have nonempty : library.hmacSha256 key
          ((hmac key keyId keyLength keyIdNonempty : AuditSigner library).payload platform
            entryHash) ≠ [] :=
        List.ne_nil_of_length_pos (by rw [library.hmacSha256_length]; decide)
      exact ⟨encodeSignature_ne_empty nonempty,
        by simp [verify, decodeSignature_encodeSignature nonempty]⟩
  | ed25519 privateKey publicKey keyId keysMatch keyIdNonempty =>
      obtain ⟨key, rfl, rfl⟩ := Option.map_eq_some_iff.mp signed
      obtain rfl := keysMatch key rfl
      have nonempty : library.ed25519Sign key
          ((ed25519 (some key) _ keyId keysMatch keyIdNonempty :
            AuditSigner library).payload platform entryHash) ≠ [] :=
        List.ne_nil_of_length_pos (by rw [library.ed25519Sign_length]; decide)
      refine ⟨encodeSignature_ne_empty nonempty, ?_⟩
      simp only [verify, decodeSignature_encodeSignature nonempty]
      exact library.ed25519Verify_sign key _

theorem sign_isSome_iff (platform : Platform) (signer : AuditSigner library)
    (entryHash : String) :
    (signer.sign platform entryHash).isSome = true ↔ signer.CanSign := by
  cases signer with
  | hmac => simp [sign, CanSign]
  | ed25519 => simp [sign, CanSign]

end AuditSigner

end Era.Security
