import Era.Services.VaultService

/-!
# References and their resolutions

A reference is written with a domain and a name, and read back.  The regular expression of a
part ends in `$`, which also matches before a final newline.
-/

namespace Era.Security

open Era.Core

/-- `make_vault_ref`. -/
def makeVaultRef (domain name : String) : String := "vault:" ++ domain ++ "/" ++ name

/-- One to 64 letters, digits, underscores and hyphens, the first a letter or a digit. -/
def IsPart (part : String) : Prop :=
  ∃ first rest, part.toList = first :: rest ∧ isAsciiAlphanumeric first = true ∧
    rest.length ≤ 63 ∧ ∀ char ∈ rest, isAsciiAlphanumeric char = true ∨ char = '_' ∨ char = '-'

/-- A newline follows the domain, the name or both. -/
def HasNewlineAfterPart (ref : String) : Prop :=
  ∃ domain name, IsPart domain ∧ IsPart name ∧
    (ref = makeVaultRef (domain ++ "\n") name ∨ ref = makeVaultRef domain (name ++ "\n") ∨
      ref = makeVaultRef (domain ++ "\n") (name ++ "\n"))

/-- What is promised of references. -/
structure ReferencesExact (ref : String) : Prop where
  accepted_iff : (parseVaultRef ref).isSome = true ↔
    ∃ domain name, IsPart domain ∧ IsPart name ∧ ref = makeVaultRef domain name
  roundTrip : ∀ domain name, IsPart domain → IsPart name →
    parseVaultRef (makeVaultRef domain name) = some (domain, name)
  /-- Two references that are accepted never share their associated data. -/
  aad_injective : ∀ one other first second, parseVaultRef one = some first →
    parseVaultRef other = some second → aad first.1 first.2 = aad second.1 second.2 →
      first = second

/-! ## Parts -/

theorem isAsciiAlphanumeric_cases {char : Char} (alphanumeric : isAsciiAlphanumeric char = true) :
    char ≠ '\n' ∧ char ≠ '/' := by
  constructor <;>
  · rintro rfl
    revert alphanumeric
    decide

theorem IsPart.not_mem {part : String} (isPart : IsPart part) :
    '\n' ∉ part.toList ∧ '/' ∉ part.toList := by
  obtain ⟨first, rest, split, alphanumeric, -, allowed⟩ := isPart
  have every : ∀ char ∈ part.toList, char ≠ '\n' ∧ char ≠ '/' := by
    intro char member
    rw [split] at member
    obtain rfl | later := List.mem_cons.mp member
    · exact isAsciiAlphanumeric_cases alphanumeric
    · obtain inside | rfl | rfl := allowed char later
      · exact isAsciiAlphanumeric_cases inside
      · decide
      · decide
  exact ⟨fun member => (every _ member).1 rfl, fun member => (every _ member).2 rfl⟩

theorem withoutFinalNewline_eq (text : List Char) :
    withoutFinalNewline text = text ∧ text.getLast? ≠ some '\n' ∨
      text = withoutFinalNewline text ++ ['\n'] := by
  unfold withoutFinalNewline
  split
  next final => exact .inr (List.dropLast_append_getLast? _ final).symm
  next other => exact .inl ⟨rfl, other⟩

/-- The regular expression matches parts, and parts before a final newline. -/
theorem isVaultPart_iff (text : String) :
    isVaultPart text.toList = true ↔ IsPart text ∨ ∃ part, IsPart part ∧ text = part ++ "\n" := by
  have matches_iff : isVaultPart text.toList = true ↔
      IsPart (String.ofList (withoutFinalNewline text.toList)) := by
    unfold isVaultPart IsPart
    rw [String.toList_ofList]
    cases withoutFinalNewline text.toList with
    | nil => simp
    | cons first rest => simp [and_assoc, or_assoc]
  rw [matches_iff]
  obtain ⟨same, open_end⟩ | newline := withoutFinalNewline_eq text.toList
  · rw [same, String.ofList_toList]
    refine ⟨.inl, fun either => either.resolve_right ?_⟩
    rintro ⟨part, -, rfl⟩
    exact open_end (by simp)
  · constructor
    · intro isPart
      exact .inr ⟨_, isPart, String.toList_inj.mp (newline.trans (by simp))⟩
    · rintro (isPart | ⟨part, isPart, rfl⟩)
      · exact absurd (newline ▸ List.mem_append_right _ List.mem_cons_self) isPart.not_mem.1
      · have stripped : withoutFinalNewline (part ++ "\n").toList = part.toList := by
          simp [withoutFinalNewline]
        rwa [stripped, String.ofList_toList]

/-! ## References -/

theorem isVaultPart_not_mem {part : String} (accepted : isVaultPart part.toList = true) :
    '/' ∉ part.toList := by
  obtain isPart | ⟨plain, isPart, rfl⟩ := (isVaultPart_iff part).mp accepted
  · exact isPart.not_mem.2
  · simpa using isPart.not_mem.2

theorem takeWhile_before_slash {before : List Char} (noSlash : '/' ∉ before) (after : List Char) :
    (before ++ '/' :: after).takeWhile (· != '/') = before := by
  rw [List.takeWhile_append_of_pos fun char member => ?_]
  · simp
  · exact bne_iff_ne.mpr (ne_of_mem_of_not_mem member noSlash)

/-- A text with a slash is cut at the first one. -/
theorem cut_at_slash {text : List Char} (slash : '/' ∈ text) :
    text = text.takeWhile (· != '/') ++
      '/' :: text.drop ((text.takeWhile (· != '/')).length + 1) := by
  obtain ⟨before, after, rfl, noSlash⟩ := List.eq_append_cons_of_mem slash
  rw [takeWhile_before_slash noSlash, ← List.drop_drop, List.drop_left]
  rfl

theorem makeVaultRef_toList (domain name : String) :
    (makeVaultRef domain name).toList =
      "vault:".toList ++ (domain.toList ++ '/' :: name.toList) := by
  simp [makeVaultRef]

theorem cut_inj {before after other rest : List Char} (noSlash : '/' ∉ before)
    (otherNoSlash : '/' ∉ other) (same : before ++ '/' :: after = other ++ '/' :: rest) :
    before = other ∧ after = rest := by
  have sameBefore : before = other := by
    rw [← takeWhile_before_slash noSlash after, same,
      takeWhile_before_slash otherNoSlash]
  subst sameBefore
  exact ⟨rfl, List.tail_eq_of_cons_eq (List.append_cancel_left same)⟩

theorem aad_inj {domain name otherDomain otherName : String} (noSlash : '/' ∉ domain.toList)
    (otherNoSlash : '/' ∉ otherDomain.toList) (same : aad domain name = aad otherDomain otherName) :
    (domain, name) = (otherDomain, otherName) := by
  have texts : domain.toList ++ '/' :: name.toList =
      otherDomain.toList ++ '/' :: otherName.toList := by
    simpa using congrArg String.toList (String.toByteArray_inj.mp same)
  obtain ⟨sameDomain, sameName⟩ := cut_inj noSlash otherNoSlash texts
  rw [String.toList_inj.mp sameDomain, String.toList_inj.mp sameName]

/-- A reference is accepted exactly if its parts match. -/
theorem parseVaultRef_iff {ref domain name : String} :
    parseVaultRef ref = some (domain, name) ↔
      isVaultPart domain.toList = true ∧ isVaultPart name.toList = true ∧
        ref = makeVaultRef domain name := by
  constructor
  · intro parsed
    unfold parseVaultRef at parsed
    split at parsed
    next marked =>
      extract_lets rest before after at parsed
      split at parsed
      next accepted =>
        simp only [Bool.and_eq_true] at accepted
        obtain ⟨⟨slash, domainMatches⟩, nameMatches⟩ := accepted
        obtain ⟨rfl, rfl⟩ := Prod.mk.inj (Option.some.inj parsed)
        rw [String.toList_ofList, String.toList_ofList]
        refine ⟨domainMatches, nameMatches, String.toList_inj.mp ?_⟩
        have cut : rest = before ++ '/' :: after := cut_at_slash (List.contains_iff_mem.mp slash)
        simp only [makeVaultRef_toList, String.toList_ofList, ← cut]
        exact (List.prefix_iff_eq_append.mp (List.isPrefixOf_iff_prefix.mp marked)).symm
      next => cases parsed
    next => cases parsed
  · rintro ⟨domainMatches, nameMatches, rfl⟩
    have noSlash := isVaultPart_not_mem domainMatches
    unfold parseVaultRef
    rw [makeVaultRef_toList, if_pos (by simp)]
    have rest : ("vault:".toList ++ (domain.toList ++ '/' :: name.toList)).drop 6 =
        domain.toList ++ '/' :: name.toList := rfl
    simp only [rest, takeWhile_before_slash noSlash]
    simp [domainMatches, nameMatches]

/-- References of different domains or names are different. -/
theorem makeVaultRef_inj {domain name otherDomain otherName : String}
    (noSlash : '/' ∉ domain.toList) (otherNoSlash : '/' ∉ otherDomain.toList)
    (same : makeVaultRef domain name = makeVaultRef otherDomain otherName) :
    domain = otherDomain ∧ name = otherName := by
  have texts := congrArg String.toList same
  rw [makeVaultRef_toList, makeVaultRef_toList] at texts
  obtain ⟨sameDomain, sameName⟩ :=
    cut_inj noSlash otherNoSlash (List.append_cancel_left texts)
  exact ⟨String.toList_inj.mp sameDomain, String.toList_inj.mp sameName⟩

theorem parseVaultRef_isSome_iff {ref : String} :
    (parseVaultRef ref).isSome = true ↔ ∃ domain name, isVaultPart domain.toList = true ∧
      isVaultPart name.toList = true ∧ ref = makeVaultRef domain name := by
  rw [Option.isSome_iff_exists]
  exact ⟨fun ⟨(domain, name), parsed⟩ => ⟨domain, name, parseVaultRef_iff.mp parsed⟩,
    fun ⟨domain, name, parts⟩ => ⟨(domain, name), parseVaultRef_iff.mpr parts⟩⟩

/-- What is accepted has parts, or a newline after one of them. -/
theorem accepted_cases {ref : String} :
    (parseVaultRef ref).isSome = true ↔
      (∃ domain name, IsPart domain ∧ IsPart name ∧ ref = makeVaultRef domain name) ∨
        HasNewlineAfterPart ref := by
  simp only [parseVaultRef_isSome_iff, isVaultPart_iff]
  constructor
  · rintro ⟨_, _, isDomain | ⟨domain, isDomain, rfl⟩, isName | ⟨name, isName, rfl⟩, rfl⟩
    · exact .inl ⟨_, _, isDomain, isName, rfl⟩
    · exact .inr ⟨_, name, isDomain, isName, .inr (.inl rfl)⟩
    · exact .inr ⟨domain, _, isDomain, isName, .inl rfl⟩
    · exact .inr ⟨domain, name, isDomain, isName, .inr (.inr rfl)⟩
  · rintro (⟨domain, name, isDomain, isName, rfl⟩ |
      ⟨domain, name, isDomain, isName, rfl | rfl | rfl⟩)
    · exact ⟨domain, name, .inl isDomain, .inl isName, rfl⟩
    · exact ⟨_, name, .inr ⟨domain, isDomain, rfl⟩, .inl isName, rfl⟩
    · exact ⟨domain, _, .inl isDomain, .inr ⟨name, isName, rfl⟩, rfl⟩
    · exact ⟨_, _, .inr ⟨domain, isDomain, rfl⟩, .inr ⟨name, isName, rfl⟩, rfl⟩

/-- A reference with a newline after a part is not one of two parts. -/
theorem HasNewlineAfterPart.not_parts {ref : String} (newline : HasNewlineAfterPart ref)
    {domain name : String} (isDomain : IsPart domain) (isName : IsPart name) :
    ref ≠ makeVaultRef domain name := by
  have ends (text : String) : '\n' ∈ (text ++ "\n").toList := by simp
  have noSlash {text : String} (isPart : IsPart text) : '/' ∉ (text ++ "\n").toList := by
    simpa using isPart.not_mem.2
  intro same
  obtain ⟨other, otherName, isOther, isOtherName, written | written | written⟩ := newline
  · obtain ⟨rfl, -⟩ :=
      makeVaultRef_inj (noSlash isOther) isDomain.not_mem.2 (written.symm.trans same)
    exact isDomain.not_mem.1 (ends other)
  · obtain ⟨-, rfl⟩ :=
      makeVaultRef_inj isOther.not_mem.2 isDomain.not_mem.2 (written.symm.trans same)
    exact isName.not_mem.1 (ends otherName)
  · obtain ⟨rfl, -⟩ :=
      makeVaultRef_inj (noSlash isOther) isDomain.not_mem.2 (written.symm.trans same)
    exact isDomain.not_mem.1 (ends other)

/-- References are exact but for a newline after a part. -/
theorem referencesExact_iff (ref : String) : ReferencesExact ref ↔ ¬HasNewlineAfterPart ref := by
  constructor
  · intro sound newline
    obtain ⟨domain, name, isDomain, isName, written⟩ :=
      sound.accepted_iff.mp (accepted_cases.mpr (.inr newline))
    exact newline.not_parts isDomain isName written
  · intro noNewline
    refine ⟨?_, ?_, ?_⟩
    · rw [accepted_cases, or_iff_left noNewline]
    · intro domain name isDomain isName
      exact parseVaultRef_iff.mpr ⟨(isVaultPart_iff domain).mpr (.inl isDomain),
        (isVaultPart_iff name).mpr (.inl isName), rfl⟩
    · rintro one other ⟨domain, name⟩ ⟨otherDomain, otherName⟩ parsed otherParsed same
      exact aad_inj (isVaultPart_not_mem (parseVaultRef_iff.mp parsed).1)
        (isVaultPart_not_mem (parseVaultRef_iff.mp otherParsed).1) same

/-- A trailing newline is accepted. -/
theorem not_referencesExact : ¬ReferencesExact "vault:email/password\n" := by
  intro sound
  have isPart {text : String} (accepted : isVaultPart text.toList = true)
      (plain : withoutFinalNewline text.toList = text.toList) : IsPart text := by
    refine ((isVaultPart_iff text).mp accepted).resolve_right ?_
    rintro ⟨part, -, rfl⟩
    simp [withoutFinalNewline] at plain
  have newline : HasNewlineAfterPart "vault:email/password\n" :=
    ⟨"email", "password", isPart (by decide) (by decide), isPart (by decide) (by decide),
      .inr (.inl (by decide))⟩
  obtain ⟨domain, name, isDomain, isName, written⟩ := sound.accepted_iff.mp (by decide)
  exact newline.not_parts isDomain isName written

end Era.Security

namespace Era.Services

open Era.Core Era.Security

variable {Key Cipher : Type*}

/-- A resolution leaves one entry, which tells whether it has returned a value. -/
def AuditedOnce (reply : VaultReply Cipher) : Prop :=
  ∃ audit, reply.audits = [audit] ∧ audit.op = "vault.resolve" ∧
    (audit.outcome = .executed ↔ ∃ value, reply.answer = .ok (.value value))

/-- A failed entry goes with an error. -/
theorem auditedOnce_failed (error : VaultError) {audit : VaultAudit}
    (op : audit.op = "vault.resolve") (failed : audit.outcome = .failed) :
    AuditedOnce ({ answer := .error error, audits := [audit] } : VaultReply Cipher) := by
  refine ⟨audit, rfl, op, iff_of_false ?_ nofun⟩
  rw [failed]
  exact nofun

/-- A resolution leaves no entry before it has a key and the parts of a reference. -/
theorem auditedOnce_iff (service : VaultService Key Cipher) (state : VaultState Cipher)
    (call : ResolveCall) :
    AuditedOnce (service.resolveRef state call) ↔
      (parseVaultRef call.ref).isSome = true ∧ service.masterKey.isSome = true := by
  have silent {reply : VaultReply Cipher} (none : reply.audits = []) : ¬AuditedOnce reply := by
    rintro ⟨audit, one, -⟩
    rw [none] at one
    cases one
  unfold VaultService.resolveRef
  split
  next other =>
    refine iff_of_false (silent rfl) ?_
    rintro ⟨parsed, -⟩
    unfold parseVaultRef at parsed
    rw [Bool.not_eq_true'] at other
    rw [other] at parsed
    cases parsed
  next =>
    cases parsed : parseVaultRef call.ref with
    | none =>
        refine iff_of_false (silent rfl) ?_
        rintro ⟨found, -⟩
        cases found
    | some key =>
        cases enabled : service.masterKey with
        | none =>
            simp only [VaultService.requireEnabled, enabled]
            refine iff_of_false (silent rfl) ?_
            rintro ⟨-, found⟩
            cases found
        | some masterKey =>
            simp only [VaultService.requireEnabled, enabled]
            refine iff_of_true ?_ ⟨rfl, rfl⟩
            split
            next => exact auditedOnce_failed _ rfl rfl
            next secret found =>
              split
              next => exact auditedOnce_failed _ rfl rfl
              next =>
                split
                next => exact auditedOnce_failed _ rfl rfl
                next =>
                  split
                  next => exact auditedOnce_failed _ rfl rfl
                  next value decrypted => exact ⟨_, rfl, rfl, iff_of_true rfl ⟨value, rfl⟩⟩

/-- What is not a reference leaves no entry. -/
theorem not_auditedOnce :
    ¬AuditedOnce (Demo.vault.resolveRef (Demo.vault.after []) { ref := "hunter2" }) := by
  rintro ⟨audit, one, -⟩
  have none : (Demo.vault.resolveRef (Demo.vault.after []) { ref := "hunter2" }).audits = [] := rfl
  rw [none] at one
  cases one

end Era.Services
