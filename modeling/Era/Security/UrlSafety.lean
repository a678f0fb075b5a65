import Era.Core.Platform
import Era.Core.Result

/-!
# Outbound URLs

`resolve_public_url` parses a URL, refuses whatever is not public HTTPS and resolves the
host once.  The vetted addresses travel with the URL, for the transport to dial one of them.
-/

namespace Era.Security

open Era.Core

/-! ## The standard library's reading of a URL -/

/-- `ipaddress.ip_address`, as far as it is asked. -/
structure IpAddress where
  text : String
  isGlobal : Bool
  isPrivate : Bool
  isLoopback : Bool
  isLinkLocal : Bool
  isMulticast : Bool
  isUnspecified : Bool
  isReserved : Bool

/-- What results quantify over: the tables of `ipaddress` and Unicode. -/
structure NetLibrary where
  /-- `ipaddress.ip_address`; `none` is its `ValueError`. -/
  ipAddress : String → Option IpAddress
  /-- `_check_bracketed_host` and `_checknetloc` accept a network location. -/
  validNetloc : List Char → Bool
  /-- `parse_qsl(query, keep_blank_values=True)`; `none` is its `ValueError`. -/
  parseQsl : String → Option (List (String × String))

/-- `text.partition(separator)`, with whether the separator occurs. -/
def partition (separator : Char) (text : List Char) : List Char × Bool × List Char :=
  match text.dropWhile (· ≠ separator) with
  | [] => (text, false, [])
  | _ :: rest => (text.takeWhile (· ≠ separator), true, rest)

/-- A separator that is found ends the first part. -/
theorem partition_found {separator : Char} {text first rest : List Char}
    (split : partition separator text = (first, true, rest)) :
    text = first ++ separator :: rest ∧ separator ∉ first := by
  unfold partition at split
  split at split
  next => simp at split
  next head tail dropped =>
    obtain ⟨rfl, -, rfl⟩ : text.takeWhile (· ≠ separator) = first ∧ True ∧ tail = rest := by
      simpa using split
    have isSeparator : head = separator := by
      have stopped := List.head?_dropWhile_not (fun char => decide (char ≠ separator)) text
      rw [dropped] at stopped
      simpa using stopped
    refine ⟨?_, fun member => ?_⟩
    · exact List.takeWhile_append_dropWhile.symm.trans (by rw [dropped, isSeparator])
    · simpa using List.all_eq_true.mp List.all_takeWhile separator member

/-- `text.rpartition(separator)`, with whether the separator occurs. -/
def rpartition (separator : Char) (text : List Char) : List Char × Bool × List Char :=
  let (last, found, before) := partition separator text.reverse
  (before.reverse, found, last.reverse)

/-- `text.lower()` of an ASCII text. -/
def asciiLower (text : List Char) : List Char := text.map Char.toLower

theorem toLower_of_not_isUpper {char : Char} (lower : ¬char.isUpper) : char.toLower = char := by
  unfold Char.toLower
  rw [dif_neg]
  exact fun bounds => lower (decide_eq_true bounds)

theorem not_isUpper_toLower (char : Char) : ¬char.toLower.isUpper := by
  by_cases upper : char.isUpper
  · have bounds : 'A'.val ≤ char.val ∧ char.val ≤ 'Z'.val := of_decide_eq_true upper
    unfold Char.toLower
    rw [dif_pos bounds]
    refine fun still => absurd (of_decide_eq_true still) ?_
    obtain ⟨low, high⟩ := bounds
    simp only [ge_iff_le, UInt32.le_iff_toNat_le] at low high ⊢
    have upperA : 'A'.val.toNat = 65 := by decide
    have upperZ : 'Z'.val.toNat = 90 := by decide
    have shifted : (char.val + ('a'.val - 'A'.val)).toNat = char.val.toNat + 32 := by
      have distance : ('a'.val - 'A'.val).toNat = 32 := by decide
      rw [UInt32.toNat_add]
      omega
    omega
  · rwa [toLower_of_not_isUpper upper]

theorem asciiLower_idem (text : List Char) : asciiLower (asciiLower text) = asciiLower text := by
  unfold asciiLower
  rw [List.map_map]
  exact List.map_congr_left fun char _ => toLower_of_not_isUpper (not_isUpper_toLower char)

/-- `scheme_chars`. -/
def isSchemeChar (char : Char) : Bool :=
  char.isAlphanum || char == '+' || char == '-' || char == '.'

/-- The scheme of a URL, and the rest. -/
def splitScheme (url : List Char) : List Char × List Char :=
  let (scheme, found, rest) := partition ':' url
  if found ∧ scheme.head?.any Char.isAlpha ∧ scheme.all isSchemeChar then
    (asciiLower scheme, rest)
  else ([], url)

/-- The network location after `//`, and the rest. -/
def splitNetloc : List Char → List Char × List Char
  | '/' :: '/' :: rest => rest.span fun char => !(['/', '?', '#'].contains char)
  | url => ([], url)

/-- `SplitResult`, as far as it is read. -/
structure UrlParts where
  scheme : List Char
  netloc : List Char
  query : List Char

/-- `urlsplit`; `none` is its `ValueError`. -/
def urlsplit (library : NetLibrary) (url : String) : Option UrlParts :=
  let stripped := (url.toList.dropWhile fun char => char.toNat ≤ 0x20).filter
    fun char => !(['\t', '\r', '\n'].contains char)
  let (scheme, afterScheme) := splitScheme stripped
  let (netloc, afterNetloc) := splitNetloc afterScheme
  let query := (partition '?' (partition '#' afterNetloc).1).2.2
  if netloc.contains '[' = netloc.contains ']' ∧ library.validNetloc netloc then
    some { scheme, netloc, query }
  else none

namespace UrlParts

variable (parts : UrlParts)

def username : Option (List Char) :=
  let (userinfo, found, _) := rpartition '@' parts.netloc
  if found then some (partition ':' userinfo).1 else none

def password : Option (List Char) :=
  let (userinfo, found, _) := rpartition '@' parts.netloc
  let (_, havePassword, password) := partition ':' userinfo
  if found ∧ havePassword then some password else none

/-- `_hostinfo`: the host and the text of the port. -/
def hostinfo : List Char × List Char :=
  let (_, _, hostinfo) := rpartition '@' parts.netloc
  let (_, haveOpenBracket, bracketed) := partition '[' hostinfo
  if haveOpenBracket then
    let (hostname, _, afterBracket) := partition ']' bracketed
    (hostname, (partition ':' afterBracket).2.2)
  else
    let (hostname, _, port) := partition ':' hostinfo
    (hostname, port)

/-- `hostname`, which is empty where Python has `None`. -/
def hostname (platform : Platform) : String :=
  let (name, percent, zone) := partition '%' parts.hostinfo.1
  platform.lower (String.ofList name) ++ String.ofList ((if percent then ['%'] else []) ++ zone)

/-- `port`: `none` is its `ValueError`, `some none` is `None`. -/
def port : Option (Option Nat) :=
  let digits := parts.hostinfo.2
  if digits = [] then some none
  else if digits.all Char.isDigit then
    let number := digits.foldl (fun number digit => 10 * number + (digit.toNat - 48)) 0
    if number ≤ 65535 then some (some number) else none
  else none

end UrlParts

/-! ## The checks of a URL -/

section

variable (platform : Platform) (library : NetLibrary)

/-- `_SECRET_QUERY_HINTS`. -/
def secretQueryHints : List String :=
  ["access_token", "api_key", "apikey", "auth", "authorization", "credential", "key",
    "password", "secret", "signature", "token"]

/-- A parameter name as it is compared with the hints. -/
def normalizedKey (key : String) : String :=
  String.ofList <| (platform.lower (pyStrip key)).toList.map fun char =>
    if char = '-' then '_' else char

/-- `_reject_secret_query`. -/
def rejectSecretQuery (query : String) : Except Raised Unit :=
  match library.parseQsl query with
  | none => .error (.toolError .validation "invalid URL query")
  | some pairs =>
      if pairs.any fun pair => secretQueryHints.contains (normalizedKey platform pair.1) then
        .error (.toolError .forbidden "credentials in URLs are not allowed")
      else .ok ()

/-- The place a URL names. -/
structure UrlSite where
  scheme : String
  host : String
  port : Nat

/-- `parts.hostname.rstrip(".").lower()`. -/
def UrlParts.host (parts : UrlParts) : String :=
  platform.lower <| String.ofList <|
    ((parts.hostname platform).toList.reverse.dropWhile (· = '.')).reverse

/-- `parts.port or 443`, which is 443 also for a stated port 0. -/
def portOr443 (stated : Option Nat) : Nat :=
  if stated.getD 0 = 0 then 443 else stated.getD 0

/-- `resolve_public_url` up to the resolution of the host. -/
def checkUrl (url : String) : Except Raised UrlSite :=
  if url = "" then .error (.toolError .validation "url must be a non-empty string")
  else if 2048 < url.length then .error (.toolError .validation "url too long")
  else if url.toList.any fun char => char.toNat < 0x20 then
    .error (.toolError .validation "URL contains control characters")
  else
    match urlsplit library url with
    | none => .error (.toolError .validation "invalid URL")
    | some parts =>
        let scheme := String.ofList (asciiLower parts.scheme)
        if scheme ≠ "https" then
          .error (.toolError .forbidden ("scheme " ++
            platform.reprString (String.ofList parts.scheme) ++ " is not allowed"))
        else if parts.hostinfo.1 = [] then
          .error (.toolError .validation "URL has no hostname")
        else if parts.username.isSome ∨ parts.password.isSome then
          .error (.toolError .forbidden "credentials in URLs are not allowed")
        else
          match parts.port with
          | none => .error (.toolError .validation "invalid URL port")
          | some stated =>
              let port := portOr443 stated
              if port ≠ 443 then
                .error (.toolError .forbidden ("port " ++ toString port ++ " is not allowed"))
              else
                let host := parts.host platform
                if host = "" ∨ 253 < host.length ∨ host.toList.contains '%' then
                  .error (.toolError .validation "invalid URL hostname")
                else
                  match rejectSecretQuery platform library (String.ofList parts.query) with
                  | .error failure => .error failure
                  | .ok () => .ok { scheme, host, port }

/-! ## The addresses of a host -/

/-- `text.split("%", 1)[0]`. -/
def beforePercent (text : String) : String := String.ofList (partition '%' text.toList).1

/-- `_is_public_address`. -/
def isPublicAddress (address : String) : Bool :=
  match library.ipAddress (beforePercent address) with
  | none => false
  | some parsed =>
      parsed.isGlobal && !parsed.isPrivate && !parsed.isLoopback && !parsed.isLinkLocal &&
        !parsed.isMulticast && !parsed.isUnspecified && !parsed.isReserved

/-- What `getaddrinfo` answers. -/
inductive HostLookup where
  /-- The text of each address; `none` is an entry without one. -/
  | infos (addresses : List (Option String))
  /-- `gaierror` or another `OSError`. -/
  | failed
  | raised (typeName message : String)
  deriving DecidableEq

/-- The loop over the answers. -/
def vetInfos : List (Option String) → List String → Except Raised (List String)
  | [], addresses => .ok addresses
  | none :: _, _ =>
      .error (.toolError .forbidden "host resolved to an invalid address (SSRF guard)")
  | some text :: infos, addresses =>
      let address := beforePercent text
      if isPublicAddress library address then
        vetInfos infos (if addresses.contains address then addresses else addresses ++ [address])
      else
        .error (.toolError .forbidden "host resolves to a non-public address (SSRF guard)")

/-- `_resolve_public_host` from the resolver's answer on. -/
def vetLookup : HostLookup → Except Raised (List String)
  | .failed => .error (.toolError .unavailable "host could not be resolved")
  | .raised typeName message => .error (.exception typeName message)
  | .infos infos =>
      if infos.isEmpty then .error (.toolError .unavailable "host resolved to no addresses")
      else
        match vetInfos library infos [] with
        | .error failure => .error failure
        | .ok addresses =>
            if addresses.isEmpty then
              .error (.toolError .unavailable "host resolved to no addresses")
            else .ok addresses

/-- The addresses of an IP literal, which is not looked up. -/
def vetLiteral (literal : IpAddress) : Except Raised (List String) :=
  if isPublicAddress library literal.text then .ok [literal.text]
  else .error (.toolError .forbidden "non-public IP literals are blocked (SSRF guard)")

/-- A validated URL and the addresses resolved for its host. -/
structure ResolvedPublicUrl where
  url : String
  site : UrlSite
  addresses : List String
  nonempty : addresses ≠ []

/-- `connect_address`. -/
def ResolvedPublicUrl.connectAddress (target : ResolvedPublicUrl) : String :=
  target.addresses.head target.nonempty

/-- What `resolve_public_url` comes to, and the host it has looked up. -/
structure Resolving where
  result : Except Raised ResolvedPublicUrl
  lookedUp : Option String

/-- The result for some vetted addresses. -/
def UrlSite.resolved (site : UrlSite) (url : String) :
    List String → Except Raised ResolvedPublicUrl
  | [] => .error (.toolError .unavailable "host resolved to no addresses")
  | address :: rest =>
      .ok { url, site, addresses := address :: rest, nonempty := List.cons_ne_nil _ _ }

/-- `resolve_public_url`, given what the resolver would answer. -/
def resolvePublicUrl (url : String) (answer : String → HostLookup) : Resolving :=
  match checkUrl platform library url with
  | .error failure => { result := .error failure, lookedUp := none }
  | .ok site =>
      match library.ipAddress site.host with
      | some literal =>
          { result := (vetLiteral library literal).bind (site.resolved url), lookedUp := none }
      | none =>
          { result := (vetLookup library (answer site.host)).bind (site.resolved url)
            lookedUp := some site.host }

end

section Facts

variable {platform : Platform} {library : NetLibrary}

/-- A URL is HTTPS and carries no credentials in its user info or query. -/
structure CleanUrl (platform : Platform) (library : NetLibrary) (url : String)
    (parts : UrlParts) : Prop where
  parsed : urlsplit library url = some parts
  https : asciiLower parts.scheme = "https".toList
  noUserinfo : parts.username = none ∧ parts.password = none
  noSecrets : ∃ pairs, library.parseQsl (String.ofList parts.query) = some pairs ∧
    ∀ pair ∈ pairs, normalizedKey platform pair.1 ∉ secretQueryHints

/-- A resolver's answer has only public addresses, and this is one of them. -/
structure PublicAnswer (library : NetLibrary) (answer : HostLookup) (address : String) :
    Prop where
  allPublic : ∃ infos, answer = .infos infos ∧
    ∀ info ∈ infos, ∃ text, info = some text ∧ isPublicAddress library (beforePercent text)
  member : ∃ infos text, answer = .infos infos ∧ some text ∈ infos ∧
    address = beforePercent text

/-- An address is a public literal that stands for the host itself. -/
def PublicLiteral (library : NetLibrary) (host address : String) : Prop :=
  ∃ literal, library.ipAddress host = some literal ∧
    isPublicAddress library literal.text ∧ address = literal.text

theorem rejectSecretQuery_ok {query : String}
    (passed : rejectSecretQuery platform library query = .ok ()) :
    ∃ pairs, library.parseQsl query = some pairs ∧
      ∀ pair ∈ pairs, normalizedKey platform pair.1 ∉ secretQueryHints := by
  unfold rejectSecretQuery at passed
  split at passed
  next => contradiction
  next pairs parsed =>
    split at passed
    next => contradiction
    next clean => exact ⟨pairs, parsed, fun pair member secret => clean <|
        List.any_eq_true.mpr ⟨pair, member, by simpa using secret⟩⟩

/-- What an accepted URL is.  An explicit port 0 passes like a missing one. -/
structure Accepted (platform : Platform) (library : NetLibrary) (url : String) (site : UrlSite)
    (parts : UrlParts) : Prop extends CleanUrl platform library url parts where
  noControl : ∀ char ∈ url.toList, 0x20 ≤ char.toNat
  host_eq : site.host = parts.host platform
  port_eq : site.port = 443
  stated : ∀ stated, parts.port = some stated → stated ≠ some 0 → stated.getD 443 = 443

theorem checkUrl_ok {url : String} {site : UrlSite}
    (passed : checkUrl platform library url = .ok site) :
    ∃ parts, Accepted platform library url site parts := by
  unfold checkUrl at passed
  split at passed
  next => contradiction
  next =>
  split at passed
  next => contradiction
  next =>
  split at passed
  next => contradiction
  next printable =>
  split at passed
  next => contradiction
  next parts parsed =>
  dsimp only at passed
  split at passed
  next => contradiction
  next https =>
  split at passed
  next => contradiction
  next =>
  split at passed
  next => contradiction
  next anonymous =>
  split at passed
  next => contradiction
  next stated port =>
  split at passed
  next => contradiction
  next allowed =>
  split at passed
  next => contradiction
  next =>
  split at passed
  next => contradiction
  next clean =>
  obtain rfl := Except.ok.inj passed
  refine ⟨parts, ⟨parsed, ?_, ?_, rejectSecretQuery_ok clean⟩, ?_, rfl, ?_, ?_⟩
  · simpa using congrArg String.toList (not_not.mp https)
  · simpa using anonymous
  · intro char member
    have := fun control => printable (List.any_eq_true.mpr ⟨char, member, control⟩)
    simpa using this
  · exact not_not.mp allowed
  · intro other same unequal
    obtain rfl : stated = other := by simpa [port] using same
    cases stated with
    | none => rfl
    | some number =>
        have positive : number ≠ 0 := by simpa using unequal
        simpa [portOr443, positive] using allowed

/-- Vetted addresses are the answers, all of which are public. -/
theorem vetInfos_ok {infos : List (Option String)} {known addresses : List String}
    (passed : vetInfos library infos known = .ok addresses) :
    (∀ info ∈ infos, ∃ text, info = some text ∧
      isPublicAddress library (beforePercent text)) ∧
    ∀ address ∈ addresses, address ∈ known ∨
      ∃ text, some text ∈ infos ∧ address = beforePercent text := by
  induction infos generalizing known with
  | nil =>
      obtain rfl := Except.ok.inj passed
      exact ⟨by simp, fun address member => .inl member⟩
  | cons info infos ih =>
      cases info with
      | none => contradiction
      | some text =>
          simp only [vetInfos] at passed
          split at passed
          next isPublic =>
            obtain ⟨allPublic, origin⟩ := ih passed
            refine ⟨?_, ?_⟩
            · intro info member
              cases List.mem_cons.mp member with
              | inl first => exact ⟨text, first, isPublic⟩
              | inr later => exact allPublic info later
            · intro address member
              cases origin address member with
              | inl earlier =>
                  split at earlier
                  next => exact .inl earlier
                  next =>
                    cases List.mem_append.mp earlier with
                    | inl before => exact .inl before
                    | inr new =>
                        exact .inr ⟨text, List.mem_cons_self, by simpa using new⟩
              | inr found =>
                  obtain ⟨other, member, eq⟩ := found
                  exact .inr ⟨other, List.mem_cons_of_mem _ member, eq⟩
          next => contradiction

theorem vetLookup_ok {answer : HostLookup} {addresses : List String}
    (passed : vetLookup library answer = .ok addresses) {address : String}
    (member : address ∈ addresses) : PublicAnswer library answer address := by
  cases answer with
  | failed | raised _ _ => contradiction
  | infos infos =>
      simp only [vetLookup] at passed
      split at passed
      next => contradiction
      next =>
      split at passed
      next => contradiction
      next vetted passes =>
      split at passed
      next => contradiction
      next =>
      obtain rfl := Except.ok.inj passed
      obtain ⟨allPublic, origin⟩ := vetInfos_ok passes
      obtain ⟨text, found, eq⟩ := (origin address member).resolve_left (by simp)
      exact ⟨⟨infos, rfl, allPublic⟩, ⟨infos, text, rfl, found, eq⟩⟩

theorem UrlSite.resolved_ok {site : UrlSite} {url : String} {addresses : List String}
    {target : ResolvedPublicUrl} (resolved : site.resolved url addresses = .ok target) :
    target.url = url ∧ target.site = site ∧ target.connectAddress ∈ addresses := by
  cases addresses with
  | nil => contradiction
  | cons address rest =>
      obtain rfl := Except.ok.inj resolved
      exact ⟨rfl, rfl, List.mem_cons_self⟩

/-- A resolved target belongs to an accepted URL, and its address to the host. -/
theorem resolvePublicUrl_ok {url : String} {answer : String → HostLookup}
    {target : ResolvedPublicUrl}
    (resolved : (resolvePublicUrl platform library url answer).result = .ok target) :
    checkUrl platform library url = .ok target.site ∧
      ((resolvePublicUrl platform library url answer).lookedUp = none ∧
          PublicLiteral library target.site.host target.connectAddress ∨
        (resolvePublicUrl platform library url answer).lookedUp = some target.site.host ∧
          PublicAnswer library (answer target.site.host) target.connectAddress) := by
  unfold resolvePublicUrl at resolved ⊢
  cases checked : checkUrl platform library url with
  | error failure => simp [checked] at resolved
  | ok site =>
      rw [checked] at resolved
      dsimp only at resolved ⊢
      cases literal : library.ipAddress site.host with
      | some parsed =>
          rw [literal] at resolved
          dsimp only at resolved ⊢
          unfold vetLiteral at resolved
          split at resolved
          next isPublic =>
            change site.resolved url [parsed.text] = .ok target at resolved
            obtain ⟨_, rfl, member⟩ := UrlSite.resolved_ok resolved
            exact ⟨rfl, .inl ⟨rfl, parsed, literal, isPublic, by simpa using member⟩⟩
          next => contradiction
      | none =>
          rw [literal] at resolved
          dsimp only at resolved ⊢
          cases vetted : vetLookup library (answer site.host) with
          | error failure => simp [vetted, Except.bind] at resolved
          | ok addresses =>
              rw [vetted] at resolved
              change site.resolved url addresses = .ok target at resolved
              obtain ⟨_, rfl, member⟩ := UrlSite.resolved_ok resolved
              exact ⟨rfl, .inr ⟨rfl, vetLookup_ok vetted member⟩⟩

end Facts

end Era.Security
