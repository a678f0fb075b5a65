import Era.Lib.History
import Era.Security.UrlSafety

/-!
# The connections of the web provider

`_request` validates its URL, opens it with a handler of its own and follows redirects.  The
handler keeps the vetted target of every URL and dials the first address of the target; the
server chooses the redirects and the resolver may answer every lookup differently.
-/

namespace Era.Providers

open Era.Core Era.Security Era.Lib

/-- What `_request` does on the network. -/
inductive Egress where
  | lookup (host : String) (answer : HostLookup)
  /-- A TCP connection for a request with this URL. -/
  | connect (url : String) (address : String) (port : Nat)
  /-- A request that goes to another handler of `urllib`. -/
  | otherHandler (url : String)
  deriving DecidableEq

/-- What becomes of a connection. -/
inductive WebReply where
  /-- A 301, 302, 303, 307 or 308, with the URL that `urllib` has made of its location. -/
  | redirect (status : Nat) (newurl : String)
  /-- The end of the exchange, with the error of reading it. -/
  | concluded (outcome : Except Raised Unit)

/-! ## `urllib.request.Request` -/

/-- A request, as far as it is read. -/
structure UrlRequest where
  fullUrl : String
  type : String

def stripChars (text : List Char) : List Char :=
  ((text.dropWhile isPySpace).reverse.dropWhile isPySpace).reverse

/-- `unwrap`. -/
def unwrapUrl (url : List Char) : List Char :=
  let url := stripChars url
  let url := if url.head? = some '<' ∧ url.getLast? = some '>' then
    stripChars (url.drop 1).dropLast else url
  if url.take 4 = ['U', 'R', 'L', ':'] then stripChars (url.drop 4) else url

/-- `_splittag`: the fragment starts at the last `#`. -/
def splitTag (url : List Char) : List Char × List Char :=
  let (path, found, tag) := rpartition '#' url
  if found then (path, tag) else (url, [])

/-- `_splittype`. -/
def splitType (url : List Char) : Option (List Char) :=
  let type := url.takeWhile fun char => !(['/', ':'].contains char)
  if type ≠ [] ∧ (url.drop type.length).head? = some ':' then some (asciiLower type) else none

/-- `Request(url)`; `none` is its `ValueError`. -/
def urlRequest (url : String) : Option UrlRequest :=
  let (path, fragment) := splitTag (unwrapUrl url.toList)
  (splitType path).map fun type =>
    { type := String.ofList type
      fullUrl := String.ofList (path ++ if fragment = [] then [] else '#' :: fragment) }

/-! ## The handler -/

/-- `_targets`. -/
abbrev Targets := List (String × ResolvedPublicUrl)

/-- `redirect_dict`, which the first request does not have. -/
abbrev Visited := Option (List (String × Nat))

section

variable (platform : Platform) (library : NetLibrary) (resolver : Nat → String → HostLookup)

/-- `resolve_public_url` in the course of a request; the resolver may answer by what has
happened so far. -/
def resolve (events : List Egress) (url : String) :
    Except Raised ResolvedPublicUrl × List Egress :=
  let resolving := resolvePublicUrl platform library url (resolver events.length)
  (resolving.result, events ++ match resolving.lookedUp with
    | some host => [.lookup host (resolver events.length host)]
    | none => [])

/-- `_target_for`. -/
def targetFor (targets : Targets) (events : List Egress) (url : String) :
    Except Raised (ResolvedPublicUrl × Targets) × List Egress :=
  match targets.lookup url with
  | some target => (.ok (target, targets), events)
  | none =>
      let (resolved, events) := resolve platform library resolver events url
      (resolved.map fun target => (target, (url, target) :: targets), events)

/-- `newurl.replace(" ", "%20")`. -/
def quoteSpaces (url : String) : String :=
  String.ofList <| url.toList.flatMap fun char =>
    if char = ' ' then ['%', '2', '0'] else [char]

/-- `max_repeats` and `max_redirections`. -/
def loops (visited : List (String × Nat)) (newurl : String) : Bool :=
  4 ≤ (visited.lookup newurl).getD 0 || 5 ≤ visited.length

def visit (visited : List (String × Nat)) (newurl : String) : List (String × Nat) :=
  (newurl, (visited.lookup newurl).getD 0 + 1) ::
    visited.filter fun entry => entry.1 != newurl

def redirectFailed (status : Nat) : Raised :=
  .toolError .providerError ("fetch failed (HTTP " ++ toString status ++ ")")

/-- `https_open`, or another handler if the request has another type. -/
def openHop (targets : Targets) (request : UrlRequest) (events : List Egress) :
    Except Raised Targets × List Egress :=
  if request.type = "https" then
    match targetFor platform library resolver targets events request.fullUrl with
    | (.error failure, events) => (.error failure, events)
    | (.ok (target, targets), events) =>
        (.ok targets,
          events ++ [.connect request.fullUrl target.connectAddress target.site.port])
  else
    (.error (.toolError .unavailable "network unavailable"),
      events ++ [.otherHandler request.fullUrl])

/-- `redirect_request`: the next request, with the targets for its connection. -/
def redirectRequest (targets : Targets) (newurl : String) (events : List Egress) :
    Except Raised (UrlRequest × Targets) × List Egress :=
  let candidate := quoteSpaces newurl
  match resolve platform library resolver events candidate with
  | (.error failure, events) => (.error failure, events)
  | (.ok target, events) =>
      match urlRequest candidate with
      | none =>
          (.error (.exception "ValueError" ("unknown url type: " ++ candidate)), events)
      | some next => (.ok (next, (candidate, target) :: targets), events)

/-- `opener.open`, which answers with the last request of the redirect chain.  A connection
without a reply fails. -/
def openRequest :
    List WebReply → Targets → Visited → UrlRequest → List Egress →
      Except Raised UrlRequest × List Egress
  | replies, targets, visited, request, events =>
    match openHop platform library resolver targets request events with
    | (.error failure, events) => (.error failure, events)
    | (.ok targets, events) =>
      match replies with
      | [] => (.error (.toolError .unavailable "network unavailable"), events)
      | .concluded outcome :: _ => (outcome.map fun _ => request, events)
      | .redirect status newurl :: replies =>
        match redirectRequest platform library resolver targets newurl events with
        | (.error failure, events) => (.error failure, events)
        | (.ok (next, targets), events) =>
          if loops (visited.getD []) newurl then (.error (redirectFailed status), events)
          else openRequest replies targets (some (visit (visited.getD []) newurl)) next events

/-- `_request`, and what it does on the network. -/
def webRequest (replies : List WebReply) (maxBytes : Int) (url : String) :
    Except Raised String × List Egress :=
  if maxBytes < 1 then
    (.error (.toolError .validation "response byte limit must be positive"), [])
  else
    match resolve platform library resolver [] url with
    | (.error failure, events) => (.error failure, events)
    | (.ok target, events) =>
      match urlRequest url with
      | none => (.error (.exception "ValueError" ("unknown url type: " ++ url)), events)
      | some request =>
        match openRequest platform library resolver replies [(url, target)] none request
          events with
        | (.error failure, events) => (.error failure, events)
        | (.ok last, events) =>
          let (final, events) := resolve platform library resolver events last.fullUrl
          (final.map fun _ => last.fullUrl, events)

end

section Facts

variable {platform : Platform} {library : NetLibrary} {resolver : Nat → String → HostLookup}

/-! ## The type of a request -/

/-- The texts that start with the scheme `https`, in any case. -/
def StartsHttps (text : List Char) : Prop :=
  ∃ scheme rest, text = scheme ++ ':' :: rest ∧ asciiLower scheme = "https".toList

/-- The letters of the scheme are ASCII letters. -/
theorem isAlpha_of_https {scheme : List Char} (https : asciiLower scheme = "https".toList)
    {char : Char} (member : char ∈ scheme) : char.isAlpha := by
  have lower : char.toLower ∈ "https".toList := https ▸ List.mem_map_of_mem member
  by_cases upper : char.isUpper
  · exact (Bool.or_eq_true _ _).mpr (.inl upper)
  · rw [toLower_of_not_isUpper upper] at lower
    have letters : ['h', 't', 't', 'p', 's'].all Char.isAlpha = true := rfl
    exact List.all_eq_true.mp letters char lower

theorem not_mem_of_https {scheme : List Char} (https : asciiLower scheme = "https".toList)
    {char : Char} (other : char.isAlpha = false) : char ∉ scheme := by
  intro member
  simp [isAlpha_of_https https member] at other

theorem not_isPySpace_of_isAlpha {char : Char} (alpha : char.isAlpha) :
    isPySpace char = false := by
  have bounds : 65 ≤ char.toNat ∧ char.toNat ≤ 122 := by
    have letters : ('A'.val ≤ char.val ∧ char.val ≤ 'Z'.val) ∨
        ('a'.val ≤ char.val ∧ char.val ≤ 'z'.val) := by
      obtain upper | lower := (Bool.or_eq_true _ _).mp alpha
      · exact .inl (of_decide_eq_true upper)
      · obtain ⟨low, high⟩ := (Bool.and_eq_true _ _).mp lower
        exact .inr ⟨of_decide_eq_true low, of_decide_eq_true high⟩
    simp only [UInt32.le_iff_toNat_le] at letters
    have upperA : 'A'.val.toNat = 65 := by decide
    have upperZ : 'Z'.val.toNat = 90 := by decide
    have lowerA : 'a'.val.toNat = 97 := by decide
    have lowerZ : 'z'.val.toNat = 122 := by decide
    have value : char.toNat = char.val.toNat := rfl
    omega
  simp only [isPySpace, Bool.or_eq_false_iff, Bool.and_eq_false_iff, decide_eq_false_iff_not,
    List.contains_eq_mem, List.mem_cons, List.not_mem_nil, or_false]
  omega

/-- Stripping spaces leaves the scheme at the start. -/
theorem startsHttps_stripChars {spaces text : List Char} (starts : StartsHttps text)
    (blank : ∀ char ∈ spaces, isPySpace char) : StartsHttps (stripChars (spaces ++ text)) := by
  obtain ⟨scheme, rest, rfl, https⟩ := starts
  have head : (spaces ++ (scheme ++ ':' :: rest)).dropWhile isPySpace =
      scheme ++ ':' :: rest := by
    rw [List.dropWhile_append_of_pos blank]
    cases scheme with
    | nil => simp [asciiLower] at https
    | cons first scheme =>
        have kept := not_isPySpace_of_isAlpha (isAlpha_of_https https List.mem_cons_self)
        rw [List.cons_append, List.dropWhile_cons_of_neg (by simp [kept])]
  have colon : isPySpace ':' = false := by decide
  refine ⟨scheme, (rest.reverse.dropWhile isPySpace).reverse, ?_, https⟩
  unfold stripChars
  rw [head, List.reverse_append, List.reverse_cons, List.append_assoc, List.dropWhile_append]
  split
  next allBlank =>
    have blankRest : rest.reverse.dropWhile isPySpace = [] := by simpa using allBlank
    simp [blankRest, colon]
  next => simp

/-- The loose reading of a URL by `Request` finds the same scheme. -/
theorem startsHttps_unwrapUrl {spaces text : List Char} (starts : StartsHttps text)
    (blank : ∀ char ∈ spaces, isPySpace char) : StartsHttps (unwrapUrl (spaces ++ text)) := by
  obtain ⟨scheme, rest, split, https⟩ := startsHttps_stripChars starts blank
  have five : scheme.length = 5 := by
    simpa [asciiLower] using congrArg List.length https
  have notBracket : ¬((scheme ++ ':' :: rest).head? = some '<' ∧
      (scheme ++ ':' :: rest).getLast? = some '>') := by
    rintro ⟨bracket, -⟩
    cases scheme with
    | nil => simp at five
    | cons first scheme =>
        obtain rfl : first = '<' := by simpa using bracket
        exact not_mem_of_https https (by decide) List.mem_cons_self
  have notUrl : ¬(scheme ++ ':' :: rest).take 4 = ['U', 'R', 'L', ':'] := by
    intro taken
    rw [List.take_append_of_le_length (by omega)] at taken
    have colon : ':' ∈ scheme.take 4 := by simp [taken]
    exact not_mem_of_https https (by decide) (List.mem_of_mem_take colon)
  simp only [unwrapUrl, split, if_neg notBracket, if_neg notUrl]
  exact ⟨scheme, rest, rfl, https⟩

theorem startsHttps_splitTag {text : List Char} (starts : StartsHttps text) :
    StartsHttps (splitTag text).1 := by
  obtain ⟨scheme, rest, rfl, https⟩ := starts
  unfold splitTag
  split
  next path found tag split =>
    cases found with
    | false => exact ⟨scheme, rest, rfl, https⟩
    | true =>
        unfold rpartition at split
        split at split
        next last found before parted =>
          obtain ⟨rfl, rfl, rfl⟩ : before.reverse = path ∧ found = true ∧ last.reverse = tag := by
            simpa using split
          obtain ⟨joined, -⟩ := partition_found parted
          have whole : scheme ++ ':' :: rest = before.reverse ++ '#' :: last.reverse := by
            simpa using congrArg List.reverse joined
          have noTag : '#' ∉ scheme ++ [':'] := by
            simpa using not_mem_of_https https (by decide)
          have whole' : (scheme ++ [':']) ++ rest = before.reverse ++ '#' :: last.reverse := by
            simpa using whole
          obtain ⟨middle, path_eq, -⟩ | ⟨middle, scheme_eq, rest_eq⟩ :=
            List.append_eq_append_iff.mp whole'
          · exact ⟨scheme, middle, by simpa using path_eq, https⟩
          · cases middle with
            | nil => exact ⟨scheme, [], by simpa using scheme_eq.symm, https⟩
            | cons first middle =>
                obtain rfl : '#' = first := (List.cons.inj rest_eq).1
                exact absurd (by simp [scheme_eq]) noTag

theorem splitType_https {text : List Char} (starts : StartsHttps text) :
    splitType text = some "https".toList := by
  obtain ⟨scheme, rest, rfl, https⟩ := starts
  have inside : ∀ char ∈ scheme, (!(['/', ':'].contains char)) = true := by
    intro char member
    have noSlash : char ≠ '/' := by
      rintro rfl
      exact not_mem_of_https https (by decide) member
    have noColon : char ≠ ':' := by
      rintro rfl
      exact not_mem_of_https https (by decide) member
    simp [noSlash, noColon]
  have nonempty : scheme ≠ [] := by
    rintro rfl
    simp [asciiLower] at https
  unfold splitType
  rw [List.takeWhile_append_of_pos inside, List.takeWhile_cons_of_neg (by simp),
    List.append_nil]
  simp [nonempty, https]

/-- `urlsplit` removes nothing but leading spaces from a printable URL. -/
theorem urlsplit_scheme {url : String} {parts : UrlParts}
    (parsed : urlsplit library url = some parts)
    (printable : ∀ char ∈ url.toList, 0x20 ≤ char.toNat) :
    (splitScheme (url.toList.dropWhile fun char => char.toNat ≤ 0x20)).1 = parts.scheme := by
  have kept : (url.toList.dropWhile fun char => char.toNat ≤ 0x20).filter
      (fun char => !(['\t', '\r', '\n'].contains char)) =
        url.toList.dropWhile fun char => char.toNat ≤ 0x20 := by
    refine List.filter_eq_self.mpr fun char member => ?_
    have high := printable char ((List.dropWhile_sublist _).subset member)
    have noTab : char ≠ '\t' := by
      rintro rfl
      exact absurd high (by decide)
    have noReturn : char ≠ '\r' := by
      rintro rfl
      exact absurd high (by decide)
    have noNewline : char ≠ '\n' := by
      rintro rfl
      exact absurd high (by decide)
    simp [noTab, noReturn, noNewline]
  unfold urlsplit at parsed
  rw [kept] at parsed
  dsimp only at parsed
  split at parsed
  next => exact congrArg UrlParts.scheme (Option.some.inj parsed)
  next => contradiction

theorem startsHttps_of_splitScheme {text scheme : List Char}
    (split : (splitScheme text).1 = scheme) (https : asciiLower scheme = "https".toList) :
    StartsHttps text := by
  unfold splitScheme at split
  cases parted : partition ':' text with
  | mk first rest =>
      obtain ⟨found, rest⟩ := rest
      rw [parted] at split
      dsimp only at split
      split at split
      next has =>
        obtain ⟨rfl, -, -⟩ := has
        refine ⟨first, rest, (partition_found parted).1, ?_⟩
        rw [← https, ← split, asciiLower_idem]
      next =>
        rw [← split] at https
        simp [asciiLower] at https

/-- An accepted URL starts with its scheme, up to leading spaces. -/
theorem startsHttps_of_accepted {url : String} {site : UrlSite} {parts : UrlParts}
    (accepted : Accepted platform library url site parts) :
    ∃ spaces text, url.toList = spaces ++ text ∧ (∀ char ∈ spaces, isPySpace char) ∧
      StartsHttps text := by
  have printable := accepted.noControl
  have parsed := accepted.parsed
  have https := accepted.https
  refine ⟨url.toList.takeWhile fun char => char.toNat ≤ 0x20,
    url.toList.dropWhile fun char => char.toNat ≤ 0x20,
    List.takeWhile_append_dropWhile.symm, ?_, ?_⟩
  · intro char member
    have low : char.toNat ≤ 0x20 := by
      simpa using List.all_eq_true.mp List.all_takeWhile char member
    have high := printable char (List.takeWhile_sublist _ |>.subset member)
    simp only [isPySpace, Bool.or_eq_true, Bool.and_eq_true, decide_eq_true_eq]
    omega
  · exact startsHttps_of_splitScheme (urlsplit_scheme parsed printable) https

/-- A request for an accepted URL goes to the handler of HTTPS. -/
theorem urlRequest_of_accepted {url : String} {site : UrlSite}
    (passed : checkUrl platform library url = .ok site) :
    ∃ request, urlRequest url = some request ∧ request.type = "https" := by
  obtain ⟨parts, accepted⟩ := checkUrl_ok passed
  obtain ⟨spaces, text, split, blank, starts⟩ := startsHttps_of_accepted accepted
  have typed := splitType_https (startsHttps_splitTag (startsHttps_unwrapUrl starts blank))
  unfold urlRequest
  rw [split]
  simp only [typed, Option.map_some]
  exact ⟨_, rfl, String.ofList_toList⟩

/-! ## What every connection rests on -/

/-- Every connection obeys a law about the events before it, and no request goes to another
handler. -/
def EachConnection (law : List Egress → String → String → Nat → Prop) :
    List Egress → Prop :=
  EachEvent fun before event =>
    match event with
    | .lookup _ _ => True
    | .connect url address port => law before url address port
    | .otherHandler _ => False

/-- A connection for a clean URL, on port 443, to an address from a resolver's answer for
the host of the URL, all of whose addresses were public. -/
def ToAnswer (platform : Platform) (library : NetLibrary) (before : List Egress)
    (url address : String) (port : Nat) : Prop :=
  ∃ parts, CleanUrl platform library url parts ∧
    (parts.port = some none ∨ parts.port = some (some 443)) ∧ port = 443 ∧
    ∃ answer, .lookup (parts.host platform) answer ∈ before ∧
      PublicAnswer library answer address

/-- The same, but the host may itself be a public literal, and nothing is said of a URL that
states port 0. -/
def ToVetted (platform : Platform) (library : NetLibrary) (before : List Egress)
    (url address : String) (port : Nat) : Prop :=
  ∃ parts, CleanUrl platform library url parts ∧
    (∀ stated, parts.port = some stated → stated ≠ some 0 → stated.getD 443 = 443) ∧
    port = 443 ∧
    (PublicLiteral library (parts.host platform) address ∨
      ∃ answer, .lookup (parts.host platform) answer ∈ before ∧
        PublicAnswer library answer address)

/-- A target that a URL was resolved to. -/
structure Vetted (platform : Platform) (library : NetLibrary) (events : List Egress)
    (url : String) (target : ResolvedPublicUrl) : Prop where
  checked : checkUrl platform library url = .ok target.site
  source : PublicLiteral library target.site.host target.connectAddress ∨
    ∃ answer, .lookup target.site.host answer ∈ events ∧
      PublicAnswer library answer target.connectAddress

theorem Vetted.mono {events later : List Egress} {url : String} {target : ResolvedPublicUrl}
    (vetted : Vetted platform library events url target) (subset : events ⊆ later) :
    Vetted platform library later url target := by
  refine ⟨vetted.checked, vetted.source.imp id ?_⟩
  rintro ⟨answer, lookedUp, isPublic⟩
  exact ⟨answer, subset lookedUp, isPublic⟩

/-- Dialling a vetted target obeys the law. -/
theorem Vetted.toVetted {events : List Egress} {url : String} {target : ResolvedPublicUrl}
    (vetted : Vetted platform library events url target) :
    ToVetted platform library events url target.connectAddress target.site.port := by
  obtain ⟨parts, accepted⟩ := checkUrl_ok vetted.checked
  refine ⟨parts, accepted.toCleanUrl, accepted.stated, accepted.port_eq, ?_⟩
  rw [← accepted.host_eq]
  exact vetted.source

theorem resolve_subset (events : List Egress) (url : String) :
    events ⊆ (resolve platform library resolver events url).2 :=
  List.subset_append_left _ _

/-- Resolving makes no connection. -/
theorem resolve_each {law : List Egress → String → String → Nat → Prop} {events : List Egress}
    (each : EachConnection law events) (url : String) :
    EachConnection law (resolve platform library resolver events url).2 := by
  unfold resolve
  dsimp only
  split
  next host _ => exact eachEvent_concat.mpr ⟨each, trivial⟩
  next => rwa [List.append_nil]

theorem resolve_ok {events : List Egress} {url : String} {target : ResolvedPublicUrl}
    (resolved : (resolve platform library resolver events url).1 = .ok target) :
    Vetted platform library (resolve platform library resolver events url).2 url target := by
  obtain ⟨checked, ⟨_, literal⟩ | ⟨lookedUp, isPublic⟩⟩ := resolvePublicUrl_ok resolved
  · exact ⟨checked, .inl literal⟩
  · refine ⟨checked, .inr ⟨_, ?_, isPublic⟩⟩
    unfold resolve
    dsimp only
    rw [lookedUp]
    exact List.mem_append_right _ List.mem_cons_self

/-- Every kept target is one that its URL was resolved to. -/
def AllVetted (platform : Platform) (library : NetLibrary) (events : List Egress)
    (targets : Targets) : Prop :=
  ∀ url target, targets.lookup url = some target → Vetted platform library events url target

theorem AllVetted.mono {events later : List Egress} {targets : Targets}
    (all : AllVetted platform library events targets) (subset : events ⊆ later) :
    AllVetted platform library later targets :=
  fun url target found => (all url target found).mono subset

theorem AllVetted.cons {events : List Egress} {targets : Targets} {url : String}
    {target : ResolvedPublicUrl} (all : AllVetted platform library events targets)
    (vetted : Vetted platform library events url target) :
    AllVetted platform library events ((url, target) :: targets) := by
  intro other found lookup
  rw [List.lookup_cons] at lookup
  split at lookup
  next same =>
    obtain rfl : other = url := by simpa using same
    obtain rfl := Option.some.inj lookup
    exact vetted
  next => exact all other found lookup

theorem targetFor_each {law : List Egress → String → String → Nat → Prop} {targets : Targets}
    {events : List Egress} (each : EachConnection law events) (url : String) :
    EachConnection law (targetFor platform library resolver targets events url).2 := by
  unfold targetFor
  split
  next => exact each
  next => exact resolve_each each url

theorem targetFor_ok {targets kept : Targets} {events : List Egress} {url : String}
    {target : ResolvedPublicUrl} (all : AllVetted platform library events targets)
    (found : (targetFor platform library resolver targets events url).1 = .ok (target, kept)) :
    Vetted platform library (targetFor platform library resolver targets events url).2 url
        target ∧
      AllVetted platform library (targetFor platform library resolver targets events url).2
        kept := by
  unfold targetFor at found ⊢
  cases known : targets.lookup url with
  | some old =>
      rw [known] at found
      obtain ⟨rfl, rfl⟩ := Prod.mk.inj (Except.ok.inj found)
      exact ⟨all url old known, all⟩
  | none =>
      rw [known] at found
      dsimp only at found ⊢
      cases resolved : (resolve platform library resolver events url).1 with
      | error failure => simp [resolved, Except.map] at found
      | ok fresh =>
          rw [resolved] at found
          obtain ⟨rfl, rfl⟩ := Prod.mk.inj (Except.ok.inj found)
          have vetted := resolve_ok resolved
          exact ⟨vetted, (all.mono (resolve_subset events url)).cons vetted⟩

theorem openHop_each {targets : Targets} {request : UrlRequest} {events : List Egress}
    (all : AllVetted platform library events targets) (type : request.type = "https")
    (each : EachConnection (ToVetted platform library) events) :
    EachConnection (ToVetted platform library)
      (openHop platform library resolver targets request events).2 := by
  have searched : EachConnection (ToVetted platform library)
      (targetFor platform library resolver targets events request.fullUrl).2 :=
    targetFor_each each request.fullUrl
  unfold openHop
  rw [if_pos type]
  split
  next failure later found => rwa [found] at searched
  next target kept later found =>
    obtain ⟨vetted, _⟩ := targetFor_ok all (congrArg Prod.fst found)
    rw [found] at searched vetted
    exact eachEvent_concat.mpr ⟨searched, vetted.toVetted⟩

theorem openHop_ok {targets kept : Targets} {request : UrlRequest} {events later : List Egress}
    (all : AllVetted platform library events targets)
    (opened : openHop platform library resolver targets request events = (.ok kept, later)) :
    AllVetted platform library later kept := by
  unfold openHop at opened
  split at opened
  next =>
    split at opened
    next => cases opened
    next target fresh searched found =>
      obtain ⟨_, all⟩ := targetFor_ok all (congrArg Prod.fst found)
      rw [found] at all
      obtain ⟨rfl, rfl⟩ : fresh = kept ∧ _ = later := by simpa using opened
      exact all.mono (List.subset_append_left _ _)
  next => cases opened

theorem redirectRequest_each {law : List Egress → String → String → Nat → Prop}
    {targets : Targets} {events : List Egress} (each : EachConnection law events)
    (newurl : String) :
    EachConnection law
      (redirectRequest platform library resolver targets newurl events).2 := by
  have resolved : EachConnection law
      (resolve platform library resolver events (quoteSpaces newurl)).2 :=
    resolve_each each _
  unfold redirectRequest
  dsimp only
  split
  next failure later found => rwa [found] at resolved
  next target later found =>
    rw [found] at resolved
    split <;> exact resolved

/-- A redirect that is followed leads to a vetted URL of HTTPS. -/
theorem redirectRequest_ok {targets kept : Targets} {newurl : String} {next : UrlRequest}
    {events later : List Egress} (all : AllVetted platform library events targets)
    (followed : redirectRequest platform library resolver targets newurl events =
      (.ok (next, kept), later)) :
    AllVetted platform library later kept ∧ next.type = "https" := by
  unfold redirectRequest at followed
  dsimp only at followed
  split at followed
  next => cases followed
  next target searched found =>
    have vetted := resolve_ok (congrArg Prod.fst found)
    have subset : events ⊆ (resolve platform library resolver events (quoteSpaces newurl)).2 :=
      resolve_subset events _
    rw [found] at vetted subset
    obtain ⟨request, asked, type⟩ := urlRequest_of_accepted vetted.checked
    rw [asked] at followed
    obtain ⟨⟨rfl, rfl⟩, rfl⟩ : (request = next ∧ (quoteSpaces newurl, target) :: targets = kept) ∧
        searched = later := by simpa using followed
    exact ⟨(all.mono subset).cons vetted, type⟩

/-- However the server redirects, every connection of a request dials a vetted target. -/
theorem openRequest_each (replies : List WebReply) {targets : Targets} (visited : Visited)
    {request : UrlRequest} {events : List Egress}
    (all : AllVetted platform library events targets) (type : request.type = "https")
    (each : EachConnection (ToVetted platform library) events) :
    EachConnection (ToVetted platform library)
      (openRequest platform library resolver replies targets visited request events).2 := by
  induction replies generalizing targets visited request events with
  | nil =>
      have hop : EachConnection (ToVetted platform library)
          (openHop platform library resolver targets request events).2 :=
        openHop_each all type each
      unfold openRequest
      split
      next failure later opened => rwa [opened] at hop
      next kept later opened => rwa [opened] at hop
  | cons reply replies ih =>
      have hop : EachConnection (ToVetted platform library)
          (openHop platform library resolver targets request events).2 :=
        openHop_each all type each
      unfold openRequest
      split
      next failure later opened => rwa [opened] at hop
      next kept later opened =>
        rw [opened] at hop
        have keptVetted := openHop_ok all opened
        cases reply with
        | concluded outcome => exact hop
        | redirect status newurl =>
            have redirected : EachConnection (ToVetted platform library)
                (redirectRequest platform library resolver kept newurl later).2 :=
              redirectRequest_each hop newurl
            dsimp only
            split
            next failure last followed => rwa [followed] at redirected
            next next fresh last followed =>
              rw [followed] at redirected
              obtain ⟨freshVetted, nextType⟩ := redirectRequest_ok keptVetted followed
              split
              next => exact redirected
              next => exact ih _ freshVetted nextType redirected

end Facts

namespace Demo

/-- Only one text is an address, which is public. -/
def netLibrary : NetLibrary :=
  { ipAddress := fun text => if text = "8.8.8.8" then
      some { text, isGlobal := true, isPrivate := false, isLoopback := false
             isLinkLocal := false, isMulticast := false, isUnspecified := false
             isReserved := false }
      else none
    validNetloc := fun _ => true
    parseQsl := fun _ => some [] }

def publicResolver : Nat → String → HostLookup := fun _ _ => .infos [some "8.8.8.8"]

/-- What a request for a URL does before its connection fails. -/
def requested (url : String) : List Egress :=
  (webRequest .plain netLibrary publicResolver [] 1 url).2

end Demo

end Era.Providers
