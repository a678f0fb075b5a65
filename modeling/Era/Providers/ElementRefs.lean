import Era.Lib.Machine
import Era.Security.Json
import Era.Security.UrlSafety
import Mathlib.Logic.Function.Basic

/-!
# Element references of the simulated browser

An inspection hands out opaque references to the elements of a tab.  A later operation
resolves a reference against the registry and against the document that the tab shows then.
The module runs any operations on any sessions and says which references still resolve.
-/

namespace Era.Providers

open Era.Core Era.Security Era.Lib

/-! ## Documents -/

/-- `_SimNode`, as far as the frames read it. -/
inductive SimNode where
  | mk (tag : String) (src : Option String) (children : List SimNode)

namespace SimNode

def tag : SimNode → String
  | mk tag _ _ => tag

def src : SimNode → Option String
  | mk _ src _ => src

mutual

/-- `_all_nodes` of one node. -/
def all : SimNode → List SimNode
  | mk tag src children =>
      if tag = "__shadow__" then [] else mk tag src children :: allNodes children

/-- `_all_nodes`: the nodes in document order, without shadow roots. -/
def allNodes : List SimNode → List SimNode
  | [] => []
  | node :: nodes => node.all ++ allNodes nodes

end

end SimNode

/-- A descriptor of the walk, as far as it is read. -/
structure Descriptor where
  tag : String
  role : String
  name : String
  inputType : Option String := none
  path : List Nat
  href : Option String := none
  target : Option String := none
  action : Option String := none
  deriving DecidableEq

structure Fingerprint where
  tag : String
  role : String
  name : String
  inputType : Option String
  deriving DecidableEq

/-- `_fingerprint_core`. -/
def fingerprintCore (desc : Descriptor) : Fingerprint :=
  { tag := desc.tag, role := desc.role, name := desc.name, inputType := desc.inputType }

/-- The pages of a simulated browser and the reading of HTML, which results quantify over. -/
structure Site where
  /-- `pages`: the document under a URL. -/
  pages : String → Option String
  /-- `_AccessibilityWalker(base_url).feed(html)`: the nodes of a document. -/
  feed : String → String → List SimNode
  /-- `_walk_html(html, base_url)`. -/
  walkHtml : String → String → List Descriptor
  urljoin : String → String → String
  library : NetLibrary
  ttlSeconds : ℚ
  positive : 0 < ttlSeconds

/-- `_origin_of`. -/
def Site.originOf (site : Site) (url : String) : String :=
  match urlsplit site.library url with
  | some parts =>
      let scheme := String.ofList parts.scheme
      if scheme = "http" ∨ scheme = "https" then
        scheme ++ "://" ++ String.ofList parts.netloc
      else "opaque"
  | none => "opaque"

/-- `_SimulatedTab`, as far as it is read. -/
structure Tab where
  tabId : String
  url : String
  html : String

structure FrameDocument where
  frameId : String
  url : String
  html : String

/-- `_frame_documents`: the main document and the documents of its frames. -/
def Site.frameDocuments (site : Site) (tab : Tab) : List FrameDocument :=
  let sources := (SimNode.allNodes (site.feed tab.url tab.html)).filterMap fun node =>
    let src := pyStrip (node.src.getD "")
    if node.tag = "iframe" ∧ src ≠ "" then some (site.urljoin tab.url src) else none
  { frameId := "frame:main", url := tab.url, html := tab.html } ::
    (sources.zipIdx 1).map fun (resolved, index) =>
      { frameId := "frame:" ++ toString index, url := resolved
        html := (site.pages resolved).getD "" }

/-! ## The registry -/

/-- `ElementRefRecord`. -/
structure ElementRefRecord where
  ref : String
  tabId : String
  frameId : String
  generation : Nat
  url : String
  origin : String
  fingerprint : Fingerprint
  path : List Nat
  created : ℚ
  ttlSeconds : ℚ

/-- `ElementReferenceRegistry`: the records under a session and a reference, and the
generations under a session and a tab, which are 0 where there is none. -/
structure Registry where
  refs : String → String → Option ElementRefRecord := fun _ _ => none
  generations : String → String → Nat := fun _ _ => 0

namespace Registry

variable (registry : Registry)

/-- The records of one session that fail a test are deleted. -/
def dropRefs (session : String) (drop : ElementRefRecord → Bool) :
    String → String → Option ElementRefRecord :=
  Function.update registry.refs session fun ref =>
    (registry.refs session ref).filter fun record => !drop record

/-- The generation of a tab goes up. -/
def bump (session tabId : String) : String → String → Nat :=
  Function.update registry.generations session <|
    Function.update (registry.generations session) tabId
      (registry.generations session tabId + 1)

/-- `begin_snapshot`, which also drops the expired references of the tab. -/
def beginSnapshot (session tabId : String) (now : ℚ) : Registry :=
  { refs := registry.dropRefs session fun record =>
      record.tabId = tabId ∧ record.ttlSeconds < now - record.created
    generations := registry.bump session tabId }

/-- `register`, given the record. -/
def register (session : String) (record : ElementRefRecord) : Registry :=
  { registry with
    refs := Function.update registry.refs session <|
      Function.update (registry.refs session) record.ref (some record) }

/-- `invalidate_tab`. -/
def invalidateTab (session tabId : String) : Registry :=
  { refs := registry.dropRefs session fun record => record.tabId = tabId
    generations := registry.bump session tabId }

/-- `invalidate_session`. -/
def invalidateSession (session : String) : Registry :=
  { refs := Function.update registry.refs session fun _ => none
    generations := Function.update registry.generations session fun _ => 0 }

end Registry

def conflict (message : String) : Raised := .toolError .conflict message

/-- `check_scope`. -/
def checkScope (record : ElementRefRecord) (activeTabId activeUrl : String)
    (generation : Nat) (frameOrigin : String) (now : ℚ) : Except Raised Unit :=
  if record.ttlSeconds < now - record.created then
    .error (conflict "element reference expired (TTL)")
  else if record.tabId ≠ activeTabId then
    .error (conflict "element reference belongs to another tab")
  else if record.generation ≠ generation then
    .error (conflict "element reference is stale — run browser.inspect again")
  else if record.url ≠ activeUrl then
    .error (conflict "page changed since the element was inspected")
  else if record.origin ≠ frameOrigin then
    .error (conflict "element's frame origin changed")
  else .ok ()

/-! ## The transport -/

/-- `_SimulatedSession`. -/
structure Session where
  tabs : String → Option Tab := fun _ => none
  activeTabId : String := ""

/-- `SimulatedBrowserTransport`. -/
structure Transport where
  sessions : String → Option Session := fun _ => none
  refs : Registry := {}
  tabCounter : Nat := 0

/-- `_resolve_ref`: the element and its frame. -/
def Site.resolveRef (site : Site) (transport : Transport) (session : String) (tab : Tab)
    (ref : String) (now : ℚ) : Except Raised (Descriptor × String) :=
  match transport.refs.refs session ref with
  | none => .error (.toolError .notFound
      "element reference not found (never issued or already invalidated)")
  | some record =>
      let generation := transport.refs.generations session tab.tabId
      match (site.frameDocuments tab).find? fun frame => frame.frameId = record.frameId with
      | none => .error (conflict "element's frame no longer exists")
      | some frame =>
          match checkScope record tab.tabId tab.url generation (site.originOf frame.url)
            now with
          | .error failure => .error failure
          | .ok () =>
              match (site.walkHtml frame.html frame.url).filter fun desc =>
                fingerprintCore desc = record.fingerprint with
              | [] => .error (.toolError .notFound
                  "no element matches the reference (element removed or page drifted)")
              | [desc] =>
                  if desc.path ≠ record.path then
                    .error (conflict "element moved or page drifted (fingerprint mismatch)")
                  else .ok (desc, frame.frameId)
              | _ :: _ :: _ => .error
                  (conflict "multiple elements match the reference fingerprint — re-inspect")

/-- What an operation does to a tab, in the order in which it happens. -/
inductive TabEvent where
  /-- A tab is new in its session. -/
  | opened (session tabId : String)
  /-- `inspect` has issued these references. -/
  | inspected (session tabId : String) (issued : List ElementRefRecord)
  /-- `_navigate_tab`. -/
  | navigated (session tabId : String)
  /-- `close_context`. -/
  | closed (session : String)

/-- The id of a new tab. -/
def newTabId (token : String) (number : Nat) : String :=
  "tab_" ++ token ++ "_" ++ toString number

namespace Transport

variable (transport : Transport)

/-- A session is stored. -/
def setSession (key : String) (session : Session) : Transport :=
  { transport with sessions := Function.update transport.sessions key (some session) }

/-- `_session`: a session whose active tab exists, and that tab. -/
def openSession (key : String) : Option (Session × Tab) :=
  (transport.sessions key).bind fun session =>
    (session.tabs session.activeTabId).map fun tab => (session, tab)

/-- `_new_tab`, stored in its session. -/
def newTab (key : String) (session : Session) (url html token : String) :
    Transport × Tab × Session :=
  let number := transport.tabCounter + 1
  let tab : Tab := { tabId := newTabId token number, url, html }
  let session := { session with tabs := Function.update session.tabs tab.tabId (some tab) }
  ({ transport with tabCounter := number }.setSession key session, tab, session)

/-- `_navigate_tab`. -/
def navigateTab (key : String) (session : Session) (tab : Tab) (url html : String) :
    Transport × List TabEvent :=
  let moved : Tab := { tab with url, html }
  let session := { session with tabs := Function.update session.tabs tab.tabId (some moved) }
  ({ transport with refs := transport.refs.invalidateTab key tab.tabId }.setSession key session,
    [.navigated key tab.tabId])

end Transport

/-- What a click, a fill or a submission is about. -/
inductive Target where
  | elementRef (ref : String)
  /-- A selector, with the text of a text click. -/
  | legacy (text : Option String)

/-- An operation, with the random tokens and the readings of the clock it gets. -/
inductive BrowserOp where
  | navigate (session url token : String)
  | inspect (session : String) (maxElements : Nat) (tokens : Nat → String)
      (readings : Nat → ℚ)
  | click (session : String) (target : Target) (token : String) (now : ℚ)
  | fill (session : String) (target : Target) (now : ℚ)
  | submit (session : String) (target : Target) (now : ℚ)
  | activateTab (session tabId : String)
  | closeContext (session : String)

section

variable (site : Site)

/-- `_simulate_click`. -/
def simulateClick (transport : Transport) (key : String) (session : Session) (tab : Tab)
    (desc : Descriptor) (token : String) : Transport × List TabEvent :=
  match desc.href.bind site.pages, desc.href with
  | some html, some href =>
      if href = "" then (transport, [])
      else if desc.target = some "_blank" then
        let (transport, opened, _) := transport.newTab key session href html token
        (transport, [.opened key opened.tabId])
      else transport.navigateTab key session tab href html
  | _, _ => (transport, [])

/-- `_simulate_click_legacy`: a text click follows the first link with that name. -/
def simulateClickLegacy (transport : Transport) (key : String) (session : Session) (tab : Tab)
    (text : Option String) : Transport × List TabEvent :=
  if text.getD "" = "" then (transport, [])
  else
    let link := (site.walkHtml tab.html tab.url).find? fun desc =>
      desc.tag = "a" ∧ some desc.name = text
    match (link.bind (·.href)).bind site.pages, link.bind (·.href) with
    | some html, some href =>
        if href = "" then (transport, []) else transport.navigateTab key session tab href html
    | _, _ => (transport, [])

/-- `_ancestor_form_action`: the action of the nearest form around a path. -/
def ancestorFormAction (tab : Tab) (path : List Nat) : Option String :=
  let best := (site.walkHtml tab.html tab.url).foldl
    (fun (best : Option (List Nat × String)) desc =>
      let action := desc.action.getD ""
      if desc.tag = "form" ∧ desc.path ≠ [] ∧ action ≠ "" ∧
          path.take desc.path.length = desc.path ∧
          best.all fun found => found.1.length < desc.path.length then
        some (desc.path, action)
      else best) none
  best.map (·.2)

/-- Where submitting an element leads: its own action, or that of the form around it. -/
def submitAction (tab : Tab) (desc : Descriptor) : String :=
  let stated := desc.action.getD ""
  if stated = "" then (ancestorFormAction site tab desc.path).getD "" else stated

/-- The records that an inspection registers.  The loop stops after the element that reaches
the bound. -/
def inspectionRecords (tab : Tab) (generation maxElements : Nat) (tokens : Nat → String)
    (readings : Nat → ℚ) : List ElementRefRecord :=
  let elements := (site.frameDocuments tab).flatMap fun frame =>
    (site.walkHtml frame.html frame.url).map fun desc => (frame, desc)
  ((elements.take (max 1 maxElements)).zipIdx).map fun ((frame, desc), index) =>
    { ref := "er_" ++ tokens index, tabId := tab.tabId, frameId := frame.frameId, generation
      url := tab.url, origin := site.originOf frame.url, fingerprint := fingerprintCore desc
      path := desc.path, created := readings (index + 1), ttlSeconds := site.ttlSeconds }

def noOpenPage : Raised := .toolError .notFound "browser context has no open page"

/-- One operation: what it leaves, and what it does to the tabs. -/
def perform (transport : Transport) : BrowserOp → Except Raised (Transport × List TabEvent)
  | .navigate key url token =>
      match site.pages url with
      | none => .error (.toolError .notFound "simulated page not found")
      | some html =>
          match transport.sessions key with
          | none =>
              let (transport, first, session) := transport.newTab key {} url html token
              .ok (transport.setSession key { session with activeTabId := first.tabId },
                [.opened key first.tabId])
          | some session =>
              match session.tabs session.activeTabId with
              | none => .error (.exception "KeyError" session.activeTabId)
              | some tab => .ok (transport.navigateTab key session tab url html)
  | .inspect key maxElements tokens readings =>
      match transport.openSession key with
      | none => .error noOpenPage
      | some (_, tab) =>
          let begun := transport.refs.beginSnapshot key tab.tabId (readings 0)
          let records := inspectionRecords site tab (begun.generations key tab.tabId)
            maxElements tokens readings
          .ok ({ transport with refs := records.foldl (·.register key) begun },
            [.inspected key tab.tabId records])
  | .click key target token now =>
      match transport.openSession key with
      | none => .error noOpenPage
      | some (session, tab) =>
          match target with
          | .elementRef ref =>
              match site.resolveRef transport key tab ref now with
              | .error failure => .error failure
              | .ok (desc, _) => .ok (simulateClick site transport key session tab desc token)
          | .legacy text => .ok (simulateClickLegacy site transport key session tab text)
  | .fill key target now =>
      match transport.openSession key with
      | none => .error noOpenPage
      | some (_, tab) =>
          match target with
          | .elementRef ref =>
              match site.resolveRef transport key tab ref now with
              | .error failure => .error failure
              | .ok (desc, _) =>
                  if desc.inputType = some "file" then
                    .error (.toolError .validation
                      "browser.fill cannot target a file input — use browser.upload")
                  else .ok (transport, [])
          | .legacy _ => .ok (transport, [])
  | .submit key target now =>
      match transport.openSession key with
      | none => .error noOpenPage
      | some (session, tab) =>
          match target with
          | .elementRef ref =>
              match site.resolveRef transport key tab ref now with
              | .error failure => .error failure
              | .ok (desc, _) =>
                  match site.pages (submitAction site tab desc) with
                  | some html =>
                      if submitAction site tab desc = "" then .ok (transport, [])
                      else
                        .ok (transport.navigateTab key session tab (submitAction site tab desc)
                          html)
                  | none => .ok (transport, [])
          | .legacy _ => .ok (transport, [])
  | .activateTab key tabId =>
      match transport.openSession key with
      | none => .error noOpenPage
      | some (session, _) =>
          match session.tabs tabId with
          | none => .error (.toolError .notFound "tab not found (closed or never existed)")
          | some _ => .ok (transport.setSession key { session with activeTabId := tabId }, [])
  | .closeContext key =>
      .ok ({ transport with
        sessions := Function.update transport.sessions key none
        refs := transport.refs.invalidateSession key }, [.closed key])

/-- The transport under a sequence of operations.  One that raises changes nothing. -/
def browserMachine : Machine Transport BrowserOp (List TabEvent) where
  step transport op :=
    match perform site transport op with
    | .ok done => done
    | .error _ => (transport, [])

/-- The transport after some operations. -/
def transportAfter (ops : List BrowserOp) : Transport :=
  (browserMachine site).stateAfter {} ops

/-- What some operations have done to the tabs. -/
def tabEvents (ops : List BrowserOp) : List TabEvent :=
  ((browserMachine site).outputs {} ops).flatten

end

/-! ## What a reference rests on -/

/-- An event opens, inspects, navigates or closes a tab. -/
def TabEvent.Touches (session tabId : String) : TabEvent → Prop
  | opened key other | inspected key other _ | navigated key other =>
      key = session ∧ other = tabId
  | closed key => key = session

/-- A record was issued by the last inspection of a tab, and nothing has touched the tab
since. -/
def Live (events : List TabEvent) (session tabId : String) (record : ElementRefRecord) : Prop :=
  ∃ before issued after, events = before ++ .inspected session tabId issued :: after ∧
    record ∈ issued ∧ ∀ event ∈ after, ¬event.Touches session tabId

theorem Live.append {events : List TabEvent} {session tabId : String}
    {record : ElementRefRecord} (live : Live events session tabId record)
    {later : List TabEvent} (untouched : ∀ event ∈ later, ¬event.Touches session tabId) :
    Live (events ++ later) session tabId record := by
  obtain ⟨before, issued, after, rfl, member, quiet⟩ := live
  refine ⟨before, issued, after ++ later, by simp, member, fun event inEvents => ?_⟩
  cases List.mem_append.mp inEvents with
  | inl earlier => exact quiet event earlier
  | inr new => exact untouched event new

/-! ## Tab ids -/

theorem newTabId_inj {token token' : String} {number number' : Nat}
    (same : newTabId token number = newTabId token' number') : number = number' := by
  have digits : ∀ number : Nat, (toString number).toList = Nat.toDigits 10 number := by
    intro number
    simp [Nat.toString_eq_repr, Nat.repr]
  have noSeparator : ∀ number : Nat, '_' ∉ (toString number).toList := by
    intro number member
    rw [digits] at member
    exact absurd (Nat.isDigit_of_mem_toDigits (by decide) (by decide) member) (by decide)
  have texts : ("tab_" ++ token).toList ++ '_' :: (toString number).toList =
      ("tab_" ++ token').toList ++ '_' :: (toString number').toList := by
    simpa [newTabId] using congrArg String.toList same
  have equal := eq_of_append_cons_eq texts (noSeparator number) (noSeparator number')
  rw [digits, digits] at equal
  have read := readInt_integerText (.natural number)
  rw [equal, readInt_integerText (.natural number')] at read
  exact (Int.ofNat.inj (Option.some.inj read)).symm

/-- A tab id that has been given out. -/
def Given (count : Nat) (tabId : String) : Prop :=
  ∃ token number, number ≤ count ∧ tabId = newTabId token number

theorem not_given_newTabId (count : Nat) (token : String) :
    ¬Given count (newTabId token (count + 1)) := by
  rintro ⟨_, number, bound, same⟩
  have := newTabId_inj same
  omega

theorem Given.mono {count later : Nat} {tabId : String} (given : Given count tabId)
    (le : count ≤ later) : Given later tabId := by
  obtain ⟨token, number, bound, same⟩ := given
  exact ⟨token, number, by omega, same⟩

/-! ## The invariant -/

/-- The registry agrees with what has happened to the tabs. -/
structure Tracks (transport : Transport) (events : List TabEvent) : Prop where
  /-- A record is as old as its tab's generation, or it is live. -/
  issued : ∀ session ref record, transport.refs.refs session ref = some record →
    record.ref = ref ∧ record.generation ≤ transport.refs.generations session record.tabId ∧
      (record.generation = transport.refs.generations session record.tabId →
        Live events session record.tabId record)
  recordGiven : ∀ session ref record, transport.refs.refs session ref = some record →
    Given transport.tabCounter record.tabId
  tabGiven : ∀ key session tabId tab, transport.sessions key = some session →
    session.tabs tabId = some tab → tab.tabId = tabId ∧ Given transport.tabCounter tabId

/-- A registry gets no new record, and a record whose generation stays is of a tab that the
event leaves alone. -/
structure Ages (before after : Registry) (event : TabEvent) : Prop where
  kept : ∀ session ref record, after.refs session ref = some record →
    before.refs session ref = some record
  aged : ∀ session ref record, after.refs session ref = some record →
    after.generations session record.tabId = before.generations session record.tabId ∧
        ¬event.Touches session record.tabId ∨
      before.generations session record.tabId < after.generations session record.tabId

theorem Ages.issued {transport : Transport} {events : List TabEvent} {after : Registry}
    {event : TabEvent} (tracks : Tracks transport events)
    (ages : Ages transport.refs after event) {session ref : String} {record : ElementRefRecord}
    (found : after.refs session ref = some record) :
    record.ref = ref ∧ record.generation ≤ after.generations session record.tabId ∧
      (record.generation = after.generations session record.tabId →
        Live (events ++ [event]) session record.tabId record) := by
  obtain ⟨isRef, bound, live⟩ :=
    tracks.issued session ref record (ages.kept session ref record found)
  cases ages.aged session ref record found with
  | inl same =>
      obtain ⟨same, untouched⟩ := same
      rw [same]
      exact ⟨isRef, bound, fun current => (live current).append (by simpa using untouched)⟩
  | inr older => exact ⟨isRef, by omega, fun current => by omega⟩

namespace Registry

variable (registry : Registry)

theorem dropRefs_some {session key ref : String} {drop : ElementRefRecord → Bool}
    {record : ElementRefRecord}
    (found : registry.dropRefs key drop session ref = some record) :
    registry.refs session ref = some record ∧ (session = key → drop record = false) := by
  unfold dropRefs at found
  by_cases same : session = key
  · subst same
    rw [Function.update_self] at found
    obtain ⟨kept, stays⟩ := Option.filter_eq_some_iff.mp found
    exact ⟨kept, fun _ => by simpa using stays⟩
  · rw [Function.update_of_ne same] at found
    exact ⟨found, fun eq => absurd eq same⟩

theorem bump_self (session tabId : String) :
    registry.bump session tabId session tabId = registry.generations session tabId + 1 := by
  simp [bump]

theorem bump_other {session key tabId other : String}
    (separate : ¬(key = session ∧ other = tabId)) :
    registry.bump key other session tabId = registry.generations session tabId := by
  unfold bump
  by_cases same : session = key
  · subst same
    rw [Function.update_self, Function.update_of_ne fun eq => separate ⟨rfl, eq.symm⟩]
  · rw [Function.update_of_ne same]

theorem ages_invalidateTab (key tabId : String) :
    Ages registry (registry.invalidateTab key tabId) (.navigated key tabId) := by
  refine ⟨fun session ref record found => (registry.dropRefs_some found).1,
    fun session ref record found => ?_⟩
  by_cases touched : key = session ∧ tabId = record.tabId
  · obtain ⟨rfl, rfl⟩ := touched
    exact .inr (by simp [invalidateTab, bump_self])
  · exact .inl ⟨registry.bump_other touched, touched⟩

theorem ages_invalidateSession (key : String) :
    Ages registry (registry.invalidateSession key) (.closed key) := by
  have kept : ∀ session ref record,
      (registry.invalidateSession key).refs session ref = some record →
        session ≠ key ∧ registry.refs session ref = some record := by
    intro session ref record found
    unfold invalidateSession at found
    by_cases same : session = key
    · subst same
      simp at found
    · exact ⟨same, by simpa [Function.update_of_ne same] using found⟩
  refine ⟨fun session ref record found => (kept session ref record found).2,
    fun session ref record found => .inl ⟨?_, ?_⟩⟩
  · simp [invalidateSession, Function.update_of_ne (kept session ref record found).1]
  · exact fun same => (kept session ref record found).1 same.symm

theorem ages_beginSnapshot (key tabId : String) (now : ℚ) (issued : List ElementRefRecord) :
    Ages registry (registry.beginSnapshot key tabId now) (.inspected key tabId issued) := by
  refine ⟨fun session ref record found => (registry.dropRefs_some found).1,
    fun session ref record found => ?_⟩
  by_cases touched : key = session ∧ tabId = record.tabId
  · obtain ⟨rfl, rfl⟩ := touched
    exact .inr (by simp [beginSnapshot, bump_self])
  · exact .inl ⟨registry.bump_other touched, touched⟩

@[simp] theorem register_generations (key : String) (record : ElementRefRecord) :
    (registry.register key record).generations = registry.generations := rfl

/-- Registering adds the new records and nothing else. -/
theorem foldl_register {key : String} {records : List ElementRefRecord} {session ref : String}
    {record : ElementRefRecord}
    (found : (records.foldl (·.register key) registry).refs session ref = some record) :
    session = key ∧ record ∈ records ∧ record.ref = ref ∨
      registry.refs session ref = some record := by
  induction records generalizing registry with
  | nil => exact .inr found
  | cons first records ih =>
      rw [List.foldl_cons] at found
      obtain ⟨same, member, isRef⟩ | earlier := ih (registry.register key first) found
      · exact .inl ⟨same, List.mem_cons_of_mem _ member, isRef⟩
      · unfold register at earlier
        dsimp only at earlier
        by_cases same : session = key
        · subst same
          rw [Function.update_self] at earlier
          by_cases new : ref = first.ref
          · subst new
            rw [Function.update_self] at earlier
            obtain rfl := Option.some.inj earlier
            exact .inl ⟨rfl, List.mem_cons_self, rfl⟩
          · rw [Function.update_of_ne new] at earlier
            exact .inr earlier
        · rw [Function.update_of_ne same] at earlier
          exact .inr earlier

theorem foldl_register_generations (key : String) (records : List ElementRefRecord) :
    (records.foldl (·.register key) registry).generations = registry.generations := by
  induction records generalizing registry with
  | nil => rfl
  | cons first records ih => rw [List.foldl_cons, ih, register_generations]

end Registry

/-- The tabs of a session are under their ids, which have been given out. -/
def Session.Given (session : Session) (count : Nat) : Prop :=
  ∀ tabId tab, session.tabs tabId = some tab → tab.tabId = tabId ∧ Providers.Given count tabId

theorem Session.Given.mono {session : Session} {count later : Nat}
    (given : session.Given count) (le : count ≤ later) : session.Given later :=
  fun tabId tab found => ⟨(given tabId tab found).1, (given tabId tab found).2.mono le⟩

theorem Session.Given.update {session : Session} {count : Nat} (given : session.Given count)
    {tabId : String} (tab : Tab) (named : tab.tabId = tabId)
    (isGiven : Providers.Given count tabId) :
    Session.Given { session with tabs := Function.update session.tabs tabId (some tab) }
      count := by
  intro other found lookup
  by_cases same : other = tabId
  · subst same
    obtain rfl : tab = found := by simpa using lookup
    exact ⟨named, isGiven⟩
  · exact given other found (by simpa [Function.update_of_ne same] using lookup)

section Steps

variable {site : Site} {transport : Transport} {events : List TabEvent}

theorem Tracks.session (tracks : Tracks transport events) {key : String} {session : Session}
    (found : transport.sessions key = some session) : session.Given transport.tabCounter :=
  fun tabId tab lookup => tracks.tabGiven key session tabId tab found lookup

theorem Tracks.openSession (tracks : Tracks transport events) {key : String}
    {session : Session} {tab : Tab}
    (found : transport.openSession key = some (session, tab)) :
    session.Given transport.tabCounter ∧ Given transport.tabCounter tab.tabId := by
  obtain ⟨stored, inSession, active⟩ := Option.bind_eq_some_iff.mp found
  obtain ⟨shown, isActive, same⟩ := Option.map_eq_some_iff.mp active
  obtain ⟨rfl, rfl⟩ := Prod.mk.inj same
  have given := tracks.session inSession
  obtain ⟨named, isGiven⟩ := given _ shown isActive
  exact ⟨given, named ▸ isGiven⟩

theorem Tracks.setSession (tracks : Tracks transport events) (key : String)
    {session : Session} (given : session.Given transport.tabCounter) :
    Tracks (transport.setSession key session) events := by
  refine ⟨tracks.issued, tracks.recordGiven, fun other found tabId tab lookup inSession => ?_⟩
  unfold Transport.setSession at lookup
  by_cases same : other = key
  · subst same
    obtain rfl : session = found := by simpa using lookup
    exact given tabId tab inSession
  · exact tracks.tabGiven other found tabId tab
      (by simpa [Function.update_of_ne same] using lookup) inSession

theorem Tracks.age (tracks : Tracks transport events) {after : Registry} {event : TabEvent}
    (ages : Ages transport.refs after event) :
    Tracks { transport with refs := after } (events ++ [event]) :=
  ⟨fun _ _ _ found => ages.issued tracks found,
    fun session ref record found =>
      tracks.recordGiven session ref record (ages.kept session ref record found),
    tracks.tabGiven⟩

/-- A new tab has an id that no record and no other tab has. -/
theorem Tracks.newTab (tracks : Tracks transport events) (key : String) {session : Session}
    (given : session.Given transport.tabCounter) (url html token : String) :
    Tracks (transport.newTab key session url html token).1
        (events ++ [.opened key (transport.newTab key session url html token).2.1.tabId]) ∧
      (transport.newTab key session url html token).2.2.Given
        (transport.newTab key session url html token).1.tabCounter := by
  have fresh := not_given_newTabId transport.tabCounter token
  have ages : Ages transport.refs transport.refs
      (.opened key (newTabId token (transport.tabCounter + 1))) := by
    refine ⟨fun _ _ _ found => found, fun session ref record found => .inl ⟨rfl, ?_⟩⟩
    rintro ⟨-, same⟩
    exact fresh (same ▸ tracks.recordGiven session ref record found)
  have aged := tracks.age ages
  have counted : Tracks { transport with tabCounter := transport.tabCounter + 1 }
      (events ++ [.opened key (newTabId token (transport.tabCounter + 1))]) :=
    ⟨aged.issued,
      fun session ref record found =>
        (aged.recordGiven session ref record found).mono (Nat.le_succ _),
      fun other found tabId tab lookup inSession =>
        ⟨(aged.tabGiven other found tabId tab lookup inSession).1,
          (aged.tabGiven other found tabId tab lookup inSession).2.mono (Nat.le_succ _)⟩⟩
  have givenTab : session.Given (transport.tabCounter + 1) := given.mono (Nat.le_succ _)
  have isGiven : Given (transport.tabCounter + 1) (newTabId token (transport.tabCounter + 1)) :=
    ⟨token, _, le_rfl, rfl⟩
  have updated := givenTab.update ⟨_, url, html⟩ rfl isGiven
  exact ⟨counted.setSession key updated, updated⟩

theorem Tracks.navigateTab (tracks : Tracks transport events) (key : String)
    {session : Session} {tab : Tab} (given : session.Given transport.tabCounter)
    (isGiven : Given transport.tabCounter tab.tabId) (url html : String) :
    Tracks (transport.navigateTab key session tab url html).1
      (events ++ (transport.navigateTab key session tab url html).2) := by
  have aged := tracks.age (transport.refs.ages_invalidateTab key tab.tabId)
  have updated := given.update { tab with url, html } rfl isGiven
  exact aged.setSession key updated

theorem Tracks.inspect (tracks : Tracks transport events) {key tabId : String} (now : ℚ)
    (isGiven : Given transport.tabCounter tabId) {records : List ElementRefRecord}
    (shape : ∀ record ∈ records, record.tabId = tabId ∧
      record.generation = (transport.refs.beginSnapshot key tabId now).generations key tabId) :
    Tracks
      { transport with
        refs := records.foldl (·.register key) (transport.refs.beginSnapshot key tabId now) }
      (events ++ [.inspected key tabId records]) := by
  have ages := transport.refs.ages_beginSnapshot key tabId now records
  refine ⟨fun session ref record found => ?_, fun session ref record found => ?_,
    tracks.tabGiven⟩
  · rw [Registry.foldl_register_generations]
    obtain ⟨rfl, member, isRef⟩ | old := Registry.foldl_register _ found
    · obtain ⟨rfl, generation⟩ := shape record member
      exact ⟨isRef, generation.le, fun _ => ⟨events, records, [], by simp, member, by simp⟩⟩
    · exact ages.issued tracks old
  · obtain ⟨rfl, member, isRef⟩ | old := Registry.foldl_register _ found
    · rw [(shape record member).1]
      exact isGiven
    · exact tracks.recordGiven session ref record (ages.kept session ref record old)

theorem Tracks.simulateClick (tracks : Tracks transport events) {key : String}
    {session : Session} {tab : Tab} (given : session.Given transport.tabCounter)
    (isGiven : Given transport.tabCounter tab.tabId) (desc : Descriptor) (token : String) :
    Tracks (simulateClick site transport key session tab desc token).1
      (events ++ (simulateClick site transport key session tab desc token).2) := by
  unfold Providers.simulateClick
  split
  next html href _ _ =>
    split
    next => rwa [List.append_nil]
    next =>
      split
      next => exact (tracks.newTab key given href html token).1
      next => exact tracks.navigateTab key given isGiven href html
  next => rwa [List.append_nil]

theorem Tracks.simulateClickLegacy (tracks : Tracks transport events) {key : String}
    {session : Session} {tab : Tab} (given : session.Given transport.tabCounter)
    (isGiven : Given transport.tabCounter tab.tabId) (text : Option String) :
    Tracks (simulateClickLegacy site transport key session tab text).1
      (events ++ (simulateClickLegacy site transport key session tab text).2) := by
  unfold Providers.simulateClickLegacy
  split
  next => rwa [List.append_nil]
  next =>
    dsimp only
    split
    next html href _ _ =>
      split
      next => rwa [List.append_nil]
      next => exact tracks.navigateTab key given isGiven href html
    next => rwa [List.append_nil]

/-- Inspection registers records of its own tab and generation. -/
theorem inspectionRecords_shape {tab : Tab} {generation maxElements : Nat}
    {tokens : Nat → String} {readings : Nat → ℚ} {record : ElementRefRecord}
    (member : record ∈ inspectionRecords site tab generation maxElements tokens readings) :
    record.tabId = tab.tabId ∧ record.generation = generation := by
  obtain ⟨⟨⟨frame, desc⟩, index⟩, _, rfl⟩ := List.mem_map.mp member
  exact ⟨rfl, rfl⟩

/-- Filling an element changes no tab and no reference. -/
theorem perform_fill {key : String} {target : Target} {now : ℚ} {next : Transport}
    {new : List TabEvent}
    (done : perform site transport (.fill key target now) = .ok (next, new)) :
    (next, new) = (transport, []) := by
  simp only [perform] at done
  split at done
  next => contradiction
  next =>
    split at done
    next =>
      split at done
      next => contradiction
      next =>
        split at done
        next => contradiction
        next => exact (Except.ok.inj done).symm
    next => exact (Except.ok.inj done).symm

/-- What one operation preserves. -/
theorem perform_tracks (tracks : Tracks transport events) {op : BrowserOp} {next : Transport}
    {new : List TabEvent} (done : perform site transport op = .ok (next, new)) :
    Tracks next (events ++ new) := by
  cases op with
  | navigate key url token =>
      simp only [perform] at done
      split at done
      next => contradiction
      next html page =>
      split at done
      next closed =>
        have empty : Session.Given {} transport.tabCounter := by
          intro tabId tab found
          simp at found
        obtain ⟨opened, given⟩ := tracks.newTab key empty url html token
        obtain ⟨rfl, rfl⟩ := Prod.mk.inj (Except.ok.inj done)
        exact opened.setSession key given
      next session known =>
      split at done
      next => contradiction
      next tab active =>
        obtain ⟨named, isGiven⟩ := tracks.session known _ _ active
        obtain ⟨rfl, rfl⟩ := Prod.mk.inj (Except.ok.inj done)
        exact tracks.navigateTab key (tracks.session known) (named ▸ isGiven) url html
  | inspect key maxElements tokens readings =>
      simp only [perform] at done
      split at done
      next => contradiction
      next session tab found =>
        obtain ⟨_, isGiven⟩ := tracks.openSession found
        obtain ⟨rfl, rfl⟩ := Prod.mk.inj (Except.ok.inj done)
        exact tracks.inspect (readings 0) isGiven fun record member =>
          inspectionRecords_shape member
  | click key target token now =>
      simp only [perform] at done
      split at done
      next => contradiction
      next session tab found =>
        obtain ⟨given, isGiven⟩ := tracks.openSession found
        cases target with
        | elementRef ref =>
            dsimp only at done
            split at done
            next => contradiction
            next desc frame resolved =>
              have clicked : Tracks (simulateClick site transport key session tab desc token).1
                  (events ++ (simulateClick site transport key session tab desc token).2) :=
                tracks.simulateClick given isGiven desc token
              rwa [Except.ok.inj done] at clicked
        | legacy text =>
            have clicked : Tracks (simulateClickLegacy site transport key session tab text).1
                (events ++ (simulateClickLegacy site transport key session tab text).2) :=
              tracks.simulateClickLegacy given isGiven text
            rwa [Except.ok.inj done] at clicked
  | fill key target now =>
      obtain ⟨rfl, rfl⟩ := Prod.mk.inj (perform_fill done)
      rwa [List.append_nil]
  | submit key target now =>
      simp only [perform] at done
      split at done
      next => contradiction
      next session tab found =>
        obtain ⟨given, isGiven⟩ := tracks.openSession found
        cases target with
        | legacy text =>
            obtain ⟨rfl, rfl⟩ := Prod.mk.inj (Except.ok.inj done)
            rwa [List.append_nil]
        | elementRef ref =>
            dsimp only at done
            split at done
            next => contradiction
            next desc frame resolved =>
              split at done
              next html page =>
                split at done
                next =>
                  obtain ⟨rfl, rfl⟩ := Prod.mk.inj (Except.ok.inj done)
                  rwa [List.append_nil]
                next =>
                  have moved := tracks.navigateTab key given isGiven
                    (submitAction site tab desc) html
                  rwa [Except.ok.inj done] at moved
              next =>
                obtain ⟨rfl, rfl⟩ := Prod.mk.inj (Except.ok.inj done)
                rwa [List.append_nil]
  | activateTab key tabId =>
      simp only [perform] at done
      split at done
      next => contradiction
      next session tab found =>
        obtain ⟨given, _⟩ := tracks.openSession found
        split at done
        next => contradiction
        next shown _ =>
          obtain ⟨rfl, rfl⟩ := Prod.mk.inj (Except.ok.inj done)
          rw [List.append_nil]
          exact tracks.setSession key given
  | closeContext key =>
      obtain ⟨rfl, rfl⟩ := Prod.mk.inj (Except.ok.inj done)
      have aged := tracks.age (transport.refs.ages_invalidateSession key)
      refine ⟨aged.issued, aged.recordGiven, fun other found tabId tab lookup inSession => ?_⟩
      by_cases same : other = key
      · subst same
        simp at lookup
      · exact tracks.tabGiven other found tabId tab
          (by simpa [Function.update_of_ne same] using lookup) inSession

end Steps

/-- In every run the registry agrees with what has happened to the tabs. -/
theorem tracks_transportAfter (site : Site) (ops : List BrowserOp) :
    Tracks (transportAfter site ops) (tabEvents site ops) := by
  refine (browserMachine site).run_induction
    (motive := fun ops transport => Tracks transport ((browserMachine site).outputs {} ops).flatten)
    {} ?_ ?_ ops
  · exact ⟨by simp, by simp, by simp⟩
  · intro before op tracks
    rw [Machine.outputs_append, Machine.outputs_singleton, List.flatten_append,
      List.flatten_singleton]
    unfold browserMachine
    dsimp only
    split
    next done performed =>
      exact perform_tracks tracks performed
    next => rwa [List.append_nil]

/-- A resolved reference: the record it names, and the element that is left of its page. -/
theorem resolveRef_ok {site : Site} {transport : Transport} {session ref frameId : String}
    {tab : Tab} {now : ℚ} {desc : Descriptor}
    (resolved : site.resolveRef transport session tab ref now = .ok (desc, frameId)) :
    ∃ record frame, transport.refs.refs session ref = some record ∧
      record.tabId = tab.tabId ∧
      record.generation = transport.refs.generations session tab.tabId ∧
      now - record.created ≤ record.ttlSeconds ∧
      (site.frameDocuments tab).find? (fun frame => frame.frameId = record.frameId) =
        some frame ∧ frame.frameId = frameId ∧
      (site.walkHtml frame.html frame.url).filter
        (fun desc => fingerprintCore desc = record.fingerprint) = [desc] ∧
      desc.path = record.path := by
  unfold Site.resolveRef at resolved
  split at resolved
  next => contradiction
  next record known =>
  dsimp only at resolved
  split at resolved
  next => contradiction
  next frame found =>
  split at resolved
  next => contradiction
  next inScope =>
  unfold checkScope at inScope
  split at inScope
  next => contradiction
  next alive =>
  split at inScope
  next => contradiction
  next sameTab =>
  split at inScope
  next => contradiction
  next current =>
  split at resolved
  next => contradiction
  next only matching =>
    split at resolved
    next => contradiction
    next inPlace =>
      obtain ⟨rfl, rfl⟩ := Prod.mk.inj (Except.ok.inj resolved)
      exact ⟨record, frame, known, not_not.mp sameTab, not_not.mp current, not_lt.mp alive,
        found, rfl, matching, not_not.mp inPlace⟩
  next => contradiction

/-- References are safe. -/
theorem resolveRef_live (site : Site) (ops : List BrowserOp) {session ref frameId : String}
    {tab : Tab} {now : ℚ} {desc : Descriptor}
    (resolved : site.resolveRef (transportAfter site ops) session tab ref now =
      .ok (desc, frameId)) :
    ∃ record, record.ref = ref ∧ Live (tabEvents site ops) session tab.tabId record ∧
      now - record.created ≤ record.ttlSeconds ∧
      ∃ frame ∈ site.frameDocuments tab, frame.frameId = frameId ∧
        (site.walkHtml frame.html frame.url).filter
          (fun desc => fingerprintCore desc = record.fingerprint) = [desc] ∧
        desc.path = record.path := by
  obtain ⟨record, frame, known, sameTab, current, alive, found, isFrame, matching, inPlace⟩ :=
    resolveRef_ok resolved
  have tracks := tracks_transportAfter site ops
  obtain ⟨isRef, _, live⟩ := tracks.issued session ref record known
  rw [sameTab] at live
  exact ⟨record, isRef, live current, alive, frame, List.mem_of_find?_eq_some found, isFrame,
    matching, inPlace⟩

namespace Demo

def link : Descriptor := { tag := "a", role := "link", name := "Next", path := [0] }

/-- One page with one link. -/
def onePage : Site :=
  { pages := fun url => if url = "https://a.example/" then some "<a>Next</a>" else none
    feed := fun _ _ => []
    walkHtml := fun html _ => if html = "" then [] else [link]
    urljoin := fun _ url => url
    library := {
      ipAddress := fun _ => none, validNetloc := fun _ => true, parseQsl := fun _ => some [] }
    ttlSeconds := 600
    positive := by decide }

def inspection : List BrowserOp :=
  [.navigate "run" "https://a.example/" "x", .inspect "run" 10 (fun _ => "token") fun _ => 0]

def shownTab : Tab :=
  { tabId := newTabId "x" 1, url := "https://a.example/", html := "<a>Next</a>" }

end Demo

/-- A reference resolves right after it was issued. -/
theorem resolveRef_live_demo :
    ∃ record, record.ref = "er_token" ∧
      Live (tabEvents Demo.onePage Demo.inspection) "run" Demo.shownTab.tabId record ∧
      5 - record.created ≤ record.ttlSeconds ∧
      ∃ frame ∈ Demo.onePage.frameDocuments Demo.shownTab, frame.frameId = "frame:main" ∧
        (Demo.onePage.walkHtml frame.html frame.url).filter
          (fun desc => fingerprintCore desc = record.fingerprint) = [Demo.link] ∧
        Demo.link.path = record.path := by
  have found : (Demo.onePage.resolveRef (transportAfter Demo.onePage Demo.inspection) "run"
      Demo.shownTab "er_token" 5).toOption = some (Demo.link, "frame:main") := by
    decide +kernel
  cases resolved : Demo.onePage.resolveRef (transportAfter Demo.onePage Demo.inspection) "run"
      Demo.shownTab "er_token" 5 with
  | error failure => simp [resolved, Except.toOption] at found
  | ok result =>
      obtain rfl : result = (Demo.link, "frame:main") := by
        simpa [resolved, Except.toOption] using found
      exact resolveRef_live Demo.onePage Demo.inspection resolved

end Era.Providers
