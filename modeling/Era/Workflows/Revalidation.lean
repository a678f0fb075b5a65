import Era.Providers.ElementRefs
import Era.Workflows.Machine

/-!
# The two checks of a post-condition

The browser provider checks the expectation of an action against the page before and after
it.  A resume checks the expectation of an approved step once more, against an inspection of
the page as it is then.
-/

namespace Era.Providers

open Era.Core Era.Workflows

/-! ## The check of the provider -/

/-- What a session shows: its active tab, and how many tabs there are. -/
structure PageState where
  tab : Tab
  title : String
  tabCount : Nat
  hasTab : 0 < tabCount

/-- The element that an operation has acted on.  An operation by selector or by text keeps
track of none, and its frame stays empty. -/
structure Interaction where
  frameId : String := ""
  path : List Nat := []
  tag : String := ""
  elementRef : Option String := none

/-- What an inspection is given and draws besides the page. -/
structure Snapshot where
  maxElements : Nat := 200
  generation : Nat := 1
  snapshotId : String := ""
  elementRefs : Nat → String := fun _ => ""

section

variable (site : Site)

/-- `_element_still_attached`. -/
def Site.elementStillAttached (tab : Tab) (acted : Interaction) : Bool :=
  if acted.frameId = "" then true
  else
    match (site.frameDocuments tab).find? fun frame => frame.frameId = acted.frameId with
    | none => false
    | some frame => (site.walkHtml frame.html frame.url).any fun desc =>
        desc.path = acted.path ∧ desc.tag = acted.tag

/-- `_interaction_data`. -/
def Site.interactionData (before after : PageState) (acted : Interaction) : Params :=
  let origin := Value.str (site.originOf after.tab.url)
  let post : Params :=
    [("url", .str after.tab.url), ("origin", origin), ("tab_id", .str after.tab.tabId),
      ("frame_id", .str acted.frameId), ("tab_count_before", .int before.tabCount),
      ("tab_count_after", .int after.tabCount),
      ("url_changed", .bool (after.tab.url != before.tab.url)),
      ("element_attached", .bool (site.elementStillAttached after.tab acted))]
  [("url", .str after.tab.url), ("title", .str after.title), ("tab_id", .str after.tab.tabId),
    ("frame_id", .str acted.frameId), ("origin", origin), ("post_condition", .dict post)] ++
      (acted.elementRef.map fun ref => ("element_ref", Value.str ref)).toList

/-- A descriptor in the answer to an inspection. -/
def Site.listed (tab : Tab) (snapshot : Snapshot) (frame : FrameDocument) (desc : Descriptor)
    (index : Nat) : Params :=
  let optional (key : String) (value : Option String) : Params :=
    (value.map fun text => (key, Value.str text)).toList
  [("tag", .str desc.tag), ("role", .str desc.role), ("name", .str desc.name),
    ("input_type", (desc.inputType.map Value.str).getD .none),
    ("path", .list (desc.path.map fun position => .int position))] ++
    optional "href" desc.href ++ optional "target" desc.target ++
    optional "action" desc.action ++
    [("frame_id", .str frame.frameId), ("tab_id", .str tab.tabId),
      ("origin", .str (site.originOf frame.url)),
      ("snapshot_generation", .int snapshot.generation),
      ("element_ref", .str (snapshot.elementRefs index))]

/-- The elements of all frames.  The loop of `inspect` stops after the one that reaches the
bound. -/
def Site.inspectedElements (tab : Tab) (snapshot : Snapshot) : List Params :=
  let elements := (site.frameDocuments tab).flatMap fun frame =>
    (site.walkHtml frame.html frame.url).map fun desc => (frame, desc)
  ((elements.take (max 1 snapshot.maxElements)).zipIdx).map fun ((frame, desc), index) =>
    site.listed tab snapshot frame desc index

/-- `inspect` of the transport and `_inspect_result`. -/
def Site.inspectResult (page : PageState) (snapshot : Snapshot) : ActionResult :=
  let frames := site.frameDocuments page.tab
  let elements := site.inspectedElements page.tab snapshot
  { summary := "inspected " ++ toString elements.length ++ " usable element(s) in " ++
      toString frames.length ++ " frame(s)"
    data :=
      [("url", .str page.tab.url), ("title", .str (pyTake page.title 500)),
        ("tab_id", .str page.tab.tabId), ("tab_count", .int page.tabCount),
        ("snapshot_id", .str snapshot.snapshotId), ("generation", .int snapshot.generation),
        ("frames", .list (frames.map fun frame =>
          .dict [("frame_id", .str frame.frameId), ("url", .str frame.url)])),
        ("elements", .list (elements.map Value.dict)),
        ("elements_shown", .int elements.length),
        ("truncated", .bool (max 1 snapshot.maxElements ≤ elements.length)),
        ("content_untrusted", .bool true)] }

end

/-- `int(value)`. -/
def toInt (value : Value) : Except Raised Int :=
  match pyInt? value with
  | some number => .ok number
  | none => .error (.exception "TypeError" "int() argument must be a string or a number")

/-- `_verify_expect`. -/
def verifyExpect (platform : Platform) (expect data : Params) : Except Raised Unit := do
  if expect.isEmpty then return
  let kind := (expect.getOr "kind" (.str "")).pyStr platform
  let post : Params := match data.get "post_condition" with
    | .dict post => post
    | _ => []
  let url := (data.getOr "url" (.str "")).pyStr platform
  let ok ←
    if kind = "navigation" then
      let urlContains := expect.get "url_contains"
      if urlContains.truthy then
        match urlContains with
        | .str needle => pure (textContains needle url)
        | value => throw (.exception "TypeError"
            ("'in <string>' requires string as left operand, not " ++ value.typeName))
      else pure (post.get "url_changed").truthy
    else if kind = "tab_opened" then
      let after ← toInt (post.getOr "tab_count_after" (.int 0))
      let before ← toInt (post.getOr "tab_count_before" (.int 0))
      pure (decide (before < after))
    else if kind = "element_detached" then pure (!(post.get "element_attached").truthy)
    else pure false
  if ok then return
  else throw (conflict ("post-condition verification failed: expected " ++ kind))

theorem check_eq_ok_iff {check : Prop} [Decidable check] {failure : Raised} :
    (if check then pure () else throw failure : Except Raised Unit) = .ok () ↔ check := by
  split
  next holds => exact iff_of_true rfl holds
  next fails => exact ⟨nofun, fun holds => absurd holds fails⟩

theorem refusal_eq_ok_iff {refused : Prop} [Decidable refused] {failure : Raised} :
    (if refused then throw failure else pure () : Except Raised Unit) = .ok () ↔ ¬refused := by
  rw [← ite_not]
  exact check_eq_ok_iff

section Verdict

variable (platform : Platform) (site : Site) (before after : PageState) (acted : Interaction)

theorem verifyExpect_navigation {urlContains : Value}
    (optional : urlContains = .none ∨ ∃ needle, urlContains = .str needle) :
    verifyExpect platform [("kind", .str "navigation"), ("url_contains", urlContains)]
        (site.interactionData before after acted) = .ok () ↔
      if urlContains.truthy then
        textContains (urlContains.pyStr platform) after.tab.url = true
      else after.tab.url ≠ before.tab.url := by
  unfold verifyExpect
  obtain rfl | ⟨needle, rfl⟩ := optional
  · simpa [Params.get, Params.getOr, Value.truthy, Value.pyStr, Site.interactionData, List.lookup_cons]
      using refusal_eq_ok_iff
  · by_cases empty : needle = ""
    · subst empty
      simpa [Params.get, Params.getOr, Value.truthy, Value.pyStr, Site.interactionData,
        List.lookup_cons] using refusal_eq_ok_iff
    · have truthy : (Value.str needle).truthy = true := by simpa [Value.truthy] using empty
      simpa [Params.get, Params.getOr, truthy, Value.pyStr, Site.interactionData, List.lookup_cons]
        using check_eq_ok_iff

theorem verifyExpect_tabOpened (urlContains : Value) :
    verifyExpect platform [("kind", .str "tab_opened"), ("url_contains", urlContains)]
        (site.interactionData before after acted) = .ok () ↔
      before.tabCount < after.tabCount := by
  have counted : verifyExpect platform
        [("kind", .str "tab_opened"), ("url_contains", urlContains)]
        (site.interactionData before after acted) =
      if before.tabCount < after.tabCount then pure ()
      else throw (conflict "post-condition verification failed: expected tab_opened") := by
    simp [verifyExpect, Params.get, Params.getOr, Value.pyStr, Site.interactionData, List.lookup_cons,
      toInt, pyInt?, bind, Except.bind, pure, Except.pure]
  rw [counted, check_eq_ok_iff]

theorem verifyExpect_elementDetached (urlContains : Value) :
    verifyExpect platform [("kind", .str "element_detached"), ("url_contains", urlContains)]
        (site.interactionData before after acted) = .ok () ↔
      site.elementStillAttached after.tab acted = false := by
  unfold verifyExpect
  simpa [Params.get, Params.getOr, Value.pyStr, Value.truthy, Site.interactionData, List.lookup_cons]
    using check_eq_ok_iff

end Verdict

end Era.Providers

namespace Era.Workflows

open Era.Core Era.Providers Era.Services

/-! ## The check of a resume -/

/-- Whether an element has the fields that a target describes. -/
def WorkflowTarget.describes (target : WorkflowTarget) (element : Params) : Bool :=
  target.fields.all fun field => field.2.all fun wanted =>
    (element.get field.1).pyEq (.str wanted)

theorem WorkflowTarget.matches_dict (target : WorkflowTarget) (element : Params) :
    target.matches (.dict element) = .ok (target.describes element) := by
  unfold WorkflowTarget.matches WorkflowTarget.describes
  induction target.fields with
  | nil => rfl
  | cons field rest ih =>
      obtain ⟨key, _ | wanted⟩ := field
      · exact ih
      · change (if (element.get key).pyEq (.str wanted) then
            WorkflowTarget.matches.check (.dict element) rest else .ok false) = _
        rw [ih, List.all_cons, Option.all_some]
        cases (element.get key).pyEq (.str wanted) <;> rfl

theorem WorkflowTarget.mapM_matches (target : WorkflowTarget) (elements : List Params) :
    (elements.map Value.dict).mapM target.matches = .ok (elements.map target.describes) := by
  induction elements with
  | nil => rfl
  | cons element rest ih =>
      rw [List.map_cons, List.mapM_cons, target.matches_dict, ih]
      rfl

/-- The answer to an inspection that finds the page as it is. -/
def inspected (site : Site) (page : PageState) (snapshot : Snapshot) :
    Except PyException StepResponse :=
  .ok {
    response := {
      status := .executed, decision := .allow, result := some (site.inspectResult page snapshot) }
    created := nofun }

section Revalidate

variable (platform : Platform) (site : Site) (page : PageState) (snapshot : Snapshot)
variable (step : WorkflowStep) (expect : WorkflowExpect) (rendered : Params)

/-- What a resume makes of the page. -/
theorem revalidate_inspected :
    revalidate platform step expect rendered (inspected site page snapshot) =
      match expect.kind with
      | .navigation =>
          let target := ((rendered.get "url_contains").or (.str "")).pyStr platform
          target != "" && textContains target page.tab.url
      | .tabOpened => decide (2 ≤ page.tabCount)
      | .elementDetached =>
          match step.target with
          | none => true
          | some target => !(site.inspectedElements page.tab snapshot).any target.describes := by
  unfold revalidate inspected
  cases expect.kind with
  | navigation =>
      simp [responseData, Site.inspectResult, Params.getOr, List.lookup_cons, Value.pyStr, pyInt?]
  | tabOpened =>
      simp [responseData, Site.inspectResult, Params.getOr, List.lookup_cons, pyInt?]
  | elementDetached =>
      cases step.target with
      | none =>
          simp [responseData, Site.inspectResult, Params.getOr, List.lookup_cons, pyInt?]
      | some target =>
          simp [responseData, Site.inspectResult, Params.getOr, List.lookup_cons, pyInt?, iterate,
            target.mapM_matches]

end Revalidate

/-! ## Agreement -/

theorem render_kind {platform : Platform} {params : Params} {path : String} (kind : ExpectKind) :
    render platform params false path (.str kind.value) = .ok (.str kind.value) := by
  have plain : hasPlaceholder kind.value.toList = false := by cases kind <;> decide
  unfold render renderText
  simp [plain, Except.map]

theorem render_text {platform : Platform} {params : Params} {path : String}
    {text : Option String} {rendered : Value}
    (renders : render platform params false path ((text.map Value.str).getD .none) =
      .ok rendered) :
    rendered = .none ∨ ∃ needle, rendered = .str needle := by
  cases text with
  | none =>
      cases renders
      exact .inl rfl
  | some text =>
      unfold render at renders
      obtain ⟨needle, _, rfl⟩ := map_eq_ok_iff.mp renders
      exact .inr ⟨needle, rfl⟩

/-- The text of a kind has no placeholder, and that of a URL remains a text. -/
theorem renderStepExpect_ok {platform : Platform} {step : WorkflowStep} {expect : WorkflowExpect}
    {params rendered : Params} (declared : step.expect = some expect)
    (renders : renderStepExpect platform step params false = .ok (some rendered)) :
    ∃ urlContains : Value,
      rendered = [("kind", .str expect.kind.value), ("url_contains", urlContains)] ∧
        (urlContains = .none ∨ ∃ needle, urlContains = .str needle) := by
  unfold renderStepExpect at renders
  rw [declared] at renders
  obtain ⟨fields, fields_ok, some_eq⟩ := map_eq_ok_iff.mp renders
  obtain rfl := Option.some.inj some_eq
  unfold WorkflowExpect.modelDump at fields_ok
  obtain ⟨kind, kind_ok, fields_ok⟩ := bind_eq_ok_iff.mp fields_ok
  obtain ⟨others, others_ok, fields_eq⟩ := bind_eq_ok_iff.mp fields_ok
  obtain ⟨urlContains, url_ok, others_ok⟩ := bind_eq_ok_iff.mp others_ok
  rw [render_kind] at kind_ok
  cases kind_ok
  cases others_ok
  cases fields_eq
  exact ⟨urlContains, rfl, render_text url_ok⟩

section Agreement

variable (service : WorkflowService) (site : Site) (before after : PageState)
variable (acted : Interaction) (snapshot : Snapshot)

/-- The provider records the action as executed. -/
def ProviderAccepts (rendered : Params) : Prop :=
  verifyExpect service.platform rendered (site.interactionData before after acted) = .ok ()

/-- A resume that finds the page as the action has left it accepts the step. -/
def ResumeAccepts (run : WorkflowRun) (step : WorkflowStep) : Prop :=
  (postCondition service run
    { stepDef := some step, answer := inspected site after snapshot }).1 = true

/-- The page before the action and the listing after it say nothing that only one of the
checks looks at. -/
def WorkflowExpect.SameEvidence (expect : WorkflowExpect) (target : Option WorkflowTarget)
    (rendered : Params) : Prop :=
  match expect.kind with
  | .navigation =>
      (rendered.get "url_contains").truthy = true ∨ after.tab.url = before.tab.url
  | .tabOpened => after.tabCount = 1 ∨ before.tabCount < after.tabCount
  | .elementDetached =>
      match target with
      | none => site.elementStillAttached after.tab acted = false
      | some target => site.elementStillAttached after.tab acted = true ↔
          ∃ element ∈ site.inspectedElements after.tab snapshot, target.describes element = true

end Agreement

namespace Demo

def homeUrl : String := "https://a.example/"

def nextUrl : String := "https://a.example/next"

def nextLink : Descriptor :=
  { tag := "a", role := "link", name := "Next", path := [0], href := some nextUrl }

/-- A page with a link to another one. -/
def twoPages : Site :=
  { Providers.Demo.onePage with
    pages := fun url => if url = homeUrl then some "home" else if url = nextUrl then some "next"
      else none
    walkHtml := fun html _ => if html = "home" then [nextLink] else [] }

/-- The page is open, and an inspection has given a reference to its link. -/
def atHome : Transport :=
  transportAfter twoPages
    [.navigate "run" homeUrl "x", .inspect "run" 200 (fun _ => "token") fun _ => 0]

def followLink : BrowserOp := .click "run" (.elementRef "er_token") "y" 1

def homeState : PageState :=
  { tab := { tabId := newTabId "x" 1, url := homeUrl, html := "home" }
    title := "", tabCount := 1, hasTab := by decide }

def nextState : PageState :=
  { tab := { tabId := newTabId "x" 1, url := nextUrl, html := "next" }
    title := "", tabCount := 1, hasTab := by decide }

def followed : Interaction :=
  { frameId := "frame:main", path := [0], tag := "a", elementRef := some "er_token" }

/-- The link is to lead to any other page. -/
def leaves : WorkflowStep :=
  { id := "leave", action := "browser.click"
    target := some { role := some "link", name := some "Next" }
    expect := some { kind := .navigation } }

def leaving : WorkflowDefinition := { name := "leaving", steps := [leaves] }

def clicking : Config :=
  { Services.Demo.config with
    catalog := { specs := [
      { actionType := "browser.click", riskLevel := .mutating, capabilityDomain := "browser" }] } }

/-- The expectation as it is rendered. -/
def anyNavigation : Params := [("kind", .str "navigation"), ("url_contains", .none)]

end Demo

end Era.Workflows
