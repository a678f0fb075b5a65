import Era.Workflows.Tracking

/-!
# The definition that a run executes

Whatever a step belongs to has the checksum that its run got at its start.  It has passed the
validation if every published definition has; it is the published version of a template
unless the lookup fails; and it has the version of the schedule if the catalog has.
-/

namespace Era.Workflows

open Era.Core Era.Lib Era.Security Era.Services

section Pinning

variable {operations : WorkflowOperations} {state : OperationsState}

/-- Where a definition that is looked up comes from. -/
theorem lookUp_eq_some {run : WorkflowRun} {definition : WorkflowDefinition}
    (found : lookUp operations state run = some definition) :
    checksum operations.config.platform definition = run.definitionChecksum ∧
      ((nonempty run.templateName && operations.templateService) = false ∧
          state.definitions run.workflowName = some definition ∨
        ∃ template, getTemplate state.templates (run.templateName.getD "")
            (templateVersionOr run.templateVersion) = some template ∧
          definition = template.definition) := by
  obtain ⟨found, same⟩ := Option.filter_eq_some_iff.mp found
  refine ⟨beq_iff_eq.mp same, ?_⟩
  unfold definitionForRun at found
  split at found
  next =>
    split at found
    next => cases found
    next template published =>
      split at found
      next => cases found
      next => exact .inr ⟨template, published, (Option.some.inj found).symm⟩
  next untemplated => exact .inl ⟨Bool.eq_false_iff.mpr untemplated, found⟩

theorem mem_of_getTemplate {templates : List WorkflowTemplate} {name : String} {version : Int}
    {template : WorkflowTemplate} (found : getTemplate templates name version = some template) :
    template ∈ templates ∧ template.name = name ∧ template.version = version := by
  have holds := List.find?_some found
  simp only [Bool.and_eq_true, beq_iff_eq] at holds
  exact ⟨List.mem_of_find?_eq_some found, holds.1, holds.2⟩

/-! ## Validation -/

/-- What is published passes the validation. -/
def PublishesValidated (operations : WorkflowOperations) (_ : OperationsState) :
    OperationsInput → Prop
  | .publish definition =>
      validateWorkflowDefinition operations.config operations.maxSteps definition = .ok ()
  | _ => True

instance (operations : WorkflowOperations) (state : OperationsState) (input : OperationsInput) :
    Decidable (PublishesValidated operations state input) := by
  unfold PublishesValidated
  split <;> infer_instance

/-- Every definition in the stores has passed the validation. -/
structure StoresValidated (operations : WorkflowOperations) (state : OperationsState) : Prop where
  definitions : ∀ name definition, state.definitions name = some definition →
    Validated operations.config definition
  templates : ∀ template ∈ state.templates, Validated operations.config template.definition

theorem StoresValidated.step (stores : StoresValidated operations state)
    {input : OperationsInput} (published : PublishesValidated operations state input) :
    StoresValidated operations (operationsStep operations state input).1 := by
  have change := operationsStep_change operations state input
  constructor
  · obtain same | ⟨maxSteps, definition, registered⟩ := change.definitions
    · rw [same]
      exact stores.definitions
    · obtain ⟨valid, _, after_eq⟩ := register_ok registered
      rw [after_eq]
      intro name found
      by_cases same : name = definition.name
      · rw [same, Function.update_self]
        rintro ⟨⟩
        exact ⟨maxSteps, valid⟩
      · rw [Function.update_of_ne same]
        exact stores.definitions name found
  · obtain same | ⟨definition, rfl, after_eq⟩ := change.templates
    · rw [same]
      exact stores.templates
    · rw [after_eq]
      obtain same | added :=
        publish_cases operations.config.platform state.templates definition
      · rw [same]
        exact stores.templates
      · rw [added]
        intro template member
        obtain earlier | new := List.mem_append.mp member
        · exact stores.templates template earlier
        · rw [List.mem_singleton.mp new]
          exact ⟨_, published⟩

theorem StoresValidated.lookUp (stores : StoresValidated operations state) {run : WorkflowRun}
    {definition : WorkflowDefinition} (found : lookUp operations state run = some definition) :
    Validated operations.config definition := by
  obtain ⟨_, ⟨_, registered⟩ | ⟨template, published, rfl⟩⟩ := lookUp_eq_some found
  · exact stores.definitions _ _ registered
  · exact stores.templates template (mem_of_getTemplate published).1

/-- A definition that a call works with has the checksum of the run. -/
def HasChecksum (operations : WorkflowOperations) (_ : Origin) (definition : WorkflowDefinition)
    (run : WorkflowRun) : Prop :=
  checksum operations.config.platform definition = run.definitionChecksum

/-- Every step that is dispatched belongs to a definition with the checksum that the run got
when it was started, which is that of the definition that `start` had resolved. -/
def DispatchesOwn (operations : WorkflowOperations) (state : OperationsState)
    (input : OperationsInput) : Prop :=
  ∀ key definition index action,
    .dispatched key definition index action ∈ (operationsStep operations state input).2 →
    index < definition.steps.length ∧
      ∃ run origin, (state.runs key).engine.store.run = some run ∧
        (state.runs key).origin = some origin ∧
        run.definitionChecksum = checksum operations.config.platform origin.definition ∧
        checksum operations.config.platform definition = run.definitionChecksum

/-- Every step that is dispatched belongs to a definition that has passed the validation. -/
def DispatchesValidated (operations : WorkflowOperations) (state : OperationsState)
    (input : OperationsInput) : Prop :=
  ∀ key definition index action,
    .dispatched key definition index action ∈ (operationsStep operations state input).2 →
    Validated operations.config definition

/-- A definition that a call works with has passed the validation. -/
def HasPassed (operations : WorkflowOperations) (_ : Origin) (definition : WorkflowDefinition)
    (_ : WorkflowRun) : Prop :=
  Validated operations.config definition

/-- What is looked up for a stored run concerns its origin. -/
theorem AllTracked.goodLookUps {looked : Origin → WorkflowDefinition → WorkflowRun → Prop}
    (all : AllTracked operations state looked) {input : OperationsInput}
    (good : ∀ key run origin definition, (state.runs key).engine.store.run = some run →
      (state.runs key).origin = some origin →
      CreatedFrom operations.service origin.definition origin.request run →
      lookUp operations state run = some definition → looked origin definition run.identity) :
    GoodLookUps operations looked state input := by
  unfold GoodLookUps
  split
  next key caller reading =>
    intro _ run definition stored found
    obtain ⟨origin, has_origin, from_origin⟩ := (all key).created run stored
    exact ⟨origin, has_origin, good key run origin definition stored has_origin from_origin found⟩
  next => trivial

theorem allTracked_initial (operations : WorkflowOperations)
    (looked : Origin → WorkflowDefinition → WorkflowRun → Prop) :
    AllTracked operations {} looked :=
  fun _ => trackedSound_initial operations looked

theorem AllTracked.checksum_step (all : AllTracked operations state (HasChecksum operations))
    (input : OperationsInput) :
    AllTracked operations (operationsStep operations state input).1 (HasChecksum operations) :=
  all.step (all.goodLookUps fun _ _ _ _ _ _ _ found => (lookUp_eq_some found).1)

theorem AllTracked.dispatchesOwn (all : AllTracked operations state (HasChecksum operations))
    (input : OperationsInput) : DispatchesOwn operations state input := by
  intro key definition index action shown
  obtain ⟨caller, reading, step, dispatched⟩ := dispatchedBy_of_mem shown
  obtain ⟨run, origin, stored, has_origin, from_origin, same⟩ := all.dispatched dispatched
  have in_range := (List.getElem?_eq_some_iff.mp dispatched.step_eq).1
  exact ⟨in_range, run, origin, stored, has_origin, from_origin.definitionChecksum, same⟩

variable (operations)

/-- Only steps of the definition that a run was started with are dispatched, and if only valid
definitions are published, only steps of valid definitions. -/
theorem dispatches_validated (inputs : List OperationsInput) :
    (workflows operations).Admits (DispatchesOwn operations) {} inputs ∧
      ((workflows operations).Admits (PublishesValidated operations) {} inputs →
        (workflows operations).Admits (DispatchesValidated operations) {} inputs) := by
  constructor
  · have anything : (workflows operations).Admits (fun _ _ => True) {} inputs :=
      fun _ _ _ _ => trivial
    refine Machine.Admits.of_invariant
      (motive := fun state => AllTracked operations state (HasChecksum operations))
      (allTracked_initial operations _) ?_ ?_ anything
    · exact fun _ input all _ => all.checksum_step input
    · exact fun _ input all _ => all.dispatchesOwn input
  · intro published
    refine Machine.Admits.of_invariant
      (motive := fun state => StoresValidated operations state ∧
        AllTracked operations state (HasPassed operations))
      ⟨⟨nofun, nofun⟩, allTracked_initial operations _⟩ ?_ ?_ published
    · rintro state input ⟨stores, all⟩ valid
      exact ⟨stores.step valid, all.step (all.goodLookUps
        fun _ _ _ _ _ _ _ found => stores.lookUp found)⟩
    · rintro state input ⟨_, all⟩ _ key definition index action shown
      obtain ⟨caller, reading, step, dispatched⟩ := dispatchedBy_of_mem shown
      obtain ⟨_, _, _, _, _, passed⟩ := all.dispatched dispatched
      exact passed

variable {operations}

/-- A valid definition has valid steps. -/
theorem Validated.validateSteps {config : Config} {definition : WorkflowDefinition}
    (validated : Validated config definition) :
    validateSteps config [] definition.steps = .ok () := by
  obtain ⟨maxSteps, valid⟩ := validated
  unfold validateWorkflowDefinition at valid
  simp only [bind, Except.bind] at valid
  repeat' split at valid
  all_goals first | cases valid | assumption

end Pinning

namespace Demo

/-- A template is published, and its run is started through the template fallback. -/
def publishedRun (step : WorkflowStep) : List OperationsInput :=
  [.publish (single "login" step),
    startRun 0 "token" (.named "login")
      { runId := "run", params := [], templateName := some "login" }] ++
    dispatchRun 0 "token"

/-- A password in plain text. -/
def plainFill : WorkflowStep :=
  { id := "password", action := "browser.fill", params := [("text", .str "hunter2")] }

def showsInvalid (config : Config) : OperationsEvent → Bool
  | .dispatched _ definition _ _ => !(Workflows.validateSteps config [] definition.steps).isOk
  | _ => false

end Demo

theorem exists_of_any_showsInvalid {config : Config} {events : List OperationsEvent}
    (any : events.any (Demo.showsInvalid config) = true) :
    ∃ key definition index action, .dispatched key definition index action ∈ events ∧
      validateSteps config [] definition.steps ≠ .ok () := by
  obtain ⟨event, member, invalid⟩ := List.any_eq_true.mp any
  cases event with
  | started => cases invalid
  | dispatched key definition index action =>
      refine ⟨key, definition, index, action, member, ?_⟩
      intro valid
      rw [Demo.showsInvalid, valid] at invalid
      cases invalid

theorem dispatches_validated_demo :
    (workflows Demo.operations).Admits (DispatchesValidated Demo.operations) {}
      (Demo.publishedRun (Demo.inspect "look")) :=
  (dispatches_validated Demo.operations _).2 (by decide +kernel)

/-- A template that fails the validation is published, and its step is dispatched. -/
theorem not_dispatches_validated :
    ¬∀ inputs, (workflows Demo.operations).Admits (DispatchesValidated Demo.operations) {}
      inputs := by
  intro all
  have dispatched : ((operationsStep Demo.operations
      ((workflows Demo.operations).stateAfter {} (Demo.publishedRun Demo.plainFill).dropLast)
      (.run ("alice", "token") (.work 0 0 Demo.executed))).2.any
        (Demo.showsInvalid Demo.operations.config)) = true := by
    decide +kernel
  obtain ⟨key, definition, index, action, shown, invalid⟩ :=
    exists_of_any_showsInvalid dispatched
  have validated := all (Demo.publishedRun Demo.plainFill)
    (Demo.publishedRun Demo.plainFill).dropLast _ [] rfl key definition index action shown
  exact invalid validated.validateSteps

end Era.Workflows
