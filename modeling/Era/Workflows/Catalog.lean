import Era.Security.CanonicalJson
import Era.Workflows.Validation

/-!
# Registered workflows and published templates

The catalog holds one validated definition for each name and refuses another one under the
same name.  The template store keeps every published version of a name.  Both identify a
definition by a checksum of its canonical JSON.
-/

namespace Era.Workflows

open Era.Core Era.Security Era.Services

/-! ## Serialised definitions -/

def optionalStr (text : Option String) : Value := (text.map Value.str).getD .none

def WorkflowTarget.modelDump (target : WorkflowTarget) : Params :=
  [("role", optionalStr target.role), ("name", optionalStr target.name),
    ("tag", optionalStr target.tag), ("input_type", optionalStr target.inputType),
    ("frame_id", optionalStr target.frameId),
    ("index", (target.index.map fun index => Value.int index).getD .none)]

def ConditionKind.value : ConditionKind → String
  | .stepResult => "step_result"
  | .urlContains => "url_contains"
  | .elementPresent => "element_present"

def ConditionOp.value : ConditionOp → String
  | .eq => "=="
  | .ne => "!="

def WorkflowCondition.modelDump (condition : WorkflowCondition) : Params :=
  [("kind", .str condition.kind.value), ("step_id", optionalStr condition.stepId),
    ("op", optionalStr (condition.op.map ConditionOp.value)), ("value", condition.value)]

def WorkflowParallelBlock.modelDump (block : WorkflowParallelBlock) : Params :=
  [("steps", .list (block.steps.map .str)), ("depends_on", .list (block.dependsOn.map .str)),
    ("max_concurrency", .int block.maxConcurrency)]

def OnDenied.value : OnDenied → String
  | .stop => "stop"
  | .skip => "skip"

def WorkflowStep.modelDump (step : WorkflowStep) : Params :=
  [("id", .str step.id), ("action", .str step.action), ("params", .dict step.params),
    ("target", (step.target.map fun target => Value.dict target.modelDump).getD .none),
    ("expect", (step.expect.map fun expect => Value.dict expect.modelDump).getD .none),
    ("on_denied", .str step.onDenied.value), ("description", optionalStr step.description),
    ("outputs", .dict (step.outputs.map fun output => (output.1, .str output.2))),
    ("depends_on", .list (step.dependsOn.map .str)),
    ("condition",
      (step.condition.map fun condition => Value.dict condition.modelDump).getD .none)]

/-- `model_dump(mode="json")`. -/
def WorkflowDefinition.modelDump (definition : WorkflowDefinition) : Params :=
  [("name", .str definition.name), ("version", .int definition.version),
    ("description", optionalStr definition.description),
    ("params_schema", .dict definition.paramsSchema),
    ("steps", .list (definition.steps.map fun step => .dict step.modelDump)),
    ("parallel", .list (definition.parallel.map fun block => .dict block.modelDump))]

/-- `WorkflowCatalog.checksum`. -/
def checksum (platform : Platform) (definition : WorkflowDefinition) : String :=
  platform.sha256Hex (String.ofList (canonicalJson platform (.dict definition.modelDump)))

/-- A definition under another version number. -/
def WorkflowDefinition.atVersion (definition : WorkflowDefinition) (version : Int) :
    WorkflowDefinition :=
  { definition with version }

/-! ## The catalog -/

/-- The definitions of `WorkflowCatalog`. -/
abbrev Definitions := String → Option WorkflowDefinition

section Catalog

variable (config : Config)

/-- `WorkflowCatalog.register`. -/
def register (maxSteps : Int) (definitions : Definitions) (definition : WorkflowDefinition) :
    Except WorkflowError Definitions := do
  validateWorkflowDefinition config maxSteps definition
  match definitions definition.name with
  | some existing =>
      require (checksum config.platform existing == checksum config.platform definition)
        ("workflow " ++ config.platform.reprString definition.name ++
          " is already registered with a different definition")
  | none => pure ()
  return Function.update definitions definition.name (some definition)

/-- A definition that `validate_workflow_definition` accepts under some bound of its steps. -/
def Validated (definition : WorkflowDefinition) : Prop :=
  ∃ maxSteps, validateWorkflowDefinition config maxSteps definition = .ok ()

end Catalog

/-! ## Templates -/

/-- A row of `workflow_template`. -/
structure WorkflowTemplate where
  name : String
  version : Int
  definition : WorkflowDefinition
  paramsSchema : Params
  checksum : String

/-- `WorkflowTemplateService.get`. -/
def getTemplate (templates : List WorkflowTemplate) (name : String) (version : Int) :
    Option WorkflowTemplate :=
  templates.find? fun template => template.name == name && template.version == version

/-- `WorkflowTemplateService.get_latest`: the row of the highest version. -/
def getLatest (name : String) : List WorkflowTemplate → Option WorkflowTemplate
  | [] => none
  | template :: rest =>
      let latest := getLatest name rest
      if template.name = name ∧ latest.all fun other => decide (other.version ≤ template.version)
        then some template
      else latest

/-- `WorkflowTemplateService.publish`: the rows, and the one that is returned. -/
def publish (platform : Platform) (templates : List WorkflowTemplate)
    (definition : WorkflowDefinition) : List WorkflowTemplate × WorkflowTemplate :=
  let latest := getLatest definition.name templates
  let created : WorkflowTemplate :=
    { name := definition.name
      version := (latest.map fun template => template.version + 1).getD 1
      definition
      paramsSchema := definition.paramsSchema
      checksum := checksum platform definition }
  match latest.filter fun template => template.checksum == checksum platform definition with
  | some template => (templates, template)
  | none => (templates ++ [created], created)

/-- The definition that `instantiate` returns: the published one, pinned to its version. -/
def WorkflowTemplate.pinned (template : WorkflowTemplate) : WorkflowDefinition :=
  template.definition.atVersion template.version

def templateError {α : Type} (message : String) : Except WorkflowError α :=
  .error (.exception "WorkflowTemplateError" message)

/-- `WorkflowTemplateService.instantiate`. -/
def instantiate (config : Config) (templates : List WorkflowTemplate) (name : String)
    (params : Params) (version : Option Int) : Except WorkflowError WorkflowDefinition := do
  let template ← match version with
    | some version =>
        match getTemplate templates name version with
        | some template => .ok template
        | none => templateError ("unknown template version: " ++ name ++ "@" ++ toString version)
    | none =>
        match getLatest name templates with
        | some template => .ok template
        | none => templateError ("unknown template: " ++ config.platform.reprString name)
  match validateParams config.platform.floatRepr params "" with
  | .error (.validationError message) => throw (.exception "ValidationError_" message)
  | .error (.valueError message) => throw (.exception "ValueError" message)
  | .ok () => pure ()
  match config.validateParamSchema params (.dict template.paramsSchema) with
  | .error (.validationError message) => throw (.exception "ValidationError_" message)
  | .error (.exception message) => throw (.exception "Exception" message)
  | .ok () => pure ()
  if checksum config.platform template.definition ≠ template.checksum then
    templateError "template definition drifted from published checksum (fail closed)"
  return template.pinned

/-! ## Checksums -/

/-- Definitions that are equal as JSON documents. -/
def SameDefinition (platform : Platform) (left right : WorkflowDefinition) : Prop :=
  canonicalJson platform (.dict left.modelDump) = canonicalJson platform (.dict right.modelDump)

theorem SameDefinition.checksum_eq {platform : Platform} {left right : WorkflowDefinition}
    (same : SameDefinition platform left right) :
    checksum platform left = checksum platform right := by
  unfold checksum
  rw [same]

theorem sameDefinition_of_checksum {platform : Platform} (collisionFree : platform.CollisionFree)
    {left right : WorkflowDefinition}
    (equal : checksum platform left = checksum platform right) :
    SameDefinition platform left right :=
  String.ofList_injective (collisionFree equal)

theorem suffix_commaSeparated {items : List (List Char)} {last : List Char}
    (is_last : items.getLast? = some last) : last <:+ commaSeparated items := by
  induction items with
  | nil => cases is_last
  | cons item rest ih =>
      cases rest with
      | nil =>
          rw [List.getLast?_singleton] at is_last
          rw [Option.some.inj is_last]
          exact List.suffix_rfl
      | cons next rest =>
          rw [List.getLast?_cons_cons] at is_last
          exact (ih is_last).trans ((List.suffix_cons ..).trans (List.suffix_append ..))

/-- An object ends with its last field. -/
theorem object_ends {items : List (List Char)} {key value : List Char}
    (is_last : items.getLast? = some (key ++ ':' :: value)) :
    ∃ before, '{' :: (commaSeparated items ++ ['}']) =
      before ++ ':' :: (value ++ ['}']) := by
  obtain ⟨before, text⟩ := suffix_commaSeparated is_last
  rw [← text]
  exact ⟨'{' :: (before ++ key), by simp⟩

/-- The canonical JSON of a definition ends with its version. -/
theorem canonicalJson_modelDump (platform : Platform) (definition : WorkflowDefinition) :
    ∃ before, canonicalJson platform (.dict definition.modelDump) =
      before ++ ':' :: ((toString definition.version).toList ++ ['}']) := by
  have sorted : ∀ name version description schema steps parallel : List Char,
      sortedByKey [("name", name), ("version", version), ("description", description),
        ("params_schema", schema), ("steps", steps), ("parallel", parallel)] =
        [("description", description), ("name", name), ("parallel", parallel),
          ("params_schema", schema), ("steps", steps), ("version", version)] := by
    intro name version description schema steps parallel
    simp [sortedByKey, List.insertionSort, List.orderedInsert]
  simp only [canonicalJson, WorkflowDefinition.modelDump, canonicalJson.renderFields,
    renderObject, sorted, List.map_cons, List.map_nil]
  exact object_ends rfl

/-- Definitions that are the same have the same version. -/
theorem SameDefinition.version_eq {platform : Platform} {left right : WorkflowDefinition}
    (same : SameDefinition platform left right) : left.version = right.version := by
  have colon_free (number : Int) : ':' ∉ (toString number).toList ++ ['}'] := by
    intro member
    obtain digit | brace := List.mem_append.mp member
    · have number_char := (numberText_integerText (integerText_toString number)).1 _ digit
      revert number_char
      decide
    · revert brace
      decide
  obtain ⟨before, left_eq⟩ := canonicalJson_modelDump platform left
  obtain ⟨after, right_eq⟩ := canonicalJson_modelDump platform right
  unfold SameDefinition at same
  rw [left_eq, right_eq] at same
  have equal := eq_of_append_cons_eq same (colon_free _) (colon_free _)
  exact toString_inj (List.append_cancel_right equal)

/-! ## What the stores hold -/

section Stores

variable {config : Config}

/-- What a successful `register` has checked and written. -/
theorem register_ok {maxSteps : Int} {definitions after : Definitions}
    {definition : WorkflowDefinition}
    (registered : register config maxSteps definitions definition = .ok after) :
    validateWorkflowDefinition config maxSteps definition = .ok () ∧
      (∀ existing, definitions definition.name = some existing →
        checksum config.platform existing = checksum config.platform definition) ∧
      after = Function.update definitions definition.name (some definition) := by
  unfold register at registered
  simp only [bind, Except.bind, pure, Except.pure] at registered
  split at registered
  next => cases registered
  next valid =>
    refine ⟨valid, ?_⟩
    cases found : definitions definition.name with
    | none =>
        rw [found] at registered
        exact ⟨nofun, (Except.ok.inj registered).symm⟩
    | some existing =>
        rw [found] at registered
        dsimp only at registered
        split at registered
        next => cases registered
        next checked =>
          refine ⟨?_, (Except.ok.inj registered).symm⟩
          rintro _ ⟨⟩
          unfold require at checked
          split at checked
          next equal => exact beq_iff_eq.mp equal
          next => cases checked

theorem getLatest_eq_none {name : String} {templates : List WorkflowTemplate}
    (absent : getLatest name templates = none) {template : WorkflowTemplate}
    (member : template ∈ templates) : template.name ≠ name := by
  induction templates with
  | nil => cases member
  | cons first rest ih =>
      unfold getLatest at absent
      dsimp only at absent
      split at absent
      next => cases absent
      next not_first =>
        rw [absent, Option.all_none, eq_self, and_true] at not_first
        obtain rfl | later := List.mem_cons.mp member
        · exact not_first
        · exact ih absent later

/-- The latest version is the highest one. -/
theorem getLatest_eq_some {name : String} {templates : List WorkflowTemplate}
    {latest : WorkflowTemplate} (found : getLatest name templates = some latest) :
    latest ∈ templates ∧ latest.name = name ∧
      ∀ template ∈ templates, template.name = name → template.version ≤ latest.version := by
  induction templates generalizing latest with
  | nil => cases found
  | cons first rest ih =>
      unfold getLatest at found
      dsimp only at found
      split at found
      next highest =>
        obtain rfl := Option.some.inj found
        refine ⟨List.mem_cons_self, highest.1, ?_⟩
        intro template member named
        obtain rfl | later := List.mem_cons.mp member
        · exact le_refl _
        · cases at_rest : getLatest name rest with
          | none => exact absurd named (getLatest_eq_none at_rest later)
          | some other =>
              rw [at_rest, Option.all_some, decide_eq_true_eq] at highest
              have below := (ih at_rest).2.2 template later named
              exact le_trans below highest.2
      next not_first =>
        obtain ⟨member, named, highest⟩ := ih found
        refine ⟨List.mem_cons_of_mem _ member, named, ?_⟩
        intro template in_list same
        obtain rfl | later := List.mem_cons.mp in_list
        · rw [found, Option.all_some, decide_eq_true_eq, not_and, not_le] at not_first
          exact le_of_lt (not_first same)
        · exact highest template later same

/-- Every row holds what it was published with, under versions that grow with every row of a
name. -/
structure TemplatesSound (platform : Platform) (templates : List WorkflowTemplate) : Prop where
  named : ∀ template ∈ templates, template.definition.name = template.name
  checked : ∀ template ∈ templates, template.checksum = checksum platform template.definition
  positive : ∀ template ∈ templates, 1 ≤ template.version
  ordered : templates.Pairwise fun earlier later =>
    earlier.name = later.name → earlier.version < later.version

theorem templatesSound_nil (platform : Platform) : TemplatesSound platform [] :=
  ⟨nofun, nofun, nofun, .nil⟩

/-- Publishing adds at most one row. -/
theorem publish_cases (platform : Platform) (templates : List WorkflowTemplate)
    (definition : WorkflowDefinition) :
    (publish platform templates definition).1 = templates ∨
      (publish platform templates definition).1 = templates ++ [
        { name := definition.name
          version := ((getLatest definition.name templates).map
            fun template => template.version + 1).getD 1
          definition
          paramsSchema := definition.paramsSchema
          checksum := checksum platform definition }] := by
  unfold publish
  extract_lets latest created
  split
  next => exact .inl rfl
  next => exact .inr rfl

theorem TemplatesSound.publish {platform : Platform} {templates : List WorkflowTemplate}
    (sound : TemplatesSound platform templates) (definition : WorkflowDefinition) :
    TemplatesSound platform (publish platform templates definition).1 := by
  obtain same | added := publish_cases platform templates definition
  · rwa [same]
  rw [added]
  have version_pos : 1 ≤ ((getLatest definition.name templates).map
      fun template => template.version + 1).getD 1 := by
    cases found : getLatest definition.name templates with
    | none => exact le_refl _
    | some latest =>
        have positive := sound.positive latest (getLatest_eq_some found).1
        show 1 ≤ latest.version + 1
        omega
  refine ⟨?_, ?_, ?_, ?_⟩
  · intro template member
    obtain earlier | new := List.mem_append.mp member
    · exact sound.named template earlier
    · rw [List.mem_singleton.mp new]
  · intro template member
    obtain earlier | new := List.mem_append.mp member
    · exact sound.checked template earlier
    · rw [List.mem_singleton.mp new]
  · intro template member
    obtain earlier | new := List.mem_append.mp member
    · exact sound.positive template earlier
    · rw [List.mem_singleton.mp new]
      exact version_pos
  · rw [List.pairwise_append]
    refine ⟨sound.ordered, List.pairwise_singleton _ _, ?_⟩
    intro template member other new named
    rw [List.mem_singleton.mp new] at named ⊢
    cases found : getLatest definition.name templates with
    | none => exact absurd named (getLatest_eq_none found member)
    | some latest =>
        have below := (getLatest_eq_some found).2.2 template member named
        show template.version < latest.version + 1
        omega

/-- A published version is found under its name and number. -/
theorem TemplatesSound.getTemplate {platform : Platform} {templates : List WorkflowTemplate}
    (sound : TemplatesSound platform templates) {template : WorkflowTemplate}
    (member : template ∈ templates) :
    getTemplate templates template.name template.version = some template := by
  obtain ⟨before, after, rfl⟩ := List.append_of_mem member
  unfold Workflows.getTemplate
  rw [List.find?_append, List.find?_eq_none.mpr, Option.none_or, List.find?_cons_of_pos]
  · simp
  · intro earlier in_before
    have smaller := (List.pairwise_append.mp sound.ordered).2.2 earlier in_before template
      List.mem_cons_self
    simp only [Bool.and_eq_true, beq_iff_eq, not_and]
    intro same
    exact ne_of_lt (smaller same)

end Stores

end Era.Workflows
