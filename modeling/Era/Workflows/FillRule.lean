import Mathlib.Data.List.DropRight
import Era.Services.ParamSchema
import Era.Services.System
import Era.Workflows.RenderedParams
import Era.Workflows.Validation

/-!
# Secrets in definitions

A step that fills a field refers to a secret or carries plain text for a field that is declared
to be no password field.  Validation looks at the domain of no reference, and takes a target
without an input type for one with another type than `password`.
-/

namespace Era.Workflows

open Era.Core Era.Security Era.Services Era.Lib

/-! ## The schema of `browser.fill` -/

/-- A property that is a string of bounded length. -/
def stringProperty (minLength : Option Int) (maxLength : Int) : Value :=
  .dict (("type", .str "string") ::
    (minLength.toList.map fun bound => ("minLength", .int bound)) ++
      [("maxLength", .int maxLength)])

/-- A parameter is given, and another is not. -/
def oneWithout (one other : String) : Value :=
  .dict [("required", .list [.str one]), ("not", .dict [("required", .list [.str other])])]

/-- Exactly one of two parameters is given. -/
def exactlyOne (first second : String) : Value :=
  .dict [("oneOf", .list [oneWithout first second, oneWithout second first])]

/-- The entry of `browser.fill` in `ACTION_PARAM_SCHEMAS`. -/
def fillSchema : Params :=
  [("type", .str "object"),
    ("properties", .dict [
      ("selector", stringProperty (some 1) 1000),
      ("element_ref", stringProperty (some 24) 128),
      ("text", stringProperty none 2000),
      ("value_ref", stringProperty (some 1) 256)]),
    ("required", .list []),
    ("allOf", .list [exactlyOne "selector" "element_ref", exactlyOne "text" "value_ref"]),
    ("additionalProperties", .bool false)]

/-- The specification of `browser.fill` in the catalog. -/
def fillSpec : ActionSpec :=
  { actionType := "browser.fill"
    riskLevel := .mutating
    capabilityDomain := "browser"
    secretFields := ["text"]
    paramSchema := some (.dict fillSchema) }

/-- The services check parameters by `validate_param_schema` and know `browser.fill` from the
catalog. -/
structure ChecksFills (config : Config) : Prop where
  schemaCheck : config.validateParamSchema = validateParamSchema config.platform
  spec : config.catalog.get "browser.fill" = some fillSpec

/-! ## The rule -/

/-- A reference to a secret of the browser domain. -/
def IsBrowserRef (text : String) : Prop := ∃ name, parseVaultRef text = some ("browser", name)

/-- A single placeholder, with blanks around it. -/
def IsSinglePlaceholder (text : String) : Prop :=
  ∃ name, Template.Parses holeAt (pyStrip text).toList [.hole name]

/-- A step that supplies its value by reference. -/
def SuppliesRef (step : WorkflowStep) : Prop :=
  ∃ text, step.params.lookup "value_ref" = some (.str text) ∧
    (IsBrowserRef text ∨ IsSinglePlaceholder text)

/-- A step that carries text for a field that is declared to be no password field. -/
def CarriesText (step : WorkflowStep) : Prop :=
  isPresent step.params "text" = true ∧
    ∃ target inputType, step.target = some target ∧ target.inputType = some inputType ∧
      inputType ≠ "password"

/-- No step that fills a field has a secret in plain text. -/
def SecretFree (definition : WorkflowDefinition) : Prop :=
  ∀ step ∈ definition.steps, step.action = "browser.fill" → SuppliesRef step ∨ CarriesText step

/-- What a definition must not have for the rule to hold. -/
structure FillsDeclared (definition : WorkflowDefinition) : Prop where
  domains : ∀ step ∈ definition.steps, step.action = "browser.fill" →
    ∀ text, step.params.lookup "value_ref" = some (.str text) →
      ∀ domain name, parseVaultRef text = some (domain, name) → domain = "browser"
  inputTypes : ∀ step ∈ definition.steps, step.action = "browser.fill" →
    step.params.contains "value_ref" = false →
      ∀ target, step.target = some target → target.inputType ≠ none

/-! ## References -/

theorem isSinglePlaceholder_iff (text : String) :
    IsSinglePlaceholder text ↔
      ((placeholder? (pyStrip text).toList).any fun found => found.2.isEmpty) = true := by
  constructor
  · rintro ⟨name, parses⟩
    generalize (pyStrip text).toList = chars at parses
    cases parses with
    | hole found more =>
        cases more
        obtain ⟨_, matched, found_eq⟩ := Option.map_eq_some_iff.mp found
        rw [matched, Option.any_some, (Prod.mk.inj found_eq).2]
        rfl
  · intro any
    obtain ⟨⟨chars, rest⟩, matched, rest_empty⟩ := (Option.any_eq_true _ _).mp any
    obtain rfl : rest = [] := List.isEmpty_iff.mp rest_empty
    exact ⟨String.ofList chars, .hole (Option.map_eq_some_iff.mpr ⟨_, matched, rfl⟩) .nil⟩

/-- A reference to the vault is no placeholder. -/
theorem not_isSinglePlaceholder {text : String} (is_ref : (parseVaultRef text).isSome = true) :
    ¬IsSinglePlaceholder text := by
  have starts : ∃ rest, text.toList = 'v' :: rest := by
    unfold parseVaultRef at is_ref
    split at is_ref
    next prefixed =>
      obtain ⟨rest, text_eq⟩ := List.isPrefixOf_iff_prefix.mp prefixed
      exact ⟨_, text_eq.symm⟩
    next => cases is_ref
  obtain ⟨rest, text_eq⟩ := starts
  have kept : ∃ tail, (pyStrip text).toList = 'v' :: tail := by
    unfold pyStrip
    rw [String.toList_ofList, text_eq, List.dropWhile_cons_of_neg (by decide)]
    have within := List.rdropWhile_prefix isPySpace ('v' :: rest)
    have not_all : List.rdropWhile isPySpace ('v' :: rest) ≠ [] := fun all =>
      absurd (List.rdropWhile_eq_nil_iff.mp all 'v' List.mem_cons_self) (by decide)
    obtain ⟨first, tail, stripped⟩ := List.exists_cons_of_ne_nil not_all
    rw [stripped, List.cons_prefix_cons] at within
    exact ⟨tail, within.1 ▸ stripped⟩
  obtain ⟨tail, stripped⟩ := kept
  rintro ⟨name, parses⟩
  rw [stripped] at parses
  cases parses with
  | hole found _ => cases found

/-! ## What is given stays given -/

section Presence

variable {platform : Platform} {params : Params} {lax : Bool} {path : String}

theorem render_typeName {value rendered : Value}
    (ok : render platform params lax path value = .ok rendered) :
    rendered.typeName = value.typeName := by
  cases value with
  | none | bool _ | int _ | float _ =>
      cases ok
      rfl
  | str _ | list _ | dict _ =>
      obtain ⟨_, _, rfl⟩ := map_eq_ok_iff.mp ok
      rfl

theorem renderFields_isPresent {fields rendered : Params}
    (ok : render.renderFields platform params lax path fields = .ok rendered) (key : String) :
    isPresent rendered key = isPresent fields key := by
  induction fields generalizing rendered with
  | nil =>
      cases ok
      rfl
  | cons field rest ih =>
      obtain ⟨own, item⟩ := field
      unfold render.renderFields at ok
      simp only [bind, bind_eq_ok_iff] at ok
      obtain ⟨result, item_ok, others, rest_ok, results_eq⟩ := ok
      cases results_eq
      have later := ih rest_ok
      unfold isPresent Params.get at later ⊢
      rw [List.lookup_cons, List.lookup_cons]
      split
      next => exact congrArg (· != "NoneType") (render_typeName item_ok)
      next => exact later

theorem injectTarget_isPresent {config : Config} {step : WorkflowStep} {rendered effective : Params}
    (ok : injectTarget config step rendered = .ok effective) {key : String}
    (different : key ≠ "element_ref") : isPresent effective key = isPresent rendered key := by
  unfold injectTarget at ok
  split at ok
  next =>
    cases ok
    rfl
  next =>
    simp only [bind, bind_eq_ok_iff] at ok
    obtain ⟨_, _, effective_eq⟩ := ok
    cases effective_eq
    unfold isPresent
    rw [Params.get_set_ne _ _ different]

end Presence

/-! ## Validated steps -/

section Validated

variable {config : Config} {step : WorkflowStep}

/-- What validation has checked of a step that fills a field. -/
structure FillChecked (step : WorkflowStep) : Prop where
  refOrText : step.params.contains "value_ref" = true ∧
      isVaultOrPlaceholder (step.params.get "value_ref") = true ∧
      step.params.contains "text" = false ∨
    step.params.contains "value_ref" = false ∧ step.target.isSome = true ∧
      (step.target.any fun target => target.inputType == some "password") = false
  oneValue : isPresent step.params "text" = !isPresent step.params "value_ref"

theorem matchesCondition_oneWithout (params : Params) (one other : String) :
    matchesCondition params (oneWithout one other) =
      (isPresent params one && !isPresent params other) := by
  have required (key : String) :
      matchesCondition.hasRequired params (.list [.str key]) = isPresent params key := by
    rw [matchesCondition.hasRequired, List.all_cons, List.all_nil, Bool.and_true]
  simp [oneWithout, matchesCondition, matchesCondition.meetsAnyOf, matchesCondition.meetsNegated,
    Params.getOr, required]

/-- Parameters under the schema of `browser.fill` have exactly one of two values. -/
theorem oneValue_of_schema {platform : Platform} {params : Params}
    (ok : validateParamSchema platform params (.dict fillSchema) = .ok ()) :
    isPresent params "text" = !isPresent params "value_ref" := by
  have branch := checkBranch_of_ok ok rfl (exactlyOne "text" "value_ref")
    (List.mem_cons_of_mem _ List.mem_cons_self)
  have one := meetsOneOf_of_branch branch rfl
  unfold meetsOneOf at one
  rw [List.filter_cons, List.filter_cons, List.filter_nil, matchesCondition_oneWithout,
    matchesCondition_oneWithout] at one
  revert one
  cases isPresent params "text" <;> cases isPresent params "value_ref" <;> decide

/-- What `validate_workflow_definition` has found of a valid step. -/
structure ValidStep (config : Config) (step : WorkflowStep) (spec : ActionSpec)
    (effective : Params) : Prop where
  spec_eq : config.catalog.get step.action = some spec
  rule : step.action = "browser.fill" → validateFill config step = .ok ()
  shape : validateShape config step spec effective = .ok ()
  given : ∀ key, key ≠ "element_ref" → isPresent effective key = isPresent step.params key

theorem validStep_of_ok (ok : validateStep config step = .ok ()) :
    ∃ spec effective, ValidStep config step spec effective := by
  unfold validateStep at ok
  dsimp only at ok
  split at ok
  next => cases ok
  next spec spec_eq =>
    obtain ⟨_, _, ok⟩ := bind_eq_ok_iff.mp ok
    have rest : (step.action = "browser.fill" → validateFill config step = .ok ()) ∧
        (do
          let rendered ← renderWorkflowParams config.platform step [] true
          let effective ← injectTarget config step rendered
          validateShape config step spec effective) = .ok () := by
      split at ok
      next =>
        obtain ⟨_, rule, rest⟩ := bind_eq_ok_iff.mp ok
        exact ⟨fun _ => rule, rest⟩
      next other => exact ⟨fun fills => absurd fills other, ok⟩
    obtain ⟨rule, rest⟩ := rest
    obtain ⟨rendered, rendered_ok, rest⟩ := bind_eq_ok_iff.mp rest
    obtain ⟨effective, effective_ok, shape⟩ := bind_eq_ok_iff.mp rest
    refine ⟨spec, effective, spec_eq, rule, shape, fun key different => ?_⟩
    rw [injectTarget_isPresent effective_ok different, renderFields_isPresent rendered_ok]

theorem refOrText_of_rule (ok : validateFill config step = .ok ()) :
    step.params.contains "value_ref" = true ∧
        isVaultOrPlaceholder (step.params.get "value_ref") = true ∧
        step.params.contains "text" = false ∨
      step.params.contains "value_ref" = false ∧ step.target.isSome = true ∧
        (step.target.any fun target => target.inputType == some "password") = false := by
  unfold validateFill at ok
  obtain ⟨_, password, ok⟩ := bind_eq_ok_iff.mp ok
  obtain ⟨_, target, ok⟩ := bind_eq_ok_iff.mp ok
  obtain ⟨_, reference, text⟩ := bind_eq_ok_iff.mp ok
  rw [require_eq_ok_iff] at password target reference text
  cases has_ref : step.params.contains "value_ref" with
  | true =>
      rw [has_ref] at reference text
      exact .inl ⟨rfl, by simpa using reference, by simpa using text⟩
  | false =>
      rw [has_ref] at password target
      exact .inr ⟨rfl, by simpa using target, by simpa using password⟩

/-- A step that fills a field is validated by the rule and by the schema. -/
theorem ChecksFills.fillChecked (checks : ChecksFills config) (fills : step.action = "browser.fill")
    (ok : validateStep config step = .ok ()) : FillChecked step := by
  obtain ⟨spec, effective, valid⟩ := validStep_of_ok ok
  refine ⟨refOrText_of_rule (valid.rule fills), ?_⟩
  have spec_eq := valid.spec_eq
  rw [fills, checks.spec] at spec_eq
  obtain rfl := Option.some.inj spec_eq
  have schema_ok : validateParamSchema config.platform effective (.dict fillSchema) = .ok () := by
    have shape := valid.shape
    unfold validateShape at shape
    rw [checks.schemaCheck] at shape
    dsimp only at shape
    split at shape
    next => cases shape
    next => cases shape
    next =>
      rw [show fillSpec.paramSchema = some (.dict fillSchema) from rfl] at shape
      dsimp only at shape
      split at shape
      next => cases shape
      next => cases shape
      next ok => exact ok
  have one := oneValue_of_schema schema_ok
  rwa [valid.given _ (by decide), valid.given _ (by decide)] at one

theorem validateStep_of_steps {seen : List String} {steps : List WorkflowStep}
    (ok : validateSteps config seen steps = .ok ()) : ∀ step ∈ steps,
      validateStep config step = .ok () := by
  induction steps generalizing seen with
  | nil =>
      intro step member
      cases member
  | cons first rest ih =>
      obtain ⟨_, _, ok⟩ := bind_eq_ok_iff.mp ok
      obtain ⟨_, first_ok, rest_ok⟩ := bind_eq_ok_iff.mp ok
      exact List.forall_mem_cons.mpr ⟨first_ok, ih rest_ok⟩

variable {definition : WorkflowDefinition}

/-- Every step of a valid definition that fills a field has been checked. -/
theorem ChecksFills.checked (checks : ChecksFills config) {maxSteps : Int}
    (accepted : validateWorkflowDefinition config maxSteps definition = .ok ())
    (member : step ∈ definition.steps) (fills : step.action = "browser.fill") :
    FillChecked step := by
  unfold validateWorkflowDefinition at accepted
  obtain ⟨_, _, accepted⟩ := bind_eq_ok_iff.mp accepted
  obtain ⟨_, _, accepted⟩ := bind_eq_ok_iff.mp accepted
  obtain ⟨_, _, accepted⟩ := bind_eq_ok_iff.mp accepted
  obtain ⟨_, steps_ok, _⟩ := bind_eq_ok_iff.mp accepted
  exact checks.fillChecked fills (validateStep_of_steps steps_ok step member)

/-- A checked reference is a string that refers to the vault or is a placeholder. -/
theorem FillChecked.ref (checked : FillChecked step)
    (has_ref : step.params.contains "value_ref" = true) :
    ∃ text, step.params.lookup "value_ref" = some (.str text) ∧
      ((parseVaultRef text).isSome = true ∨ IsSinglePlaceholder text) := by
  obtain ⟨_, valid, _⟩ | ⟨no_ref, _⟩ := checked.refOrText
  · unfold Params.contains at has_ref
    obtain ⟨value, found⟩ := Option.isSome_iff_exists.mp has_ref
    rw [Params.get, found, Option.getD_some] at valid
    cases value with
    | str text =>
        unfold isVaultOrPlaceholder at valid
        rw [Bool.and_eq_true, Bool.or_eq_true] at valid
        exact ⟨text, found, valid.2.imp_right (isSinglePlaceholder_iff text).mpr⟩
    | none | bool _ | int _ | float _ | list _ | dict _ => cases valid
  · rw [has_ref] at no_ref
    cases no_ref

theorem not_isPresent_of_absent {params : Params} {key : String}
    (absent : params.contains key = false) : isPresent params key = false := by
  unfold Params.contains at absent
  unfold isPresent Params.get
  rw [Option.isNone_iff_eq_none.mp (Option.isSome_eq_false_iff.mp absent)]
  rfl

end Validated

/-- In a valid definition no step has a secret in plain text if and only if the references of its
steps are of the browser domain and the input types of its targets are declared. -/
theorem secretFree_iff (config : Config) (checks : ChecksFills config) (maxSteps : Int)
    (definition : WorkflowDefinition)
    (accepted : validateWorkflowDefinition config maxSteps definition = .ok ()) :
    SecretFree definition ↔ FillsDeclared definition := by
  constructor
  · intro secret_free
    constructor
    · intro step member fills text found domain name parsed
      obtain ⟨other, other_found, browser | placeholder⟩ | ⟨has_text, _⟩ :=
        secret_free step member fills
      · rw [found] at other_found
        obtain rfl := Value.str.inj (Option.some.inj other_found)
        obtain ⟨_, browser_parsed⟩ := browser
        rw [parsed] at browser_parsed
        exact (Prod.mk.inj (Option.some.inj browser_parsed)).1
      · rw [found] at other_found
        obtain rfl := Value.str.inj (Option.some.inj other_found)
        exact absurd placeholder (not_isSinglePlaceholder (by rw [parsed]; rfl))
      · have one := (checks.checked accepted member fills).oneValue
        rw [has_text, isPresent, Params.get, found] at one
        cases one
    · intro step member fills no_ref target target_eq
      obtain ⟨_, found, _⟩ | ⟨_, other, inputType, other_eq, declared, _⟩ :=
        secret_free step member fills
      · rw [Params.contains, found] at no_ref
        cases no_ref
      · rw [target_eq] at other_eq
        obtain rfl := Option.some.inj other_eq
        rw [declared]
        rintro ⟨⟩
  · intro declared step member fills
    have checked := checks.checked accepted member fills
    cases has_ref : step.params.contains "value_ref" with
    | true =>
        left
        obtain ⟨text, found, is_ref | placeholder⟩ := checked.ref has_ref
        · obtain ⟨⟨domain, name⟩, parsed⟩ := Option.isSome_iff_exists.mp is_ref
          obtain rfl := declared.domains step member fills text found domain name parsed
          exact ⟨text, found, .inl ⟨name, parsed⟩⟩
        · exact ⟨text, found, .inr placeholder⟩
    | false =>
        right
        obtain ⟨contradiction, _⟩ | ⟨_, has_target, no_password⟩ := checked.refOrText
        · rw [has_ref] at contradiction
          cases contradiction
        · obtain ⟨target, target_eq⟩ := Option.isSome_iff_exists.mp has_target
          have input_type := declared.inputTypes step member fills has_ref target target_eq
          obtain ⟨inputType, type_eq⟩ := Option.ne_none_iff_exists'.mp input_type
          refine ⟨?_, target, inputType, target_eq, type_eq, ?_⟩
          · rw [checked.oneValue, not_isPresent_of_absent has_ref, Bool.not_false]
          · rintro rfl
            rw [target_eq, Option.any_some, type_eq] at no_password
            cases no_password

namespace Demo

/-- The services with the schema of `browser.fill`. -/
def fillConfig : Config :=
  { Services.Demo.config with
    catalog := { specs := [fillSpec] }
    validateParamSchema := validateParamSchema Services.Demo.platform }

theorem fillConfig_checks : ChecksFills fillConfig := ⟨rfl, rfl⟩

/-- One step that fills a field. -/
def filling (inputType : Option String) (params : Params) : WorkflowDefinition :=
  { name := "login"
    steps := [{
      id := "secret", action := "browser.fill", params
      target := some { role := some "textbox", inputType } }] }

end Demo

/-- A reference to the vault. -/
theorem secretFree_demo :
    SecretFree (Demo.filling none [("value_ref", .str "vault:browser/site")]) ↔
      FillsDeclared (Demo.filling none [("value_ref", .str "vault:browser/site")]) :=
  secretFree_iff Demo.fillConfig Demo.fillConfig_checks 50
    (Demo.filling none [("value_ref", .str "vault:browser/site")]) (by decide +kernel)

/-- Plain text for a field of an undeclared type is accepted. -/
theorem not_secretFree :
    validateWorkflowDefinition Demo.fillConfig 50 (Demo.filling none [("text", .str "hunter2")]) =
        .ok () ∧
      ¬SecretFree (Demo.filling none [("text", .str "hunter2")]) := by
  refine ⟨by decide +kernel, fun secret_free => ?_⟩
  obtain ⟨_, found, _⟩ | ⟨_, target, _, target_eq, declared, _⟩ :=
    secret_free _ List.mem_cons_self rfl
  · cases found
  · cases target_eq
    cases declared

end Era.Workflows
