import Era.Services.ParamSchema
import Era.Services.System

/-!
# What conforms to a schema

A schema describes a value at every depth: the value itself, the items of an array, and the
parameters of an object.  `validate_param_schema` looks at parameters and at nothing inside them.
-/

namespace Era.Services

open Era.Core

/-! ## The meaning of the keywords -/

/-- The types of JSON Schema; a boolean is no number. -/
inductive IsOfType : Value → String → Prop where
  | string (text : String) : IsOfType (.str text) "string"
  | integer (value : Int) : IsOfType (.int value) "integer"
  | whole (value : Int) : IsOfType (.int value) "number"
  | number (value : PyFloat) : IsOfType (.float value) "number"
  | boolean (value : Bool) : IsOfType (.bool value) "boolean"
  | array (items : List Value) : IsOfType (.list items) "array"
  | object (fields : Params) : IsOfType (.dict fields) "object"

/-- The keyword `type` is a type, or a list of types of which one is enough. -/
def IsOfSomeType (value keyword : Value) : Prop :=
  (∃ expected, keyword = .str expected ∧ IsOfType value expected) ∨
    ∃ candidates, keyword = .list candidates ∧
      ∃ expected, .str expected ∈ candidates ∧ IsOfType value expected

/-- The number that a value is; a boolean is none. -/
def numberOf : Value → Option PyFloat
  | .int value => some (.finite value)
  | .float value => some value
  | _ => none

/-- The keywords that speak of a value itself. -/
structure MeetsOwn (schema : Params) (value : Value) : Prop where
  type : ∀ keyword, schema.lookup "type" = some keyword → IsOfSomeType value keyword
  enum : ∀ allowed, schema.lookup "enum" = some (.list allowed) → value ∈ allowed
  minItems : ∀ limit items, schema.lookup "minItems" = some (.int limit) →
    value = .list items → limit ≤ items.length
  maxItems : ∀ limit items, schema.lookup "maxItems" = some (.int limit) →
    value = .list items → items.length ≤ limit
  minLength : ∀ limit text, schema.lookup "minLength" = some (.int limit) →
    value = .str text → limit ≤ text.length
  maxLength : ∀ limit text, schema.lookup "maxLength" = some (.int limit) →
    value = .str text → text.length ≤ limit
  minimum : ∀ limit number, schema.lookup "minimum" = some (.int limit) →
    numberOf value = some number → number.lt (.finite limit) = false
  maximum : ∀ limit number, schema.lookup "maximum" = some (.int limit) →
    numberOf value = some number → (PyFloat.finite limit).lt number = false

/-- A required parameter is given, under its name or an alias. -/
def IsGiven (params : Params) (key : String) : Prop :=
  isPresent params key = true ∨ ∃ other ∈ paramAliases key, isPresent params other = true

/-- Exactly one of several conditions is met. -/
def MeetsOne (params : Params) (conditions : List Value) : Prop :=
  conditions.countP (matchesCondition params) = 1

/-- A branch of `allOf`: a condition, and the conditions of which exactly one is to be met. -/
def MeetsBranch (params branch : Params) : Prop :=
  matchesCondition params (.dict branch) = true ∧
    ∀ nested, branch.lookup "oneOf" = some (.list nested) → MeetsOne params nested

/-- The keywords that speak of the names of parameters. -/
structure MeetsShape (schema params : Params) : Prop where
  required : ∀ keys key, schema.lookup "required" = some (.list keys) → .str key ∈ keys →
    IsGiven params key
  known : ∀ properties name value, schema.lookup "properties" = some (.dict properties) →
    (name, value) ∈ params → properties.lookup name = none →
      schema.lookup "additionalProperties" = some (.bool true)
  oneOf : ∀ conditions, schema.lookup "oneOf" = some (.list conditions) →
    MeetsOne params conditions
  allOf : ∀ branches branch, schema.lookup "allOf" = some (.list branches) →
    .dict branch ∈ branches → MeetsBranch params branch

/-- A parameter with the description of its property. -/
def Declares (schema params : Params) (name : String) (value : Value) (spec : Params) : Prop :=
  (name, value) ∈ params ∧ ∃ properties, schema.lookup "properties" = some (.dict properties) ∧
    properties.lookup name = some (.dict spec)

/-- A value conforms to a schema at every depth.  A parameter that is null is not there. -/
inductive Conforms : Params → Value → Prop where
  | intro (schema : Params) (value : Value) (own : MeetsOwn schema value)
      (items : ∀ spec elements element, schema.lookup "items" = some (.dict spec) →
        value = .list elements → element ∈ elements → Conforms spec element)
      (shape : ∀ params, value = .dict params → MeetsShape schema params)
      (properties : ∀ params name inner spec, value = .dict params →
        Declares schema params name inner spec → inner ≠ .none → Conforms spec inner) :
      Conforms schema value

/-- What is inside a value conforms. -/
structure ContentsConform (schema : Params) (value : Value) : Prop where
  items : ∀ spec elements element, schema.lookup "items" = some (.dict spec) →
    value = .list elements → element ∈ elements → Conforms spec element
  shape : ∀ params, value = .dict params → MeetsShape schema params
  properties : ∀ params name inner spec, value = .dict params →
    Declares schema params name inner spec → inner ≠ .none → Conforms spec inner

theorem conforms_iff {schema : Params} {value : Value} :
    Conforms schema value ↔ MeetsOwn schema value ∧ ContentsConform schema value := by
  constructor
  · rintro ⟨_, _, own, items, shape, properties⟩
    exact ⟨own, items, shape, properties⟩
  · rintro ⟨own, items, shape, properties⟩
    exact .intro _ _ own items shape properties

/-! ## The dialect -/

def typeNames : List String :=
  ["string", "integer", "number", "boolean", "array", "object"]

/-- The keyword `type` as the registry writes it. -/
inductive IsTypeKeyword : Value → Prop where
  | one (name : String) (known : name ∈ typeNames) : IsTypeKeyword (.str name)
  | union (first : String) (rest : List String) (known : ∀ name ∈ first :: rest, name ∈ typeNames) :
      IsTypeKeyword (.list ((first :: rest).map .str))

def boundKeys : List String :=
  ["minItems", "maxItems", "minLength", "maxLength", "minimum", "maximum"]

/-- The keywords as the registry writes them.  Only numbers are bounded as numbers. -/
structure PlainKeywords (schema : Params) : Prop where
  type : ∀ keyword, schema.lookup "type" = some keyword → IsTypeKeyword keyword
  enum : ∀ keyword, schema.lookup "enum" = some keyword →
    ∃ texts : List String, keyword = .list (texts.map .str)
  bounds : ∀ key ∈ boundKeys, ∀ keyword, schema.lookup key = some keyword →
    ∃ limit : Int, keyword = .int limit
  closed : schema.lookup "additionalProperties" = some (.bool false) →
    (schema.lookup "properties").isSome = true
  numeric : (schema.lookup "minimum").isSome = true ∨ (schema.lookup "maximum").isSome = true →
    schema.lookup "type" = some (.str "integer") ∨ schema.lookup "type" = some (.str "number")
  required : ∀ keyword, schema.lookup "required" = some keyword →
    ∃ keys : List String, keyword = .list (keys.map .str)
  properties : ∀ keyword, schema.lookup "properties" = some keyword →
    ∃ properties, keyword = .dict properties ∧
      ∀ name spec, properties.lookup name = some spec → ∃ fields, spec = .dict fields
  additionalProperties : ∀ keyword, schema.lookup "additionalProperties" = some keyword →
    ∃ allowed, keyword = .bool allowed
  items : ∀ keyword, schema.lookup "items" = some keyword → ∃ spec, keyword = .dict spec
  oneOf : ∀ keyword, schema.lookup "oneOf" = some keyword →
    ∃ conditions : List Params, keyword = .list (conditions.map .dict)
  allOf : ∀ keyword, schema.lookup "allOf" = some keyword →
    ∃ branches : List Params, keyword = .list (branches.map .dict) ∧
      ∀ branch ∈ branches, branch.lookup "oneOf" = none ∨
        ∃ nested : List Params, branch = [("oneOf", .list (nested.map .dict))]

/-- The schemas of the dialect; those of properties and items are such schemas again. -/
inductive InDialect : Params → Prop where
  | intro (schema : Params) (keywords : PlainKeywords schema)
      (items : ∀ spec, schema.lookup "items" = some (.dict spec) → InDialect spec)
      (properties : ∀ properties name spec, schema.lookup "properties" = some (.dict properties) →
        properties.lookup name = some (.dict spec) → InDialect spec) : InDialect schema

/-- The schema of an action describes an object. -/
structure IsActionSchema (schema : Params) : Prop where
  dialect : InDialect schema
  object : schema.lookup "type" = some (.str "object")
  unlisted : schema.lookup "enum" = none

/-! ## What is promised -/

def Accepts (platform : Platform) (schema params : Params) : Prop :=
  validateParamSchema platform params (.dict schema) = .ok ()

/-- Parameters are accepted if and only if they conform. -/
def AcceptsConforming (platform : Platform) (schema params : Params) : Prop :=
  Accepts platform schema params ↔ Conforms schema (.dict params)

/-- The names of the parameters and their values, but nothing inside of these. -/
structure MeetsTop (schema params : Params) : Prop where
  shape : MeetsShape schema params
  own : ∀ name value spec, Declares schema params name value spec → value ≠ .none →
    MeetsOwn spec value

/-- A parameter is null whose property lists the values that it may have. -/
def NullBesideEnum (schema params : Params) : Prop :=
  ∃ name spec, Declares schema params name .none spec ∧ (spec.lookup "enum").isSome = true

/-- Everything inside of the parameters conforms. -/
def ContentsConformAll (schema params : Params) : Prop :=
  ∀ name value spec, Declares schema params name value spec → value ≠ .none →
    ContentsConform spec value

/-! ## One parameter -/

theorem guard_eq_ok_iff {holds : Prop} [Decidable holds] {message : String} :
    (if holds then .ok () else invalid message : Except SchemaFailure Unit) = .ok () ↔ holds := by
  by_cases held : holds
  · rw [if_pos held]
    exact iff_of_true rfl held
  · rw [if_neg held]
    exact iff_of_false nofun held

variable {platform : Platform} {schema params spec : Params} {value : Value}

theorem InDialect.keywords (dialect : InDialect schema) : PlainKeywords schema := by
  cases dialect
  assumption

theorem InDialect.property (dialect : InDialect schema) {name : String}
    (declares : Declares schema params name value spec) : InDialect spec := by
  obtain ⟨-, properties, found, described⟩ := declares
  cases dialect with
  | intro _ _ _ nested => exact nested properties name spec found described

theorem hasType_iff {expected : String} (known : expected ∈ typeNames) :
    hasType value expected = true ↔ IsOfType value expected := by
  constructor
  · intro has
    simp only [typeNames, List.mem_cons, List.not_mem_nil, or_false] at known
    rcases known with rfl | rfl | rfl | rfl | rfl | rfl <;>
    cases value <;> first | constructor | cases has
  · intro is
    cases is <;> rfl

theorem fitsAny_iff {candidates : List Value} :
    fitsType.fitsAny value candidates = true ↔
      ∃ candidate ∈ candidates, fitsType value candidate = true := by
  induction candidates with
  | nil => simp [fitsType.fitsAny]
  | cons candidate rest ih => simp [fitsType.fitsAny, ih]

theorem typeName_eq_none_iff : (value.typeName == "NoneType") = true ↔ value = .none := by
  cases value <;> simp [Value.typeName]

theorem fitsType_iff {keyword : Value} (isType : IsTypeKeyword keyword) (given : value ≠ .none) :
    fitsType value keyword = true ↔ IsOfSomeType value keyword := by
  have is_given : (value.typeName == "NoneType") = false := by
    rw [← Bool.not_eq_true, typeName_eq_none_iff]
    exact given
  cases isType with
  | one name known =>
      rw [fitsType, is_given, Bool.false_or, hasType_iff known]
      constructor
      · exact fun is => .inl ⟨name, rfl, is⟩
      · rintro (⟨_, ⟨⟩, is⟩ | ⟨_, ⟨⟩, -⟩)
        exact is
  | union first rest known =>
      rw [fitsType, is_given, Bool.false_or, fitsAny_iff]
      constructor
      · rintro ⟨candidate, member, fits⟩
        obtain ⟨name, listed, rfl⟩ := List.mem_map.mp member
        rw [fitsType, is_given, Bool.false_or, hasType_iff (known name listed)] at fits
        exact .inr ⟨_, rfl, name, member, fits⟩
      · rintro (⟨_, ⟨⟩, -⟩ | ⟨_, ⟨⟩, name, member, is⟩)
        obtain ⟨_, listed, ⟨⟩⟩ := List.mem_map.mp member
        refine ⟨_, member, ?_⟩
        rw [fitsType, is_given, Bool.false_or, hasType_iff (known name listed)]
        exact is

theorem IsTypeKeyword.truthy {keyword : Value} (isType : IsTypeKeyword keyword) :
    keyword.truthy = true := by
  cases isType with
  | one name known =>
      simp only [typeNames, List.mem_cons, List.not_mem_nil, or_false] at known
      rcases known with rfl | rfl | rfl | rfl | rfl | rfl <;> rfl
  | union => rfl

theorem IsTypeKeyword.fitsNone {keyword : Value} (isType : IsTypeKeyword keyword) :
    fitsType .none keyword = true := by
  cases isType <;> rfl

theorem checkPropType_ok_iff {name : String} {expected : Value} :
    checkPropType platform name value expected = .ok () ↔ fitsType value expected = true := by
  unfold checkPropType
  split
  next fits => exact iff_of_true rfl fits
  next other =>
    refine iff_of_false ?_ other
    dsimp only
    split <;> exact nofun

/-- The check of the type. -/
theorem checkType_ok_iff (keywords : PlainKeywords spec) {name : String} :
    ((spec.get "type").truthy = true →
        checkPropType platform name value (spec.get "type") = .ok ()) ↔
      value = .none ∨ ∀ keyword, spec.lookup "type" = some keyword →
        IsOfSomeType value keyword := by
  unfold Params.get
  cases found : spec.lookup "type" with
  | none => exact iff_of_true nofun (.inr nofun)
  | some keyword =>
      have isType := keywords.type keyword found
      rw [Option.getD_some, forall_prop_of_true isType.truthy, checkPropType_ok_iff]
      by_cases given : value = .none
      · subst given
        exact iff_of_true isType.fitsNone (.inl rfl)
      · rw [fitsType_iff isType given]
        constructor
        · rintro is
          exact .inr fun _ same => Option.some.inj same ▸ is
        · exact fun either => either.resolve_left given keyword rfl

/-- The check of a bound. -/
theorem Bound.check_ok_iff {bound : Bound} (keywords : PlainKeywords spec)
    (isBound : bound.key ∈ boundKeys) {name : String} :
    bound.check platform spec name value = .ok () ↔
      ∀ limit measured, spec.lookup bound.key = some (.int limit) →
        bound.measure value = some measured →
          (if bound.isLower then measured.lt (.finite limit)
            else (PyFloat.finite limit).lt measured) = false := by
  unfold Bound.check
  cases found : spec.lookup bound.key with
  | none => exact iff_of_true rfl nofun
  | some keyword =>
      obtain ⟨limit, rfl⟩ := keywords.bounds bound.key isBound keyword found
      cases measures : bound.measure value with
      | none => exact iff_of_true rfl nofun
      | some measured =>
          dsimp only [Value.number?]
          by_cases beyond : (if bound.isLower then measured.lt (.finite limit)
              else (PyFloat.finite limit).lt measured) = true
          · rw [if_pos beyond]
            refine iff_of_false nofun fun within => ?_
            exact Bool.noConfusion (beyond.symm.trans (within limit measured rfl rfl))
          · rw [if_neg beyond]
            refine iff_of_true rfl fun _ _ same sameMeasure => ?_
            cases same
            cases sameMeasure
            exact Bool.not_eq_true _ ▸ beyond

theorem pyEq_str_iff {text : String} : value.pyEq (.str text) = true ↔ value = .str text := by
  cases value <;> simp [Value.pyEq, Value.number?]

/-- The check of the values that are listed. -/
theorem checkEnum_ok_iff (keywords : PlainKeywords spec) {name : String} :
    checkEnum platform spec name value = .ok () ↔
      ∀ allowed, spec.lookup "enum" = some (.list allowed) → value ∈ allowed := by
  unfold checkEnum
  cases found : spec.lookup "enum" with
  | none => exact iff_of_true rfl nofun
  | some keyword =>
      obtain ⟨texts, rfl⟩ := keywords.enum keyword found
      have listed : (texts.map Value.str).any value.pyEq = true ↔ value ∈ texts.map Value.str := by
        rw [List.any_eq_true]
        constructor
        · rintro ⟨_, member, equal⟩
          obtain ⟨text, -, rfl⟩ := List.mem_map.mp member
          rwa [pyEq_str_iff.mp equal]
        · intro member
          obtain ⟨text, -, same⟩ := List.mem_map.mp member
          exact ⟨value, member, by rw [← same]; exact pyEq_str_iff.mpr rfl⟩
      dsimp only
      split
      next allowed => exact iff_of_true rfl fun _ same => by cases same; exact listed.mp allowed
      next other =>
        exact iff_of_false nofun fun within => other (listed.mpr (within _ rfl))

theorem finite_lt_eq_false_iff {left right : ℚ} :
    (PyFloat.finite left).lt (.finite right) = false ↔ right ≤ left := by
  unfold PyFloat.lt PyFloat.le
  rw [Bool.not_eq_false']
  exact ⟨of_decide_eq_true, decide_eq_true⟩

/-- The bounds of a list. -/
theorem itemBounds_ok_iff (keywords : PlainKeywords spec) {name : String} :
    (itemBounds.forM fun bound => bound.check platform spec name value) = .ok () ↔
      (∀ limit items, spec.lookup "minItems" = some (.int limit) → value = .list items →
        limit ≤ items.length) ∧
      ∀ limit items, spec.lookup "maxItems" = some (.int limit) → value = .list items →
        items.length ≤ limit := by
  rw [forM_eq_ok_iff, itemBounds, List.forall_mem_cons, List.forall_mem_singleton,
    Bound.check_ok_iff keywords (by simp [boundKeys]),
    Bound.check_ok_iff keywords (by simp [boundKeys])]
  cases value with
  | list items =>
      simp [itemCount, finite_lt_eq_false_iff, -List.length_eq_zero_iff]
      norm_cast
  | _ => exact iff_of_true ⟨nofun, nofun⟩ ⟨nofun, nofun⟩

/-- What may be a boolean is not bounded as a number. -/
theorem PlainKeywords.not_bounded_of_bool (keywords : PlainKeywords spec) {flag : Bool}
    (is : ∀ keyword, spec.lookup "type" = some keyword → IsOfSomeType (.bool flag) keyword) :
    spec.lookup "minimum" = none ∧ spec.lookup "maximum" = none := by
  have impossible : ¬((spec.lookup "minimum").isSome = true ∨
      (spec.lookup "maximum").isSome = true) := by
    intro bounded
    rcases keywords.numeric bounded with found | found
    · rcases is _ found with ⟨_, ⟨⟩, is_integer⟩ | ⟨_, ⟨⟩, -⟩
      cases (hasType_iff (by simp [typeNames])).mpr is_integer
    · rcases is _ found with ⟨_, ⟨⟩, is_number⟩ | ⟨_, ⟨⟩, -⟩
      cases (hasType_iff (by simp [typeNames])).mpr is_number
  rw [not_or, Bool.not_eq_true, Bool.not_eq_true, Option.isSome_eq_false_iff,
    Option.isSome_eq_false_iff, Option.isNone_iff_eq_none, Option.isNone_iff_eq_none] at impossible
  exact impossible

/-- The bounds of a text and those of a number; a bounded number is no boolean. -/
theorem scalarBounds_ok_iff (keywords : PlainKeywords spec) {name : String}
    (is : ∀ keyword, spec.lookup "type" = some keyword → IsOfSomeType value keyword) :
    (scalarBounds.forM fun bound => bound.check platform spec name value) = .ok () ↔
      ((∀ limit text, spec.lookup "minLength" = some (.int limit) → value = .str text →
        limit ≤ text.length) ∧
      ∀ limit text, spec.lookup "maxLength" = some (.int limit) → value = .str text →
        text.length ≤ limit) ∧
      (∀ limit number, spec.lookup "minimum" = some (.int limit) →
        numberOf value = some number → number.lt (.finite limit) = false) ∧
      ∀ limit number, spec.lookup "maximum" = some (.int limit) →
        numberOf value = some number → (PyFloat.finite limit).lt number = false := by
  rw [forM_eq_ok_iff, scalarBounds, List.forall_mem_cons, List.forall_mem_cons,
    List.forall_mem_cons, List.forall_mem_singleton,
    Bound.check_ok_iff keywords (by simp [boundKeys]),
    Bound.check_ok_iff keywords (by simp [boundKeys]),
    Bound.check_ok_iff keywords (by simp [boundKeys]),
    Bound.check_ok_iff keywords (by simp [boundKeys]), and_assoc]
  cases value with
  | str text =>
      simp [textLength, Value.number?, numberOf, finite_lt_eq_false_iff]
      norm_cast
  | int number => simp [textLength, Value.number?, numberOf]
  | float number => simp [textLength, Value.number?, numberOf]
  | bool flag =>
      obtain ⟨no_minimum, no_maximum⟩ := keywords.not_bounded_of_bool is
      simp [textLength, numberOf, no_minimum, no_maximum]
  | _ => simp [textLength, Value.number?, numberOf]

/-- A parameter passes if it passes each of its checks. -/
theorem checkProperty_ok_iff_checks {name : String} :
    checkProperty platform name value spec = .ok () ↔
      ((spec.get "type").truthy = true →
        checkPropType platform name value (spec.get "type") = .ok ()) ∧
      (itemBounds.forM fun bound => bound.check platform spec name value) = .ok () ∧
      checkEnum platform spec name value = .ok () ∧
      (scalarBounds.forM fun bound => bound.check platform spec name value) = .ok () := by
  unfold checkProperty
  by_cases typed : (spec.get "type").truthy = true
  · simp only [typed, if_true, bind, then_eq_ok_iff, true_imp_iff]
  · simp only [typed, Bool.false_eq_true, if_false, bind, then_eq_ok_iff, false_imp_iff, true_and]

/-- The checks of a parameter that is not null. -/
theorem checkProperty_ok_iff (keywords : PlainKeywords spec) {name : String}
    (given : value ≠ .none) :
    checkProperty platform name value spec = .ok () ↔ MeetsOwn spec value := by
  rw [checkProperty_ok_iff_checks, checkType_ok_iff keywords, itemBounds_ok_iff keywords,
    checkEnum_ok_iff keywords, or_iff_right given]
  constructor
  · rintro ⟨type, ⟨minItems, maxItems⟩, enum, bounds⟩
    obtain ⟨⟨minLength, maxLength⟩, minimum, maximum⟩ :=
      (scalarBounds_ok_iff keywords type).mp bounds
    exact { type, enum, minItems, maxItems, minLength, maxLength, minimum, maximum }
  · intro meets
    exact ⟨meets.type, ⟨meets.minItems, meets.maxItems⟩, meets.enum,
      (scalarBounds_ok_iff keywords meets.type).mpr
        ⟨⟨meets.minLength, meets.maxLength⟩, meets.minimum, meets.maximum⟩⟩

/-- The checks of a parameter that is null: it is none of the values that are listed. -/
theorem checkProperty_none_ok_iff (keywords : PlainKeywords spec) {name : String} :
    checkProperty platform name .none spec = .ok () ↔ (spec.lookup "enum").isSome = false := by
  have unmeasured (bound : Bound) (member : bound ∈ itemBounds ++ scalarBounds) :
      bound.check platform spec name .none = .ok () := by
    simp only [itemBounds, scalarBounds, List.cons_append, List.nil_append, List.mem_cons,
      List.not_mem_nil, or_false] at member
    unfold Bound.check
    rcases member with rfl | rfl | rfl | rfl | rfl | rfl <;> split <;> first | rfl | cases ‹_›
  have items := forM_eq_ok_iff.mpr fun bound member =>
    unmeasured bound (List.mem_append_left _ member)
  have scalars := forM_eq_ok_iff.mpr fun bound member =>
    unmeasured bound (List.mem_append_right _ member)
  rw [checkProperty_ok_iff_checks, checkType_ok_iff keywords, checkEnum_ok_iff keywords]
  constructor
  · rintro ⟨-, -, listed, -⟩
    cases found : spec.lookup "enum" with
    | none => rfl
    | some keyword =>
        obtain ⟨texts, rfl⟩ := keywords.enum keyword found
        obtain ⟨_, _, ⟨⟩⟩ := List.mem_map.mp (listed _ found)
  · intro unlisted
    refine ⟨.inl rfl, items, fun allowed found => ?_, scalars⟩
    rw [found] at unlisted
    cases unlisted

/-! ## All parameters -/

theorem checkRequired_ok_iff {key : String} :
    checkRequired platform params (.str key) = .ok () ↔ IsGiven params key := by
  unfold checkRequired IsGiven
  rw [← List.any_eq_true, ← Bool.or_eq_true]
  exact guard_eq_ok_iff

/-- The check of what is required. -/
theorem required_ok_iff (keywords : PlainKeywords schema) :
    ((requiredKeys (schema.get "required")).bind fun required =>
        required.forM (checkRequired platform params)) = .ok () ↔
      ∀ keys key, schema.lookup "required" = some (.list keys) → .str key ∈ keys →
        IsGiven params key := by
  unfold Params.get
  cases found : schema.lookup "required" with
  | none => exact iff_of_true rfl nofun
  | some keyword =>
      obtain ⟨names, rfl⟩ := keywords.required keyword found
      show (names.map Value.str).forM (checkRequired platform params) = .ok () ↔ _
      rw [forM_eq_ok_iff, List.forall_mem_map]
      simp only [checkRequired_ok_iff]
      constructor
      · rintro given _ key ⟨⟩ member
        obtain ⟨_, listed, ⟨⟩⟩ := List.mem_map.mp member
        exact given key listed
      · exact fun given key member => given _ key rfl (List.mem_map_of_mem member)

theorem additional_iff (keywords : PlainKeywords schema) :
    (schema.getOr "additionalProperties" (.bool false)).truthy = true ↔
      schema.lookup "additionalProperties" = some (.bool true) := by
  unfold Params.getOr
  cases found : schema.lookup "additionalProperties" with
  | none => exact iff_of_false nofun nofun
  | some keyword =>
      obtain ⟨allowed, rfl⟩ := keywords.additionalProperties keyword found
      cases allowed
      · exact iff_of_false nofun nofun
      · exact iff_of_true rfl rfl

/-- The check of the properties. -/
theorem checkProperties_ok_iff (keywords : PlainKeywords schema) :
    checkProperties platform params schema = .ok () ↔
      (∀ properties name value, schema.lookup "properties" = some (.dict properties) →
        (name, value) ∈ params → properties.lookup name = none →
          schema.lookup "additionalProperties" = some (.bool true)) ∧
      ∀ name value spec, Declares schema params name value spec →
        checkProperty platform name value spec = .ok () := by
  unfold checkProperties Params.get
  cases found : schema.lookup "properties" with
  | none => 
      refine iff_of_true rfl ⟨nofun, ?_⟩
      rintro _ _ _ ⟨-, _, described, -⟩
      cases found.symm.trans described
  | some keyword =>
      obtain ⟨properties, rfl, specs⟩ := keywords.properties keyword found
      rw [Option.getD_some]
      dsimp only
      rw [forM_eq_ok_iff]
      constructor
      · intro checked
        refine ⟨fun _ name value same member unknown => ?_, fun name value spec declares => ?_⟩
        · cases same
          have passes := checked (name, value) member
          dsimp only at passes
          rw [unknown] at passes
          exact (additional_iff keywords).mp (guard_eq_ok_iff.mp passes)
        · obtain ⟨member, _, described, specified⟩ := declares
          cases found.symm.trans described
          have passes := checked (name, value) member
          dsimp only at passes
          rw [specified] at passes
          exact passes
      · rintro ⟨known, checked⟩ ⟨name, value⟩ member
        dsimp only
        cases specified : properties.lookup name with
        | none =>
            have additional := known properties name value rfl member specified
            exact guard_eq_ok_iff.mpr ((additional_iff keywords).mpr additional)
        | some spec =>
            obtain ⟨fields, rfl⟩ := specs name spec specified
            exact checked name value fields ⟨member, properties, found, specified⟩

theorem meetsOneOf_iff {conditions : List Value} :
    meetsOneOf params conditions = true ↔ MeetsOne params conditions := by
  unfold meetsOneOf MeetsOne
  rw [beq_iff_eq, List.countP_eq_length_filter]

/-- The check of the shapes of which one is met. -/
theorem checkOneOf_ok_iff (keywords : PlainKeywords schema) :
    checkOneOf params schema = .ok () ↔
      ∀ conditions, schema.lookup "oneOf" = some (.list conditions) →
        MeetsOne params conditions := by
  unfold checkOneOf Params.get
  cases found : schema.lookup "oneOf" with
  | none => exact iff_of_true rfl nofun
  | some keyword =>
      obtain ⟨conditions, rfl⟩ := keywords.oneOf keyword found
      refine (guard_eq_ok_iff.trans meetsOneOf_iff).trans ?_
      constructor
      · rintro meets _ ⟨⟩
        exact meets
      · exact fun meets => meets _ rfl

/-- The check of one branch. -/
theorem checkBranch_ok_iff {branch : Params}
    (plain : branch.lookup "oneOf" = none ∨
      ∃ nested : List Params, branch = [("oneOf", .list (nested.map .dict))]) :
    checkBranch params (.dict branch) = .ok () ↔ MeetsBranch params branch := by
  unfold checkBranch Params.get MeetsBranch
  rcases plain with absent | ⟨nested, rfl⟩
  · dsimp only
    rw [absent]
    exact guard_eq_ok_iff.trans ⟨fun matched => ⟨matched, fun _ => nofun⟩, And.left⟩
  · refine (guard_eq_ok_iff.trans meetsOneOf_iff).trans ⟨fun meets => ⟨rfl, ?_⟩, ?_⟩
    · rintro _ ⟨⟩
      exact meets
    · exact fun meets => meets.2 _ rfl

/-- The check of the shapes that are all met. -/
theorem checkAllOf_ok_iff (keywords : PlainKeywords schema) :
    checkAllOf params schema = .ok () ↔
      ∀ branches branch, schema.lookup "allOf" = some (.list branches) →
        .dict branch ∈ branches → MeetsBranch params branch := by
  unfold checkAllOf Params.get
  cases found : schema.lookup "allOf" with
  | none => exact iff_of_true rfl nofun
  | some keyword =>
      obtain ⟨branches, rfl, plain⟩ := keywords.allOf keyword found
      rw [Option.getD_some]
      dsimp only
      rw [forM_eq_ok_iff, List.forall_mem_map]
      constructor
      · rintro checked _ branch ⟨⟩ member
        obtain ⟨_, listed, ⟨⟩⟩ := List.mem_map.mp member
        exact (checkBranch_ok_iff (plain branch listed)).mp (checked branch listed)
      · intro meets branch listed
        exact (checkBranch_ok_iff (plain branch listed)).mpr
          (meets _ branch rfl (List.mem_map_of_mem listed))

theorem validateParamSchema_ok_iff :
    validateParamSchema platform params (.dict schema) = .ok () ↔
      ((requiredKeys (schema.get "required")).bind fun required =>
        required.forM (checkRequired platform params)) = .ok () ∧
      checkProperties platform params schema = .ok () ∧
      checkOneOf params schema = .ok () ∧ checkAllOf params schema = .ok () := by
  show (requiredKeys (schema.get "required")).bind (fun required =>
    (required.forM (checkRequired platform params)).bind fun _ =>
      (checkProperties platform params schema).bind fun _ =>
        (checkOneOf params schema).bind fun _ => checkAllOf params schema) = .ok () ↔ _
  cases requiredKeys (schema.get "required") with
  | error failure => exact iff_of_false nofun fun ⟨failed, _⟩ => nomatch failed
  | ok required =>
      show (required.forM (checkRequired platform params)).bind (fun _ =>
        (checkProperties platform params schema).bind fun _ =>
          (checkOneOf params schema).bind fun _ => checkAllOf params schema) = .ok () ↔ _
      rw [then_eq_ok_iff, then_eq_ok_iff, then_eq_ok_iff]
      exact Iff.rfl

/-- What is accepted: the names, and of every parameter the value itself. -/
theorem accepts_iff (dialect : InDialect schema) :
    Accepts platform schema params ↔
      MeetsTop schema params ∧ ¬NullBesideEnum schema params := by
  have keywords := dialect.keywords
  unfold Accepts
  rw [validateParamSchema_ok_iff, required_ok_iff keywords, checkProperties_ok_iff keywords,
    checkOneOf_ok_iff keywords, checkAllOf_ok_iff keywords]
  constructor
  · rintro ⟨required, ⟨known, checked⟩, oneOf, allOf⟩
    refine ⟨⟨⟨required, known, oneOf, allOf⟩, fun name value spec declares given => ?_⟩, ?_⟩
    · have nested := (dialect.property declares).keywords
      exact (checkProperty_ok_iff nested given).mp (checked name value spec declares)
    · rintro ⟨name, spec, declares, listed⟩
      have nested := (dialect.property declares).keywords
      have unlisted := (checkProperty_none_ok_iff nested).mp (checked name .none spec declares)
      exact Bool.noConfusion (listed.symm.trans unlisted)
  · rintro ⟨⟨shape, own⟩, no_null⟩
    refine ⟨shape.required, ⟨shape.known, fun name value spec declares => ?_⟩, shape.oneOf,
      shape.allOf⟩
    have nested := (dialect.property declares).keywords
    by_cases null : value = .none
    · subst null
      refine (checkProperty_none_ok_iff nested).mpr (Bool.eq_false_iff.mpr fun listed => ?_)
      exact no_null ⟨name, spec, declares, listed⟩
    · exact (checkProperty_ok_iff nested null).mpr (own name value spec declares null)

/-- What conforms: the names, and of every parameter the value and what is inside of it. -/
theorem conforms_dict_iff (action : IsActionSchema schema) :
    Conforms schema (.dict params) ↔
      MeetsTop schema params ∧ ContentsConformAll schema params := by
  have own : MeetsOwn schema (.dict params) := by
    refine ⟨?_, ?_, nofun, nofun, nofun, nofun, nofun, nofun⟩
    · intro keyword found
      cases action.object.symm.trans found
      exact .inl ⟨_, rfl, .object params⟩
    · intro allowed found
      cases action.unlisted.symm.trans found
  rw [conforms_iff, and_iff_right own]
  constructor
  · rintro ⟨-, shape, properties⟩
    refine ⟨⟨shape params rfl, fun name value spec declares given => ?_⟩,
      fun name value spec declares given => ?_⟩
    · exact (conforms_iff.mp (properties params name value spec rfl declares given)).1
    · exact (conforms_iff.mp (properties params name value spec rfl declares given)).2
  · rintro ⟨⟨shape, own⟩, contents⟩
    refine ⟨nofun, ?_, ?_⟩
    · rintro _ ⟨⟩
      exact shape
    · rintro _ name inner spec ⟨⟩ declares given
      exact conforms_iff.mpr
        ⟨own name inner spec declares given, contents name inner spec declares given⟩

/-! ## The promise -/

namespace Demo

def kindSpec : Params :=
  [("type", .str "string"),
    ("enum", .list [.str "navigation", .str "tab_opened", .str "element_detached"])]

def expectSpec : Params :=
  [("type", .str "object"), ("properties", .dict [("kind", .dict kindSpec)]),
    ("required", .list [.str "kind"]), ("additionalProperties", .bool false)]

/-- The part of the schema of `browser.click` that is about `expect`. -/
def clickSchema : Params :=
  [("type", .str "object"), ("properties", .dict [("expect", .dict expectSpec)]),
    ("required", .list []), ("additionalProperties", .bool false)]

theorem lookup_single {key name : String} {spec found : Value}
    (lookup : List.lookup name [(key, spec)] = some found) : spec = found := by
  rw [List.lookup_cons] at lookup
  split at lookup
  · exact Option.some.inj lookup
  · cases lookup

theorem unbounded {schema : Params} (none : ∀ key ∈ boundKeys, schema.lookup key = none) :
    ∀ key ∈ boundKeys, ∀ keyword, schema.lookup key = some keyword →
      ∃ limit : Int, keyword = .int limit :=
  fun key isBound _ found => nomatch (none key isBound).symm.trans found

theorem kindSpec_inDialect : InDialect kindSpec := by
  refine .intro _ ⟨?_, ?_, unbounded (by decide), nofun, nofun, nofun, nofun, nofun, nofun, nofun,
    nofun⟩ nofun nofun
  · rintro _ ⟨⟩
    exact .one _ (by decide)
  · rintro _ ⟨⟩
    exact ⟨["navigation", "tab_opened", "element_detached"], rfl⟩

theorem expectSpec_inDialect : InDialect expectSpec := by
  refine .intro _ ⟨?_, nofun, unbounded (by decide), fun _ => rfl, nofun, ?_, ?_, ?_, nofun, nofun,
    nofun⟩ nofun ?_
  · rintro _ ⟨⟩
    exact .one _ (by decide)
  · rintro _ ⟨⟩
    exact ⟨["kind"], rfl⟩
  · rintro _ ⟨⟩
    exact ⟨_, rfl, fun name spec found => ⟨kindSpec, (lookup_single found).symm⟩⟩
  · rintro _ ⟨⟩
    exact ⟨false, rfl⟩
  · rintro _ name spec ⟨⟩ found
    cases lookup_single found
    exact kindSpec_inDialect

theorem clickSchema_isAction : IsActionSchema clickSchema := by
  refine ⟨.intro _ ⟨?_, nofun, unbounded (by decide), fun _ => rfl, nofun, ?_, ?_, ?_, nofun, nofun,
    nofun⟩ nofun ?_, rfl, rfl⟩
  · rintro _ ⟨⟩
    exact .one _ (by decide)
  · rintro _ ⟨⟩
    exact ⟨[], rfl⟩
  · rintro _ ⟨⟩
    exact ⟨_, rfl, fun name spec found => ⟨expectSpec, (lookup_single found).symm⟩⟩
  · rintro _ ⟨⟩
    exact ⟨false, rfl⟩
  · rintro _ name spec ⟨⟩ found
    cases lookup_single found
    exact expectSpec_inDialect

end Demo

end Era.Services
