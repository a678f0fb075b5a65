import Era.Core.Result
import Era.Security.Validation

/-!
# What validated parameters keep to

The walk over the parameters checks the bound of each container, key and string where it meets
them.  It also counts characters, but no one looks at the count.
-/

namespace Era.Security

open Era.Core

/-- The character budget across the whole tree of parameters. -/
def maxParamTotal : Nat := 16384

/-- The deepest level at which a parameter may stand. -/
def maxParamDepth : Nat := 4

/-- `validate_params(params, action_type=..., str_limit=...)`. -/
def validateParamsWith (floatRepr : PyFloat → String) (params : Params) (actionType : String)
    (strLimit : Option Nat) : Except ValidationFailure Unit :=
  (walk floatRepr (strLimit.getD (stringLimitFor actionType)) (.dict params) 0).map fun _ => ()

/-! ## The declared limits -/

/-- The characters of a tree, as the walk counts them. -/
def characters (floatRepr : PyFloat → String) : Value → Nat
  | .none => 0
  | .bool _ => 1
  | .int number => (toString number).length
  | .float number => (floatRepr number).length
  | .str text => text.length
  | .list items => itemCharacters items
  | .dict fields => fieldCharacters fields
where
  itemCharacters : List Value → Nat
    | [] => 0
    | item :: rest => characters floatRepr item + itemCharacters rest
  fieldCharacters : Params → Nat
    | [] => 0
    | (_, item) :: rest => characters floatRepr item + fieldCharacters rest

/-- Every string of a tree keeps to a bound. -/
def StringsWithin (limit : Nat) : Value → Prop
  | .str text => text.length ≤ limit
  | .list found => items found
  | .dict found => fields found
  | .none | .bool _ | .int _ | .float _ => True
where
  items : List Value → Prop
    | [] => True
    | item :: rest => StringsWithin limit item ∧ items rest
  fields : Params → Prop
    | [] => True
    | (_, item) :: rest => StringsWithin limit item ∧ fields rest

/-- Every container of a tree, every key and the depth keep to their bounds. -/
def ShapeWithin (depth : Nat) : Value → Prop
  | .list found =>
      depth ≤ maxParamDepth ∧ found.length ≤ maxParams ∧ items depth found
  | .dict found =>
      depth ≤ maxParamDepth ∧ found.length ≤ maxParams ∧ fields depth found
  | .none | .bool _ | .int _ | .float _ | .str _ => depth ≤ maxParamDepth
where
  items (depth : Nat) : List Value → Prop
    | [] => True
    | item :: rest => ShapeWithin (depth + 1) item ∧ items depth rest
  fields (depth : Nat) : Params → Prop
    | [] => True
    | (key, item) :: rest =>
        (key ≠ "" ∧ key.length ≤ maxParamKeyLen) ∧ ShapeWithin (depth + 1) item ∧
          fields depth rest

/-- Parameters that keep to every limit that the module declares. -/
structure WithinLimits (floatRepr : PyFloat → String) (params : Params) : Prop where
  shape : ShapeWithin 0 (.dict params)
  strings : StringsWithin maxStrLen (.dict params)
  total : characters floatRepr (.dict params) ≤ maxParamTotal

/-! ## What the walk accepts -/

section Walk

variable {floatRepr : PyFloat → String} {strLimit : Nat}

theorem intStrLength_ok {number : Int} {count : Nat} (printed : intStrLength number = .ok count) :
    count = (toString number).length := by
  unfold intStrLength at printed
  split at printed
  next => exact (Except.ok.inj printed).symm
  next => cases printed

/-- What a count that the walk returns says about the tree. -/
structure Walked (floatRepr : PyFloat → String) (strLimit depth : Nat) (value : Value)
    (count : Nat) : Prop where
  shape : ShapeWithin depth value
  strings : StringsWithin strLimit value
  count_eq : count = characters floatRepr value

mutual

theorem walk_ok {depth : Nat} {value : Value} {count : Nat}
    (accepted : walk floatRepr strLimit value depth = .ok count) :
    Walked floatRepr strLimit depth value count := by
  unfold walk at accepted
  split at accepted
  next => cases accepted
  next shallow =>
    have depth_le : depth ≤ maxParamDepth := Nat.le_of_not_lt shallow
    cases value with
    | none | bool | float =>
        exact ⟨depth_le, trivial, (Except.ok.inj accepted).symm⟩
    | int number => exact ⟨depth_le, trivial, intStrLength_ok accepted⟩
    | str text =>
        dsimp only at accepted
        split at accepted
        next => cases accepted
        next short => exact ⟨depth_le, Nat.le_of_not_lt short, (Except.ok.inj accepted).symm⟩
    | list items =>
        dsimp only at accepted
        split at accepted
        next => cases accepted
        next few =>
          obtain ⟨shape, strings, count_eq⟩ := walkItems_ok accepted
          exact ⟨⟨depth_le, Nat.le_of_not_lt few, shape⟩, strings, count_eq⟩
    | dict fields =>
        dsimp only at accepted
        split at accepted
        next => cases accepted
        next few =>
          obtain ⟨shape, strings, count_eq⟩ := walkFields_ok accepted
          exact ⟨⟨depth_le, Nat.le_of_not_lt few, shape⟩, strings, count_eq⟩

theorem walkItems_ok {depth : Nat} {items : List Value} {count : Nat}
    (accepted : walk.walkItems floatRepr strLimit items depth = .ok count) :
    ShapeWithin.items depth items ∧ StringsWithin.items strLimit items ∧
      count = characters.itemCharacters floatRepr items := by
  cases items with
  | nil => exact ⟨trivial, trivial, (Except.ok.inj accepted).symm⟩
  | cons item rest =>
      unfold walk.walkItems at accepted
      obtain ⟨first, at_item, accepted⟩ := bind_eq_ok_iff.mp accepted
      obtain ⟨others, at_rest, total⟩ := bind_eq_ok_iff.mp accepted
      obtain ⟨shape, strings, count_eq⟩ := walk_ok at_item
      obtain ⟨rest_shape, rest_strings, rest_eq⟩ := walkItems_ok at_rest
      refine ⟨⟨shape, rest_shape⟩, ⟨strings, rest_strings⟩, ?_⟩
      rw [← Except.ok.inj total, count_eq, rest_eq]
      rfl

theorem walkFields_ok {depth : Nat} {fields : Params} {count : Nat}
    (accepted : walk.walkFields floatRepr strLimit fields depth = .ok count) :
    ShapeWithin.fields depth fields ∧ StringsWithin.fields strLimit fields ∧
      count = characters.fieldCharacters floatRepr fields := by
  cases fields with
  | nil => exact ⟨trivial, trivial, (Except.ok.inj accepted).symm⟩
  | cons field rest =>
      obtain ⟨key, item⟩ := field
      unfold walk.walkFields at accepted
      split at accepted
      next => cases accepted
      next named =>
        rw [not_or, not_lt] at named
        obtain ⟨first, at_item, accepted⟩ := bind_eq_ok_iff.mp accepted
        obtain ⟨others, at_rest, total⟩ := bind_eq_ok_iff.mp accepted
        obtain ⟨shape, strings, count_eq⟩ := walk_ok at_item
        obtain ⟨rest_shape, rest_strings, rest_eq⟩ := walkFields_ok at_rest
        refine ⟨⟨named, shape, rest_shape⟩, ⟨strings, rest_strings⟩, ?_⟩
        rw [← Except.ok.inj total, count_eq, rest_eq]
        rfl

end

mutual

theorem StringsWithin.mono {least most : Nat} (ordered : least ≤ most) {value : Value}
    (within : StringsWithin least value) : StringsWithin most value := by
  cases value with
  | none | bool | int | float => trivial
  | str text => exact le_trans (show text.length ≤ least from within) ordered
  | list items => exact StringsWithin.items_mono ordered within
  | dict fields => exact StringsWithin.fields_mono ordered within

theorem StringsWithin.items_mono {least most : Nat} (ordered : least ≤ most) {items : List Value}
    (within : StringsWithin.items least items) : StringsWithin.items most items := by
  cases items with
  | nil => trivial
  | cons item rest =>
      exact ⟨StringsWithin.mono ordered within.1, StringsWithin.items_mono ordered within.2⟩

theorem StringsWithin.fields_mono {least most : Nat} (ordered : least ≤ most) {fields : Params}
    (within : StringsWithin.fields least fields) : StringsWithin.fields most fields := by
  cases fields with
  | nil => trivial
  | cons field rest =>
      exact ⟨StringsWithin.mono ordered within.1, StringsWithin.fields_mono ordered within.2⟩

end

end Walk

/-- Parameters that are accepted for an action without content keep to the declared limits
exactly if they stay inside the character budget and the caller has not allowed for strings that
are too long. -/
theorem validated_within_iff {floatRepr : PyFloat → String} {params : Params} {actionType : String}
    {strLimit : Option Nat} (plain : actionType ∉ contentActions)
    (accepted : validateParamsWith floatRepr params actionType strLimit = .ok ()) :
    WithinLimits floatRepr params ↔
      characters floatRepr (.dict params) ≤ maxParamTotal ∧
        (strLimit.getD maxStrLen ≤ maxStrLen ∨ StringsWithin maxStrLen (.dict params)) := by
  have limit_eq : stringLimitFor actionType = maxStrLen := by
    unfold stringLimitFor
    rw [if_neg]
    rwa [List.contains_iff_mem]
  obtain ⟨count, walked, _⟩ := map_eq_ok_iff.mp accepted
  rw [limit_eq] at walked
  obtain ⟨shape, strings, _⟩ := walk_ok walked
  constructor
  · intro within
    exact ⟨within.total, .inr within.strings⟩
  · rintro ⟨total, bounded | within⟩
    · exact ⟨shape, StringsWithin.mono bounded strings, total⟩
    · exact ⟨shape, within, total⟩

/-! ## Parameters without limit -/

namespace Demo

/-- A table of 32 rows of 32 cells, with twenty characters in each cell. -/
def table : Params :=
  [("table", .list (List.replicate 32
    (.list (List.replicate 32 (.str "twenty characters...")))))]

theorem table_accepted :
    validateParamsWith (fun _ => "0.0") table "web.search" none = .ok () := by
  decide +kernel

end Demo

theorem validated_within_demo :
    WithinLimits (fun _ => "0.0") Demo.table ↔
      characters (fun _ => "0.0") (.dict Demo.table) ≤ maxParamTotal ∧
        ((none : Option Nat).getD maxStrLen ≤ maxStrLen ∨
          StringsWithin maxStrLen (.dict Demo.table)) :=
  validated_within_iff (by decide) Demo.table_accepted

/-- More than twenty thousand characters are accepted. -/
theorem not_validated_within :
    ¬∀ (floatRepr : PyFloat → String) (params : Params) (actionType : String)
      (strLimit : Option Nat), actionType ∉ contentActions →
      validateParamsWith floatRepr params actionType strLimit = .ok () →
        WithinLimits floatRepr params := by
  intro within
  have total := (within _ _ "web.search" none (by decide) Demo.table_accepted).total
  revert total
  decide +kernel

end Era.Security
