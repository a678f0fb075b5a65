import Era.Security.Json

/-!
# Canonical JSON as the text of a sorted document

Canonical JSON is the compact text of a document whose keys have been sorted, and
therefore determines the document up to the order of its keys.
-/

namespace Era.Security

open Era.Core

/-- A document with the keys of every dictionary in order. -/
def sortKeys : Value → Value
  | .list items => .list (sortItems items)
  | .dict fields => .dict ((sortFields fields).insertionSort fun left right => left.1 ≤ right.1)
  | value => value
where
  sortItems : List Value → List Value
    | [] => []
    | item :: rest => sortKeys item :: sortItems rest
  sortFields : Params → Params
    | [] => []
    | (key, item) :: rest => (key, sortKeys item) :: sortFields rest

theorem commaSeparated_eq_separated (items : List (List Char)) :
    commaSeparated items = separated [','] items := by
  induction items with
  | nil => rfl
  | cons item items ih =>
      cases items with
      | nil => rfl
      | cons next items => simp [commaSeparated, separated, ih]

/-- Sorting rendered fields renders the sorted fields. -/
theorem sortedByKey_map (fields : Params) (render : Value → List Char) :
    sortedByKey (fields.map fun field => (field.1, render field.2)) =
      (fields.insertionSort fun left right => left.1 ≤ right.1).map
        fun field => (field.1, render field.2) := by
  rw [List.map_insertionSort _ fun left right : String × List Char => left.1 ≤ right.1]
  · rfl
  · exact fun _ _ _ _ => Iff.rfl

theorem dumpFields_eq_map (platform : Platform) (space : List Char) (fields : Params) :
    jsonDumps.dumpFields platform space fields = fields.map fun field =>
      encodeString field.1 ++ (':' :: space ++ jsonDumps platform space field.2) := by
  induction fields with
  | nil => rfl
  | cons field fields ih => rw [jsonDumps.dumpFields, ih, List.map_cons]

mutual

theorem canonicalJson_eq_jsonDumps (platform : Platform) (value : Value) :
    canonicalJson platform value = jsonDumps platform [] (sortKeys value) := by
  match value with
  | .none | .bool true | .bool false | .int _ | .float _ | .str _ => rfl
  | .list items =>
      rw [canonicalJson, sortKeys, jsonDumps, renderItems_eq_dumpItems,
        commaSeparated_eq_separated]
  | .dict fields =>
      rw [canonicalJson, sortKeys, jsonDumps, renderObject, renderFields_eq_map,
        sortedByKey_map, commaSeparated_eq_separated, dumpFields_eq_map, List.map_map]
      rfl

theorem renderItems_eq_dumpItems (platform : Platform) (items : List Value) :
    canonicalJson.renderItems platform items =
      jsonDumps.dumpItems platform [] (sortKeys.sortItems items) := by
  match items with
  | [] => rfl
  | item :: items =>
      rw [canonicalJson.renderItems, sortKeys.sortItems, jsonDumps.dumpItems,
        canonicalJson_eq_jsonDumps, renderItems_eq_dumpItems]

theorem renderFields_eq_map (platform : Platform) (fields : Params) :
    canonicalJson.renderFields platform fields =
      (sortKeys.sortFields fields).map fun field =>
        (field.1, jsonDumps platform [] field.2) := by
  match fields with
  | [] => rfl
  | (key, item) :: fields =>
      rw [canonicalJson.renderFields, sortKeys.sortFields, List.map_cons,
        canonicalJson_eq_jsonDumps, renderFields_eq_map]

end

theorem sortFields_keys (fields : Params) :
    (sortKeys.sortFields fields).map Prod.fst = fields.map Prod.fst := by
  induction fields with
  | nil => rfl
  | cons field fields ih => rw [sortKeys.sortFields, List.map_cons, List.map_cons, ih]

mutual

theorem distinctKeys_sortKeys (value : Value) (distinct : DistinctKeys value) :
    DistinctKeys (sortKeys value) := by
  match value, distinct with
  | .none, _ | .bool _, _ | .int _, _ | .float _, _ | .str _, _ => trivial
  | .list items, distinct => exact distinctItems_sortItems items distinct
  | .dict fields, ⟨keys, distinct⟩ =>
      have sorted := distinctFields_sortFields fields distinct
      have permuted := List.perm_insertionSort
        (fun left right : String × Value => left.1 ≤ right.1) (sortKeys.sortFields fields)
      constructor
      · rw [(permuted.map Prod.fst).nodup_iff, sortFields_keys]
        exact keys
      · rw [distinctFields_iff] at sorted ⊢
        exact fun field member => sorted field (permuted.mem_iff.mp member)

theorem distinctItems_sortItems (items : List Value)
    (distinct : DistinctKeys.distinctItems items) :
    DistinctKeys.distinctItems (sortKeys.sortItems items) := by
  match items, distinct with
  | [], _ => trivial
  | item :: items, ⟨first, later⟩ =>
      exact ⟨distinctKeys_sortKeys item first, distinctItems_sortItems items later⟩

theorem distinctFields_sortFields (fields : Params)
    (distinct : DistinctKeys.distinctFields fields) :
    DistinctKeys.distinctFields (sortKeys.sortFields fields) := by
  match fields, distinct with
  | [], _ => trivial
  | (_, item) :: fields, ⟨first, later⟩ =>
      exact ⟨distinctKeys_sortKeys item first, distinctFields_sortFields fields later⟩

end

/-- Canonical JSON determines a document up to the order of its keys. -/
theorem canonicalJson_inj {platform : Platform} (floats : FloatReading platform)
    {left right : Value} (leftDistinct : DistinctKeys left) (rightDistinct : DistinctKeys right)
    (equal : canonicalJson platform left = canonicalJson platform right) :
    sortKeys left = sortKeys right := by
  rw [canonicalJson_eq_jsonDumps, canonicalJson_eq_jsonDumps] at equal
  exact jsonDumps_inj floats (by simp) (distinctKeys_sortKeys left leftDistinct)
    (distinctKeys_sortKeys right rightDistinct) equal

end Era.Security
