import Era.Workflows.Engine
import Mathlib.Data.List.Induction

/-!
# What receipts carry

A receipt is a copy of the data of a provider without references and secrets.  Arrays that stand
in arrays are copied as they are, and outputs go into the receipt under any name.
-/

namespace Era.Workflows

open Era.Core

/-! ## References and secrets -/

/-- Whether a key that has no place in a receipt occurs at any depth. -/
def carriesDropped : Value → Bool
  | .none | .bool _ | .int _ | .float _ | .str _ => false
  | .list items => inItems items
  | .dict fields => inFields fields
where
  inItems : List Value → Bool
    | [] => false
    | item :: rest => carriesDropped item || inItems rest
  inFields : Params → Bool
    | [] => false
    | (key, item) :: rest => isDroppedKey key || carriesDropped item || inFields rest

/-- Whether such a key occurs in an array that stands in an array, under keys that are kept. -/
def nestedDropped : Value → Bool
  | .none | .bool _ | .int _ | .float _ | .str _ | .list _ => false
  | .dict fields => inFields fields
where
  inFields : Params → Bool
    | [] => false
    | (key, .dict fields) :: rest => (!isDroppedKey key && inFields fields) || inFields rest
    | (key, .list items) :: rest => (!isDroppedKey key && inItems items) || inFields rest
    | _ :: rest => inFields rest
  inItems : List Value → Bool
    | [] => false
    | .dict fields :: rest => inFields fields || inItems rest
    | .list items :: rest => carriesDropped (.list items) || inItems rest
    | _ :: rest => inItems rest

/-- Neither the receipt of a result nor what the outputs make of it carries a reference or a
secret. -/
structure KeepsOut (data : Value) (outputs : List (String × String)) : Prop where
  sanitized : carriesDropped (sanitizeReceipt data) = false
  captured : ∀ receipt, sanitizeReceipt data = .dict receipt →
    carriesDropped (.dict (captureOutputs receipt outputs)) = false

mutual

theorem carriesDropped_sanitizeFields (fields : Params) :
    carriesDropped.inFields (sanitizeFields fields) = nestedDropped.inFields fields := by
  cases fields with
  | nil => simp [sanitizeFields, carriesDropped.inFields, nestedDropped.inFields]
  | cons field rest =>
      obtain ⟨key, item⟩ := field
      have at_rest := carriesDropped_sanitizeFields rest
      rw [sanitizeFields]
      split
      next dropped => cases item <;> simp [nestedDropped.inFields, at_rest, dropped]
      next kept =>
        rw [carriesDropped.inFields, at_rest]
        have kept_eq : isDroppedKey key = false := Bool.eq_false_of_not_eq_true kept
        cases item with
        | none | bool | int | float | str =>
            simp [sanitizeFields.sanitizeValue, carriesDropped, nestedDropped.inFields, kept_eq]
        | list items =>
            simp [sanitizeFields.sanitizeValue, carriesDropped, nestedDropped.inFields, kept_eq,
              carriesDropped_sanitizeItems items]
        | dict found =>
            simp [sanitizeFields.sanitizeValue, carriesDropped, nestedDropped.inFields, kept_eq,
              carriesDropped_sanitizeFields found]

theorem carriesDropped_sanitizeItems (items : List Value) :
    carriesDropped.inItems (sanitizeFields.sanitizeItems items) = nestedDropped.inItems items := by
  cases items with
  | nil => simp [sanitizeFields.sanitizeItems, carriesDropped.inItems, nestedDropped.inItems]
  | cons item rest =>
      have at_rest := carriesDropped_sanitizeItems rest
      cases item with
      | none | bool | int | float | str =>
          simp [sanitizeFields.sanitizeItems, carriesDropped, carriesDropped.inItems,
            nestedDropped.inItems, at_rest]
      | list items =>
          simp [sanitizeFields.sanitizeItems, carriesDropped, carriesDropped.inItems,
            nestedDropped.inItems, at_rest]
      | dict fields =>
          simp [sanitizeFields.sanitizeItems, carriesDropped, carriesDropped.inItems,
            nestedDropped.inItems, at_rest, carriesDropped_sanitizeFields fields]

end

/-- What a receipt carries is what stands in nested arrays of the data. -/
theorem carriesDropped_sanitizeReceipt (data : Value) :
    carriesDropped (sanitizeReceipt data) = nestedDropped data := by
  cases data with
  | dict fields =>
      rw [sanitizeReceipt, carriesDropped, nestedDropped]
      exact carriesDropped_sanitizeFields fields
  | none | bool | int | float | str | list =>
      simp [sanitizeReceipt, carriesDropped, carriesDropped.inFields, nestedDropped]

mutual

theorem nestedDropped_fields (fields : Params) :
    carriesDropped.inFields fields = false → nestedDropped.inFields fields = false := by
  cases fields with
  | nil => simp [nestedDropped.inFields]
  | cons field rest =>
      obtain ⟨key, item⟩ := field
      intro clean
      rw [carriesDropped.inFields, Bool.or_eq_false_iff, Bool.or_eq_false_iff] at clean
      obtain ⟨⟨_, clean_item⟩, clean_rest⟩ := clean
      have at_rest := nestedDropped_fields _ clean_rest
      cases item with
      | none | bool | int | float | str => simpa [nestedDropped.inFields] using at_rest
      | list items =>
          rw [carriesDropped] at clean_item
          simp [nestedDropped.inFields, at_rest, nestedDropped_items _ clean_item]
      | dict fields =>
          rw [carriesDropped] at clean_item
          simp [nestedDropped.inFields, at_rest, nestedDropped_fields _ clean_item]

theorem nestedDropped_items (items : List Value) :
    carriesDropped.inItems items = false → nestedDropped.inItems items = false := by
  cases items with
  | nil => simp [nestedDropped.inItems]
  | cons item rest =>
      intro clean
      rw [carriesDropped.inItems, Bool.or_eq_false_iff] at clean
      obtain ⟨clean_item, clean_rest⟩ := clean
      have at_rest := nestedDropped_items _ clean_rest
      cases item with
      | none | bool | int | float | str => simpa [nestedDropped.inItems] using at_rest
      | list items => simp [nestedDropped.inItems, at_rest, clean_item]
      | dict fields =>
          rw [carriesDropped] at clean_item
          simp [nestedDropped.inItems, at_rest, nestedDropped_fields _ clean_item]

end

/-- What carries nothing is sanitised to something that carries nothing. -/
theorem carriesDropped_of_clean {value : Value} (clean : carriesDropped value = false) :
    carriesDropped (sanitizeReceipt value) = false := by
  rw [carriesDropped_sanitizeReceipt]
  cases value with
  | dict fields =>
      rw [carriesDropped] at clean
      rw [nestedDropped]
      exact nestedDropped_fields _ clean
  | none | bool | int | float | str | list => simp [nestedDropped]

section Fields

variable {receipt : Params}

theorem kept_of_lookup (clean : carriesDropped.inFields receipt = false) {key : String}
    {value : Value} (found : receipt.lookup key = some value) :
    isDroppedKey key = false ∧ carriesDropped value = false := by
  induction receipt with
  | nil => cases found
  | cons field rest ih =>
      obtain ⟨other, item⟩ := field
      rw [carriesDropped.inFields, Bool.or_eq_false_iff, Bool.or_eq_false_iff] at clean
      rw [List.lookup_cons] at found
      split at found
      next same =>
        obtain rfl := Option.some.inj found
        rw [beq_iff_eq] at same
        exact ⟨same ▸ clean.1.1, clean.1.2⟩
      next => exact ih clean.2 found

theorem carriesDropped_get (clean : carriesDropped.inFields receipt = false) (key : String) :
    carriesDropped (receipt.get key) = false := by
  unfold Params.get
  cases found : receipt.lookup key with
  | none => simp [carriesDropped]
  | some value => exact (kept_of_lookup clean found).2

theorem carriesDropped_set (clean : carriesDropped.inFields receipt = false) (key : String)
    {value : Value} (clean_value : carriesDropped value = false) :
    carriesDropped.inFields (receipt.set key value) = isDroppedKey key := by
  induction receipt with
  | nil => simp [Params.set, carriesDropped.inFields, clean_value]
  | cons field rest ih =>
      obtain ⟨other, item⟩ := field
      rw [carriesDropped.inFields, Bool.or_eq_false_iff, Bool.or_eq_false_iff] at clean
      obtain ⟨⟨kept, clean_item⟩, clean_rest⟩ := clean
      rw [Params.set]
      split
      next => simp [carriesDropped.inFields, clean_value, clean_rest]
      next => simp [carriesDropped.inFields, kept, clean_item, ih clean_rest]

/-- A further output is written into what has been captured. -/
theorem captureOutputs_concat (receipt : Params) (earlier : List (String × String))
    (output : String × String) :
    captureOutputs receipt (earlier ++ [output]) =
      (captureOutputs receipt earlier).set output.1
        (sanitizeReceipt ((captureOutputs receipt earlier).get output.2)) := by
  rw [captureOutputs, List.foldl_append]
  rfl

/-- Every output has its name in the receipt. -/
theorem captured_of_mem {outputs : List (String × String)} {output : String × String}
    (member : output ∈ outputs) :
    ∃ value, (captureOutputs receipt outputs).lookup output.1 = some value := by
  induction outputs using List.reverseRecOn with
  | nil => cases member
  | append_singleton earlier last ih =>
      rw [captureOutputs_concat]
      by_cases same : output.1 = last.1
      · rw [same, Params.lookup_set_self]
        exact ⟨_, rfl⟩
      · rw [Params.lookup_set_ne _ _ same]
        apply ih
        obtain before | at_last := List.mem_append.mp member
        · exact before
        · exact absurd (congrArg Prod.fst (List.mem_singleton.mp at_last)) same

/-- Outputs add no key to a clean receipt but their names. -/
theorem carriesDropped_capture (clean : carriesDropped.inFields receipt = false)
    (outputs : List (String × String)) :
    carriesDropped.inFields (captureOutputs receipt outputs) = false ↔
      ∀ output ∈ outputs, isDroppedKey output.1 = false := by
  constructor
  · intro captured output member
    obtain ⟨value, found⟩ :
        ∃ value, (captureOutputs receipt outputs).lookup output.1 = some value :=
      captured_of_mem member
    exact (kept_of_lookup captured found).1
  · intro kept
    induction outputs using List.reverseRecOn with
    | nil => exact clean
    | append_singleton earlier last ih =>
        have captured := ih fun output member => kept output (List.mem_append_left _ member)
        rw [captureOutputs_concat,
          carriesDropped_set captured _ (carriesDropped_of_clean (carriesDropped_get captured _))]
        exact kept last (List.mem_append_right _ List.mem_cons_self)

end Fields

/-- A receipt keeps references and secrets out exactly if no array that stands in an array of the
data carries any, and no output has the name of one. -/
theorem keepsOut_iff (data : Value) (outputs : List (String × String)) :
    KeepsOut data outputs ↔
      nestedDropped data = false ∧ ∀ output ∈ outputs, isDroppedKey output.1 = false := by
  have sanitized_eq := carriesDropped_sanitizeReceipt data
  constructor
  · intro keeps
    refine ⟨sanitized_eq ▸ keeps.sanitized, ?_⟩
    obtain ⟨receipt, receipt_eq⟩ : ∃ receipt, sanitizeReceipt data = .dict receipt := by
      cases data <;> exact ⟨_, rfl⟩
    have clean := keeps.sanitized
    have captured := keeps.captured receipt receipt_eq
    rw [receipt_eq, carriesDropped] at clean
    rw [carriesDropped] at captured
    exact (carriesDropped_capture clean outputs).mp captured
  · rintro ⟨nested, kept⟩
    have clean : carriesDropped (sanitizeReceipt data) = false := sanitized_eq.trans nested
    refine ⟨clean, fun receipt receipt_eq => ?_⟩
    rw [receipt_eq, carriesDropped] at clean
    rw [carriesDropped]
    exact (carriesDropped_capture clean outputs).mpr kept

/-- A table of cells, as an inspection may return it. -/
theorem not_keepsOut :
    ¬∀ (data : Value) (outputs : List (String × String)), KeepsOut data outputs := by
  intro keeps
  have sanitized :=
    (keeps (.dict [("rows", .list [.list [.dict [("element_ref", .str "e1")]]])]) []).sanitized
  rw [carriesDropped_sanitizeReceipt] at sanitized
  revert sanitized
  decide +kernel

/-! ## Outputs -/

mutual

theorem sanitizeFields_idem (fields : Params) :
    sanitizeFields (sanitizeFields fields) = sanitizeFields fields := by
  cases fields with
  | nil => simp [sanitizeFields]
  | cons field rest =>
      obtain ⟨key, item⟩ := field
      have at_rest := sanitizeFields_idem rest
      by_cases dropped : isDroppedKey key = true
      · simp [sanitizeFields, dropped, at_rest]
      · cases item with
        | none | bool | int | float | str =>
            simp [sanitizeFields, sanitizeFields.sanitizeValue, dropped, at_rest]
        | list items =>
            simp [sanitizeFields, sanitizeFields.sanitizeValue, dropped, at_rest,
              sanitizeItems_idem items]
        | dict found =>
            simp [sanitizeFields, sanitizeFields.sanitizeValue, dropped, at_rest,
              sanitizeFields_idem found]

theorem sanitizeItems_idem (items : List Value) :
    sanitizeFields.sanitizeItems (sanitizeFields.sanitizeItems items) =
      sanitizeFields.sanitizeItems items := by
  cases items with
  | nil => simp [sanitizeFields.sanitizeItems]
  | cons item rest =>
      have at_rest := sanitizeItems_idem rest
      cases item with
      | none | bool | int | float | str | list =>
          simp [sanitizeFields.sanitizeItems, at_rest]
      | dict found => simp [sanitizeFields.sanitizeItems, at_rest, sanitizeFields_idem found]

end

theorem sanitizeReceipt_idem (value : Value) :
    sanitizeReceipt (sanitizeReceipt value) = sanitizeReceipt value := by
  cases value with
  | dict fields => rw [sanitizeReceipt, sanitizeReceipt, sanitizeFields_idem]
  | none | bool | int | float | str | list => simp [sanitizeReceipt, sanitizeFields]

/-- An output has the sanitised value of its source in the receipt, and the fields that are no
outputs are those of the receipt. -/
structure CapturesFaithfully (receipt : Params) (outputs : List (String × String)) : Prop where
  stored : ∀ name source value, (name, source) ∈ outputs → receipt.lookup source = some value →
    (captureOutputs receipt outputs).lookup name = some (sanitizeFields.sanitizeValue value)
  others : ∀ field, (∀ output ∈ outputs, output.1 ≠ field) →
    (captureOutputs receipt outputs).lookup field = receipt.lookup field

/-- The field of the receipt that a source goes back to through the outputs before it, of which
the last comes first. -/
def originOf : List (String × String) → String → String
  | [], source => source
  | (name, earlier) :: before, source =>
      originOf before (if source = name then earlier else source)

/-- A source that the receipt has holds an object, and if it is the name of an earlier output, the
field that this one goes back to looks the same. -/
def CapturesObjects (receipt : Params) (outputs : List (String × String)) : Prop :=
  ∀ before name source after, outputs = before ++ (name, source) :: after →
    ∀ value, receipt.lookup source = some value →
      (∃ fields, value = .dict fields) ∧
        sanitizeReceipt (receipt.get (originOf before.reverse source)) = sanitizeReceipt value

section Capture

variable {receipt : Params}

/-- An output is what becomes of the field that its source goes back to. -/
theorem sanitize_captured (receipt : Params) (outputs : List (String × String))
    (source : String) :
    sanitizeReceipt ((captureOutputs receipt outputs).get source) =
      sanitizeReceipt (receipt.get (originOf outputs.reverse source)) := by
  induction outputs using List.reverseRecOn generalizing source with
  | nil => rfl
  | append_singleton earlier last ih =>
      rw [captureOutputs_concat, List.reverse_concat, originOf]
      split
      next same =>
        rw [same, Params.get_set_self, sanitizeReceipt_idem]
        exact ih last.2
      next different =>
        rw [Params.get_set_ne _ _ different]
        exact ih source

/-- Fields that are no outputs stay. -/
theorem captured_other {outputs : List (String × String)} {field : String}
    (other : ∀ output ∈ outputs, output.1 ≠ field) :
    (captureOutputs receipt outputs).lookup field = receipt.lookup field := by
  induction outputs using List.reverseRecOn with
  | nil => rfl
  | append_singleton earlier last ih =>
      rw [captureOutputs_concat, Params.lookup_set_ne]
      · exact ih fun output member => other output (List.mem_append_left _ member)
      · exact (other last (List.mem_append_right _ List.mem_cons_self)).symm

/-- What an output has captured is not captured again. -/
theorem captured_at {before after : List (String × String)} {name source : String}
    (distinct : ((before ++ (name, source) :: after).map Prod.fst).Nodup) :
    (captureOutputs receipt (before ++ (name, source) :: after)).lookup name =
      some (sanitizeReceipt (receipt.get (originOf before.reverse source))) := by
  rw [← sanitize_captured]
  rw [List.map_append, List.map_cons] at distinct
  have fresh := (List.nodup_cons.mp (List.nodup_append.mp distinct).2.1).1
  have split_eq : captureOutputs receipt (before ++ (name, source) :: after) =
      captureOutputs (captureOutputs receipt (before ++ [(name, source)])) after := by
    rw [List.append_cons, captureOutputs, List.foldl_append]
    rfl
  rw [split_eq, captured_other, captureOutputs_concat, Params.lookup_set_self]
  rintro output member rfl
  exact fresh (List.mem_map.mpr ⟨output, member, rfl⟩)

end Capture

/-- Only an object is its own receipt. -/
theorem sanitizeReceipt_eq_iff (origin value : Value) :
    sanitizeReceipt origin = sanitizeFields.sanitizeValue value ↔
      (∃ fields, value = .dict fields) ∧ sanitizeReceipt origin = sanitizeReceipt value := by
  cases value with
  | dict fields => simp [sanitizeFields.sanitizeValue, sanitizeReceipt]
  | none | bool | int | float | str | list =>
      cases origin <;> simp [sanitizeFields.sanitizeValue, sanitizeReceipt]

end Era.Workflows
