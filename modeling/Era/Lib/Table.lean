import Mathlib.Tactic.TypeStar

/-!
# Tables of rows under a key

A table is the list of its rows, and a row is found and written by its key.  A property of
the rows of one key survives whatever leaves those rows alone.
-/

namespace Era.Lib.Table

variable {Row Key : Type*} [DecidableEq Key] (key : Row → Key)

/-- The first row of a key. -/
def find (table : List Row) (wanted : Key) : Option Row :=
  table.find? fun row => key row == wanted

/-- A row is written over the rows with its key. -/
def store (table : List Row) (row : Row) : List Row :=
  table.map fun other => if key other = key row then row else other

/-- The rows of a key are deleted. -/
def delete (table : List Row) (wanted : Key) : List Row :=
  table.filter fun row => key row != wanted

/-- The rows of a key are changed. -/
def amend (table : List Row) (wanted : Key) (change : Row → Row) : List Row :=
  table.map fun row => if key row = wanted then change row else row

/-- Every row of a key has a property. -/
def Holds (wanted : Key) (property : Row → Prop) (table : List Row) : Prop :=
  ∀ row ∈ table, key row = wanted → property row

variable {key} {table : List Row} {wanted : Key} {property : Row → Prop}

theorem find_eq_some {row : Row} (found : find key table wanted = some row) :
    row ∈ table ∧ key row = wanted :=
  ⟨List.mem_of_find?_eq_some found, by simpa using List.find?_some found⟩

theorem ne_of_find_eq_none (absent : find key table wanted = none) {row : Row}
    (member : row ∈ table) : key row ≠ wanted := by
  simpa using List.find?_eq_none.mp absent row member

theorem mem_store {row other : Row} (member : other ∈ store key table row) :
    other = row ∨ other ∈ table ∧ key other ≠ key row := by
  obtain ⟨earlier, in_table, written⟩ := List.mem_map.mp member
  split at written
  next => exact .inl written.symm
  next different =>
    subst written
    exact .inr ⟨in_table, different⟩

theorem Holds.find (holds : Holds key wanted property table) {row : Row}
    (found : find key table wanted = some row) : property row :=
  holds row (find_eq_some found).1 (find_eq_some found).2

/-- The only row of a key is a new one. -/
theorem Holds.of_absent (absent : Table.find key table wanted = none) :
    Holds key wanted property table :=
  fun _ member same => absurd same (ne_of_find_eq_none absent member)

omit [DecidableEq Key] in
theorem Holds.insert (holds : Holds key wanted property table) {row : Row}
    (fits : key row = wanted → property row) : Holds key wanted property (table ++ [row]) := by
  intro other member same
  obtain in_table | is_new := List.mem_append.mp member
  · exact holds other in_table same
  · rw [List.mem_singleton.mp is_new] at same ⊢
    exact fits same

theorem Holds.store (holds : Holds key wanted property table) {row : Row}
    (fits : key row = wanted → property row) : Holds key wanted property (store key table row) := by
  intro other member same
  obtain rfl | ⟨in_table, _⟩ := mem_store member
  · exact fits same
  · exact holds other in_table same

/-- Writing a row of the key leaves no other row of it. -/
theorem Holds.of_store {row : Row} (named : key row = wanted) (fits : property row) :
    Holds key wanted property (Table.store key table row) := by
  intro other member same
  obtain rfl | ⟨_, different⟩ := mem_store member
  · exact fits
  · exact absurd (same.trans named.symm) different

theorem Holds.delete (holds : Holds key wanted property table) (other : Key) :
    Holds key wanted property (delete key table other) :=
  fun row member => holds row (List.mem_filter.mp member).1

/-! ## Distinct keys -/

theorem map_key_store (row : Row) : (store key table row).map key = table.map key := by
  unfold store
  rw [List.map_map]
  apply List.map_congr_left
  intro other _
  rw [Function.comp_apply]
  split
  next same => exact same.symm
  next => rfl

theorem nodup_delete (distinct : (table.map key).Nodup) (wanted : Key) :
    ((delete key table wanted).map key).Nodup :=
  distinct.sublist (List.filter_sublist.map key)

theorem nodup_append {row : Row} (distinct : (table.map key).Nodup)
    (absent : find key table (key row) = none) : ((table ++ [row]).map key).Nodup := by
  rw [List.map_append, List.map_singleton]
  refine List.nodup_append.mpr ⟨distinct, List.pairwise_singleton _ _, ?_⟩
  rintro _ stored _ new rfl
  obtain ⟨other, member, same⟩ := List.mem_map.mp stored
  rw [List.mem_singleton.mp new] at same
  exact ne_of_find_eq_none absent member same

/-- With distinct keys, a row is found by its key. -/
theorem find_of_mem (distinct : (table.map key).Nodup) {row : Row} (member : row ∈ table) :
    find key table (key row) = some row := by
  unfold find
  induction table with
  | nil => cases member
  | cons first rest ih =>
      obtain ⟨fresh, distinct_rest⟩ := List.nodup_cons.mp distinct
      obtain rfl | later := List.mem_cons.mp member
      · exact List.find?_cons_of_pos (beq_self_eq_true _)
      · have different : key first ≠ key row :=
          fun same => fresh (List.mem_map.mpr ⟨row, later, same.symm⟩)
        rw [List.find?_cons_of_neg (by simpa using different)]
        exact ih distinct_rest later

/-! ## What is found after a change -/

theorem find_store_self {row earlier : Row} (found : find key table (key row) = some earlier) :
    find key (store key table row) (key row) = some row := by
  unfold find store at *
  induction table with
  | nil => cases found
  | cons first rest ih =>
      rw [List.map_cons]
      by_cases same : key first = key row
      · rw [if_pos same, List.find?_cons_of_pos (by simp)]
      · rw [if_neg same, List.find?_cons_of_neg (by simpa using same)]
        rw [List.find?_cons_of_neg (by simpa using same)] at found
        exact ih found

theorem find_store_ne {row : Row} (different : wanted ≠ key row) :
    find key (store key table row) wanted = find key table wanted := by
  unfold find store
  induction table with
  | nil => rfl
  | cons first rest ih =>
      rw [List.map_cons]
      by_cases same : key first = key row
      · rw [if_pos same, List.find?_cons_of_neg (by simpa using different.symm),
          List.find?_cons_of_neg (by simpa [same] using different.symm)]
        exact ih
      · rw [if_neg same, List.find?_cons, List.find?_cons, ih]

theorem find_append_self {row : Row} (absent : find key table (key row) = none) :
    find key (table ++ [row]) (key row) = some row := by
  unfold find at *
  rw [List.find?_append, absent, Option.none_or, List.find?_cons_of_pos (by simp)]

theorem find_append_ne {row : Row} (different : wanted ≠ key row) :
    find key (table ++ [row]) wanted = find key table wanted := by
  unfold find
  rw [List.find?_append, List.find?_cons_of_neg (by simpa using different.symm), List.find?_nil,
    Option.or_none]

theorem find_append_of_some {row found : Row} (stored : find key table wanted = some found) :
    find key (table ++ [row]) wanted = some found := by
  unfold find at *
  rw [List.find?_append, stored, Option.some_or]

/-- A change of all rows that keeps their keys. -/
theorem find_map {change : Row → Row} (keeps : ∀ row, key (change row) = key row) :
    find key (table.map change) wanted = (find key table wanted).map change := by
  unfold find
  rw [List.find?_map]
  congr 2
  funext row
  rw [Function.comp_apply, keeps]

/-! ## What is found after an amendment -/

section Amend

variable {change : Row → Row} {Field : Type*} {field : Row → Field}

theorem field_amend (keeps : ∀ row, field (change row) = field row) (row : Row) :
    field (if key row = wanted then change row else row) = field row := by
  split
  · exact keeps row
  · rfl

theorem map_amend (keeps : ∀ row, field (change row) = field row) :
    (amend key table wanted change).map field = table.map field := by
  unfold amend
  rw [List.map_map]
  exact List.map_congr_left fun row _ => field_amend keeps row

theorem nodup_amend (keeps : ∀ row, field (change row) = field row)
    (distinct : (table.map field).Nodup) :
    ((amend key table wanted change).map field).Nodup := by
  rwa [map_amend keeps]

/-- Rows can be looked for by any field that an amendment keeps. -/
theorem find_amend [DecidableEq Field] (keeps : ∀ row, field (change row) = field row)
    (value : Field) :
    find field (amend key table wanted change) value =
      (find field table value).map fun row => if key row = wanted then change row else row :=
  find_map (field_amend keeps)

theorem find_amend_self (keeps : ∀ row, key (change row) = key row) {row : Row}
    (found : find key table wanted = some row) :
    find key (amend key table wanted change) wanted = some (change row) := by
  rw [find_amend keeps, found, Option.map_some, if_pos (find_eq_some found).2]

theorem find_amend_ne (keeps : ∀ row, key (change row) = key row) {other : Key}
    (different : other ≠ wanted) :
    find key (amend key table wanted change) other = find key table other := by
  rw [find_amend keeps]
  cases found : find key table other with
  | none => rfl
  | some row =>
      rw [Option.map_some, if_neg]
      rwa [(find_eq_some found).2]

theorem mem_amend {row : Row} (member : row ∈ amend key table wanted change) :
    ∃ earlier ∈ table, row = if key earlier = wanted then change earlier else earlier := by
  obtain ⟨earlier, inside, rfl⟩ := List.mem_map.mp member
  exact ⟨earlier, inside, rfl⟩

end Amend

/-! ## What is found after a deletion -/

theorem mem_delete {row : Row} :
    row ∈ delete key table wanted ↔ row ∈ table ∧ key row ≠ wanted := by
  rw [delete, List.mem_filter, bne_iff_ne]

theorem find_delete_self : find key (delete key table wanted) wanted = none := by
  refine List.find?_eq_none.mpr fun row member => ?_
  simpa using (mem_delete.mp member).2

theorem find_delete_ne {other : Key} (different : wanted ≠ other) :
    find key (delete key table other) wanted = find key table wanted := by
  unfold find delete
  rw [List.find?_filter]
  congr 1
  funext row
  by_cases same : key row = wanted
  · simp [same, different]
  · simp [same]

end Era.Lib.Table
