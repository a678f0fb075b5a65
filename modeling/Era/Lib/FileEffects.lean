import Era.Lib.FileCalls

/-!
# The effects of calls on files

On a path without links a call changes the node at that path, or makes the directories above
it, or moves what is at and below it.
-/

namespace Era.Lib.Files

namespace FileSystem

variable {Name Byte : Type} [DecidableEq Name] {fs after : FileSystem Name Byte}
variable {obstacles : Obstacles Name} {path source target : List Name}

theorem place_of_locate {place : List Name} (canonical : fs.Canonical path)
    (ok : fs.locate path = .ok place) : place = path := by
  rw [locate_eq_reach canonical] at ok
  exact reach_ok ok

theorem place_of_directoryAt {place : { place : List Name // fs.get place = some .directory }}
    (canonical : fs.Canonical path) (ok : fs.directoryAt path = .ok place) : place.1 = path := by
  unfold directoryAt at ok
  split at ok
  next => cases ok
  next found located =>
    split at ok
    next =>
      obtain rfl := Except.ok.inj ok
      exact place_of_locate canonical located
    all_goals cases ok

theorem place_of_entryAt {entry : fs.EntryAt} (canonical : fs.Canonical path)
    (ok : fs.entryAt path = .ok entry) : entry.place = path := by
  unfold entryAt at ok
  split at ok
  next => cases ok
  next init name split =>
    obtain rfl := eq_of_splitLast split
    cases at_init : fs.directoryAt init with
    | error errno =>
        rw [at_init] at ok
        cases ok
    | ok place =>
        rw [at_init] at ok
        obtain rfl := Except.ok.inj ok
        have init_eq := place_of_directoryAt (canonical.above (List.prefix_append _ _)) at_init
        exact congrArg (· ++ [name]) init_eq

/-! ## One node -/

/-- The node at one path is another one, and all others are the same. -/
def Updated (fs after : FileSystem Name Byte) (path : List Name)
    (node : Option (Node Name Byte)) : Prop :=
  ∀ other, after.get other = if other = path then node else fs.get other

theorem Updated.self {node : Option (Node Name Byte)} (updated : Updated fs after path node) :
    after.get path = node := (updated path).trans (if_pos rfl)

theorem Updated.ne {node : Option (Node Name Byte)} (updated : Updated fs after path node)
    {other : List Name} (different : other ≠ path) : after.get other = fs.get other :=
  (updated other).trans (if_neg different)

theorem updated_insert {entry : fs.EntryAt} (node : Node Name Byte) (place_eq : entry.place = path)
    (free : fs.get entry.place = none) :
    Updated fs (fs.insert entry.directory entry.name node entry.inside free) path (some node) := by
  intro other
  rw [← place_eq]
  exact get_insert _ _ other

theorem updated_erase {entry : fs.EntryAt} (place_eq : entry.place = path)
    (leaf : ∀ name, fs.get (entry.place ++ [name]) = none) :
    Updated fs (fs.erase entry.place entry.place_ne_nil leaf) path none := by
  intro other
  rw [← place_eq]
  exact get_erase _ _ other

theorem mkdir_ok (canonical : fs.Canonical path) (ok : fs.mkdir obstacles path = .ok after) :
    fs.get path = none ∧ Updated fs after path (some .directory) := by
  unfold mkdir at ok
  split at ok
  next => cases ok
  next => cases ok
  next entry at_entry =>
    have place_eq := place_of_entryAt canonical at_entry
    split at ok
    next => cases ok
    next free =>
      split at ok
      next => cases ok
      next =>
        obtain rfl := Except.ok.inj ok
        exact ⟨place_eq ▸ free, updated_insert .directory place_eq free⟩

theorem unlink_ok (canonical : fs.Canonical path) (ok : fs.unlink obstacles path = .ok after) :
    (∃ node, fs.get path = some node ∧ node ≠ .directory) ∧ Updated fs after path none := by
  unfold unlink at ok
  split at ok
  next => cases ok
  next entry at_entry =>
    have place_eq := place_of_entryAt canonical at_entry
    split at ok
    next => cases ok
    next plain =>
      split at ok
      next => cases ok
      next there =>
        split at ok
        next => cases ok
        next =>
          obtain rfl := Except.ok.inj ok
          refine ⟨?_, updated_erase place_eq _⟩
          rw [place_eq] at there plain
          obtain ⟨node, found⟩ :=
            Option.ne_none_iff_exists'.mp (mt Option.isNone_iff_eq_none.mpr there)
          refine ⟨node, found, ?_⟩
          rintro rfl
          exact plain (Node.any_isDirectory_iff.mpr found)

theorem rmdir_ok (canonical : fs.Canonical path) (ok : fs.rmdir obstacles path = .ok after) :
    fs.get path = some .directory ∧ (∀ name, fs.get (path ++ [name]) = none) ∧
      Updated fs after path none := by
  unfold rmdir at ok
  split at ok
  next => cases ok
  next entry at_entry =>
    have place_eq := place_of_entryAt canonical at_entry
    split at ok
    next => cases ok
    next =>
      split at ok
      next => cases ok
      next directory =>
        split at ok
        next empty =>
          split at ok
          next => cases ok
          next =>
            obtain rfl := Except.ok.inj ok
            refine ⟨?_, ?_, updated_erase place_eq _⟩
            · rw [Bool.not_eq_true', Bool.not_eq_false, place_eq] at directory
              exact Node.any_isDirectory_iff.mp directory
            · exact place_eq ▸ get_of_children_eq_nil empty
        next => cases ok

/-- A write that has got to the file leaves what of the content it has written. -/
theorem writeFile_cases {content : List Byte} {outcome : Except Errno Unit}
    (canonical : fs.Canonical path)
    (result : fs.writeFile obstacles path content = (after, outcome)) :
    (after = fs ∧ ∃ errno, outcome = .error errno) ∨
      outcome = (obstacles.written path content).2 ∧
        (∀ node, fs.get path = some node → ∃ old, node = .file old) ∧
        Updated fs after path (some (.file (obstacles.written path content).1)) := by
  have failed {errno : Errno} (same : (fs, Except.error errno) = (after, outcome)) :
      after = fs ∧ ∃ errno, outcome = .error errno := by
    obtain ⟨rfl, rfl⟩ := Prod.mk.inj same
    exact ⟨rfl, errno, rfl⟩
  unfold writeFile at result
  split at result
  next => exact .inl (failed result)
  next place located =>
    obtain rfl := place_of_locate canonical located
    split at result
    next => exact .inl (failed result)
    next =>
      split at result
      next old found =>
        obtain ⟨rfl, rfl⟩ := Prod.mk.inj result
        refine .inr ⟨rfl, fun node there => ⟨old, ?_⟩, get_overwrite _⟩
        exact Option.some.inj (there.symm.trans found)
      next => exact .inl (failed result)
      next => exact .inl (failed result)
      next absent =>
        split at result
        next => exact .inl (failed result)
        next entry at_entry =>
          have place_eq := place_of_entryAt canonical at_entry
          split at result
          next => exact .inl (failed result)
          next =>
            obtain ⟨rfl, rfl⟩ := Prod.mk.inj result
            refine .inr ⟨rfl, fun node there => ?_, fun other => ?_⟩
            · rw [absent] at there
              cases there
            · exact updated_insert _ place_eq _ other

theorem readFile_ok {content : List Byte} (canonical : fs.Canonical path)
    (ok : fs.readFile obstacles path = .ok content) : fs.get path = some (.file content) := by
  unfold readFile at ok
  split at ok
  next => cases ok
  next place located =>
    obtain rfl := place_of_locate canonical located
    split at ok
    next => cases ok
    next =>
      split at ok
      next found =>
        obtain rfl := Except.ok.inj ok
        exact found
      all_goals cases ok

theorem scan_ok {names : List Name} (canonical : fs.Canonical path)
    (ok : fs.scan obstacles path = .ok names) :
    names = fs.children path := by
  unfold scan at ok
  split at ok
  next => cases ok
  next place located =>
    split at ok
    next => cases ok
    next =>
      obtain rfl := Except.ok.inj ok
      rw [place_of_directoryAt canonical located]

theorem stat_ok {node : Node Name Byte} (canonical : fs.Canonical path)
    (ok : fs.stat obstacles path = .ok (some node)) : fs.get path = some node := by
  unfold stat at ok
  split at ok
  iterate 4
    next => cases ok
  next =>
    obtain ⟨place, located, found⟩ := Option.bind_eq_some_iff.mp (Except.ok.inj ok)
    cases at_path : fs.locate path with
    | error errno =>
        rw [at_path] at located
        cases located
    | ok other =>
        rw [at_path] at located
        obtain rfl := Option.some.inj located
        rwa [place_of_locate canonical at_path] at found

theorem isDirectory_ok (canonical : fs.Canonical path)
    (ok : fs.isDirectory obstacles path = .ok true) : fs.get path = some .directory := by
  unfold isDirectory at ok
  split at ok
  next => cases ok
  next node at_path =>
    obtain rfl := Node.any_isDirectory_iff.mp (Except.ok.inj ok)
    exact stat_ok canonical at_path

/-! ## Directories above a path -/

/-- Some of the paths above a path, or the path itself, have become directories. -/
def Grown (fs after : FileSystem Name Byte) (path : List Name) : Prop :=
  ∀ other, after.get other = fs.get other ∨
    other <+: path ∧ fs.get other = none ∧ after.get other = some .directory

theorem Grown.refl (fs : FileSystem Name Byte) (path : List Name) : Grown fs fs path :=
  fun _ => .inl rfl

theorem Grown.trans {middle : FileSystem Name Byte} {above : List Name}
    (first : Grown fs middle above) (begins : above <+: path) (second : Grown middle after path) :
    Grown fs after path := by
  intro other
  obtain same | ⟨inside, absent, made⟩ := second other
  · obtain earlier | ⟨inside, absent, made⟩ := first other
    · exact .inl (same.trans earlier)
    · exact .inr ⟨inside.trans begins, absent, same.trans made⟩
  · obtain earlier | ⟨_, _, before⟩ := first other
    · exact .inr ⟨inside, earlier.symm.trans absent, made⟩
    · rw [absent] at before
      cases before

theorem Grown.canonical {place : List Name} (grown : Grown fs after path)
    (canonical : fs.Canonical place) : after.Canonical place := by
  intro above begins target linked
  obtain same | ⟨_, _, made⟩ := grown above
  · exact canonical above begins target (same.symm.trans linked)
  · rw [made] at linked
    cases linked

theorem grown_of_updated (absent : fs.get path = none)
    (updated : Updated fs after path (some .directory)) : Grown fs after path := by
  intro other
  by_cases same : other = path
  · subst same
    exact .inr ⟨List.prefix_refl _, absent, updated.self⟩
  · exact .inl (updated.ne same)

theorem mkdirHere_cases {outcome : Except Errno Unit} (canonical : fs.Canonical path)
    (result : fs.mkdirHere obstacles path = (after, outcome)) :
    Grown fs after path ∧ (outcome = .ok () → after.get path = some .directory) := by
  unfold mkdirHere at result
  split at result
  next made ok =>
    obtain ⟨rfl, rfl⟩ := Prod.mk.inj result
    obtain ⟨absent, updated⟩ := mkdir_ok canonical ok
    exact ⟨grown_of_updated absent updated, fun _ => updated.self⟩
  next =>
    obtain ⟨rfl, rfl⟩ := Prod.mk.inj result
    exact ⟨.refl _ _, fun ok => by cases ok⟩
  next =>
    split at result
    next there =>
      obtain ⟨rfl, rfl⟩ := Prod.mk.inj result
      exact ⟨.refl _ _, fun _ => isDirectory_ok canonical there⟩
    all_goals
      obtain ⟨rfl, rfl⟩ := Prod.mk.inj result
      exact ⟨.refl _ _, fun ok => by cases ok⟩

theorem mkdirsUp_cases {names : List Name} {outcome : Except Errno Unit}
    (canonical : fs.Canonical names.reverse)
    (result : fs.mkdirsUp obstacles names = (after, outcome)) :
    Grown fs after names.reverse ∧
      (outcome = .ok () → after.get names.reverse = some .directory) := by
  induction names generalizing after outcome with
  | nil => exact mkdirHere_cases canonical result
  | cons name above ih =>
      rw [List.reverse_cons] at canonical ⊢
      have parent := canonical.above (List.prefix_append above.reverse [name])
      unfold mkdirsUp at result
      split at result
      next =>
        split at result
        next middle made =>
          obtain ⟨grown, _⟩ := ih parent made
          obtain ⟨later, done⟩ := mkdirHere_cases (grown.canonical canonical) result
          exact ⟨grown.trans (List.prefix_append _ _) later, done⟩
        next middle errno made =>
          obtain ⟨rfl, rfl⟩ := Prod.mk.inj result
          obtain ⟨grown, _⟩ := ih parent made
          exact ⟨grown.trans (List.prefix_append _ _) (.refl _ _), fun ok => by cases ok⟩
      next made _ here =>
        obtain ⟨rfl, rfl⟩ := Prod.mk.inj result
        exact mkdirHere_cases canonical here

theorem mkdirs_cases {outcome : Except Errno Unit} (canonical : fs.Canonical path)
    (result : fs.mkdirs obstacles path = (after, outcome)) :
    Grown fs after path ∧ (outcome = .ok () → after.get path = some .directory) := by
  have reversed : fs.Canonical path.reverse.reverse := by rwa [List.reverse_reverse]
  have cases := mkdirsUp_cases reversed result
  rwa [List.reverse_reverse] at cases

/-! ## Moves -/

/-- What was at and below a path is at and below another one, where nothing has been. -/
structure Relocated (fs after : FileSystem Name Byte) (source target : List Name) : Prop where
  free : ∀ rest, fs.get (target ++ rest) = none
  apart : ¬source <+: target
  below : ∀ rest, after.get (target ++ rest) = fs.get (source ++ rest)
  gone : ∀ other, source <+: other → ¬target <+: other → after.get other = none
  elsewhere : ∀ other, ¬source <+: other → ¬target <+: other → after.get other = fs.get other

theorem relocated {parent : List Name} {name : Name} (movable : Movable fs source parent name) :
    Relocated fs (fs.relocate source parent name movable) source (parent ++ [name]) where
  free := movable.absent
  apart := movable.apart
  below := get_relocate_below movable
  gone _ := get_relocate_source movable
  elsewhere _ := get_relocate_elsewhere movable

theorem rename_ok (canonical : fs.Canonical source) (canonicalTarget : fs.Canonical target)
    (ok : fs.rename obstacles source target = .ok after) :
    (∃ node, fs.get source = some node) ∧
      (source = target ∧ after = fs ∨ Relocated fs after source target) := by
  unfold rename at ok
  split at ok
  next => cases ok
  next => cases ok
  next old new at_old at_new =>
    obtain rfl := place_of_entryAt canonical at_old
    obtain rfl := place_of_entryAt canonicalTarget at_new
    split at ok
    next => cases ok
    next there =>
      refine ⟨Option.ne_none_iff_exists'.mp (mt Option.isNone_iff_eq_none.mpr there), ?_⟩
      split at ok
      next same =>
        obtain rfl := Except.ok.inj ok
        exact .inl ⟨same, rfl⟩
      next =>
        split at ok
        next => cases ok
        next apart =>
          split at ok
          next => cases ok
          next free =>
            split at ok
            next => cases ok
            next =>
              obtain rfl := Except.ok.inj ok
              exact .inr (relocated (movable_of free apart))

/-! ## Contents -/

/-- The contents of all files. -/
def contents (fs : FileSystem Name Byte) : List (List Byte) :=
  fs.nodes.filterMap fun row => row.2.content?

theorem contents_relocate {parent : List Name} {name : Name}
    (movable : Movable fs source parent name) :
    (fs.relocate source parent name movable).contents = fs.contents := by
  unfold contents relocate movedNodes
  dsimp only
  rw [List.filterMap_map]
  rfl

theorem contents_mkdir (ok : fs.mkdir obstacles path = .ok after) :
    after.contents = fs.contents := by
  unfold mkdir at ok
  split at ok
  next => cases ok
  next => cases ok
  next =>
    split at ok
    next => cases ok
    next =>
      split at ok
      next => cases ok
      next =>
        obtain rfl := Except.ok.inj ok
        unfold contents insert
        dsimp only
        rw [List.filterMap_append]
        exact List.append_nil _

theorem contents_mkdirHere (fs : FileSystem Name Byte) (obstacles : Obstacles Name)
    (path : List Name) : (fs.mkdirHere obstacles path).1.contents = fs.contents := by
  unfold mkdirHere
  split
  next made => exact contents_mkdir made
  next => rfl
  next => split <;> rfl

theorem contents_mkdirsUp (fs : FileSystem Name Byte) (obstacles : Obstacles Name)
    (names : List Name) : (fs.mkdirsUp obstacles names).1.contents = fs.contents := by
  induction names with
  | nil => exact contents_mkdirHere fs obstacles []
  | cons name above ih =>
      unfold mkdirsUp
      split
      next =>
        split
        next made =>
          rw [contents_mkdirHere]
          rwa [made] at ih
        next made => rwa [made] at ih
      next after outcome _ here =>
        have kept := contents_mkdirHere fs obstacles (above.reverse ++ [name])
        rwa [here] at kept

theorem contents_mkdirs (fs : FileSystem Name Byte) (obstacles : Obstacles Name)
    (path : List Name) : (fs.mkdirs obstacles path).1.contents = fs.contents :=
  contents_mkdirsUp fs obstacles path.reverse

theorem contents_rename (ok : fs.rename obstacles source target = .ok after) :
    after.contents = fs.contents := by
  unfold rename at ok
  split at ok
  next => cases ok
  next => cases ok
  next =>
    split at ok
    next => cases ok
    next =>
      split at ok
      next =>
        obtain rfl := Except.ok.inj ok
        rfl
      next =>
        split at ok
        next => cases ok
        next =>
          split at ok
          next => cases ok
          next =>
            split at ok
            next => cases ok
            next =>
              obtain rfl := Except.ok.inj ok
              exact contents_relocate _

/-- One file is lost at most. -/
structure LosesOne (fs after : FileSystem Name Byte) : Prop where
  sublist : after.contents.Sublist fs.contents
  length_le : fs.contents.length ≤ after.contents.length + 1

theorem length_filterMap_le {Row Value : Type} {read : Row → Option Value} (keeps : Row → Bool)
    (rows : List Row) : (rows.filterMap read).length ≤
      ((rows.filter keeps).filterMap read).length + rows.countP (fun row => !keeps row) := by
  induction rows with
  | nil => exact le_rfl
  | cons row rest ih =>
      by_cases kept : keeps row = true
      · rw [List.filter_cons_of_pos kept, List.countP_cons_of_neg (by simp [kept])]
        cases at_row : read row with
        | none => rwa [List.filterMap_cons_none at_row, List.filterMap_cons_none at_row]
        | some value =>
            rw [List.filterMap_cons_some at_row, List.filterMap_cons_some at_row,
              List.length_cons, List.length_cons]
            omega
      · rw [List.filter_cons_of_neg kept, List.countP_cons_of_pos (by simp [kept])]
        have shorter :
            ((row :: rest).filterMap read).length ≤ (rest.filterMap read).length + 1 := by
          cases at_row : read row with
          | none => rw [List.filterMap_cons_none at_row]; omega
          | some value => rw [List.filterMap_cons_some at_row, List.length_cons]
        omega

theorem losesOne_erase (below : path ≠ []) (leaf : ∀ name, fs.get (path ++ [name]) = none) :
    LosesOne fs (fs.erase path below leaf) where
  sublist := List.filter_sublist.filterMap _
  length_le := by
    have once := List.nodup_iff_count_le_one.mp fs.distinct path
    rw [List.count, List.countP_map] at once
    unfold contents erase Table.delete
    refine (length_filterMap_le _ fs.nodes).trans (Nat.add_le_add_left ?_ _)
    refine le_trans (le_of_eq (List.countP_congr fun row _ => ?_)) once
    simp

theorem losesOne_unlink (ok : fs.unlink obstacles path = .ok after) : LosesOne fs after := by
  unfold unlink at ok
  split at ok
  next => cases ok
  next =>
    split at ok
    next => cases ok
    next =>
      split at ok
      next => cases ok
      next =>
        split at ok
        next => cases ok
        next =>
          obtain rfl := Except.ok.inj ok
          exact losesOne_erase _ _

theorem losesOne_rmdir (ok : fs.rmdir obstacles path = .ok after) : LosesOne fs after := by
  unfold rmdir at ok
  split at ok
  next => cases ok
  next =>
    split at ok
    next => cases ok
    next =>
      split at ok
      next => cases ok
      next =>
        split at ok
        next =>
          split at ok
          next => cases ok
          next =>
            obtain rfl := Except.ok.inj ok
            exact losesOne_erase _ _
        next => cases ok

end FileSystem

end Era.Lib.Files
