import Era.Lib.FileEffects

/-!
# File systems that agree below a root

Calls on paths of two file systems that agree at and below a root, where there are no links,
answer alike and leave them in agreement.
-/

namespace Era.Lib.Files

namespace FileSystem

variable {Name Byte : Type} [DecidableEq Name] {fs other : FileSystem Name Byte}
variable {root path : List Name}

/-! ## What calls on an entry answer -/

section Answers

variable (obstacles : Obstacles Name) {entry : fs.EntryAt}
  (at_path : fs.entryAt path = .ok entry) (place_eq : entry.place = path)

include at_path place_eq

theorem mkdir_answer : ∃ after,
    (fs.get path = none → Updated fs after path (some .directory)) ∧
    fs.mkdir obstacles path =
      match fs.get path with
      | some _ => .error .exists
      | none =>
          match obstacles.refuses (.mkdir path) with
          | some errno => .error errno
          | none => .ok after := by
  subst place_eq
  by_cases free : fs.get entry.place = none
  · refine ⟨_, fun _ => updated_insert .directory rfl free, ?_⟩
    unfold mkdir
    rw [at_path]
    dsimp only
    split
    next found =>
      rw [free] at found
      cases found
    next =>
      cases refused : obstacles.refuses (.mkdir entry.place) with
      | some errno => simp only [free]
      | none => simp only [free]
  · refine ⟨fs, fun absent => absurd absent free, ?_⟩
    unfold mkdir
    rw [at_path]
    dsimp only
    split
    next found => simp only [found]
    next absent => exact absurd absent free

theorem unlink_answer : ∃ after,
    (¬(fs.get path).any Node.isDirectory → Updated fs after path none) ∧
    fs.unlink obstacles path =
      if (fs.get path).any Node.isDirectory then .error .isDirectory
      else if (fs.get path).isNone then .error .noEntry
      else
        match obstacles.refuses (.remove path) with
        | some errno => .error errno
        | none => .ok after := by
  subst place_eq
  unfold unlink
  rw [at_path]
  dsimp only
  by_cases directory : (fs.get entry.place).any Node.isDirectory
  · exact ⟨fs, fun plain => absurd directory plain, by rw [dif_pos directory, if_pos directory]⟩
  · exact ⟨fs.erase entry.place entry.place_ne_nil (leaf_of_not_directory directory),
      fun _ => updated_erase rfl _, (dif_neg directory).trans (if_neg directory).symm⟩

theorem rmdir_answer : ∃ after,
    (fs.children path = [] → Updated fs after path none) ∧
    fs.rmdir obstacles path =
      if (fs.get path).isNone then .error .noEntry
      else if !(fs.get path).any Node.isDirectory then .error .notDirectory
      else if fs.children path = [] then
        match obstacles.refuses (.remove path) with
        | some errno => .error errno
        | none => .ok after
      else .error .notEmpty := by
  subst place_eq
  unfold rmdir
  rw [at_path]
  dsimp only
  by_cases empty : fs.children entry.place = []
  · refine ⟨fs.erase entry.place entry.place_ne_nil (get_of_children_eq_nil empty),
      fun _ => updated_erase rfl _, ?_⟩
    cases refused : obstacles.refuses (.remove entry.place) with
    | some errno => simp only [dif_pos empty, if_pos empty]
    | none => simp only [dif_pos empty, if_pos empty]
  · exact ⟨fs, fun none => absurd none empty, by rw [dif_neg empty, if_neg empty]⟩

theorem rename_answer {target : List Name} {new : fs.EntryAt}
    (at_target : fs.entryAt target = .ok new) (target_eq : new.place = target) : ∃ after,
    (fs.get target = none → ¬path <+: target → Relocated fs after path target) ∧
    fs.rename obstacles path target =
      if (fs.get path).isNone then .error .noEntry
      else if path = target then .ok fs
      else if path <+: target then .error .invalid
      else
        match fs.get target with
        | some _ => .error .exists
        | none =>
            match obstacles.refuses (.rename path target) with
            | some errno => .error errno
            | none => .ok after := by
  subst place_eq target_eq
  unfold rename
  rw [at_path, at_target]
  dsimp only
  by_cases apart : entry.place <+: new.place
  · exact ⟨fs, fun _ away => absurd apart away, by rw [dif_pos apart, if_pos apart]⟩
  · by_cases free : fs.get new.place = none
    · refine ⟨_, fun _ _ => relocated (movable_of free apart), ?_⟩
      rw [dif_neg apart, if_neg apart]
      split
      next => rfl
      next =>
        split
        next => rfl
        next =>
          split
          next found =>
            rw [free] at found
            cases found
          next =>
            cases refused : obstacles.refuses (.rename entry.place new.place) with
            | some errno => simp only [free]
            | none => simp only [free]
    · refine ⟨fs, fun absent => absurd absent free, ?_⟩
      rw [dif_neg apart, if_neg apart]
      split
      next => rfl
      next =>
        split
        next => rfl
        next =>
          split
          next found => simp only [found]
          next absent => exact absurd absent free

end Answers

theorem writeFile_answer (fs : FileSystem Name Byte) (obstacles : Obstacles Name)
    (content : List Byte) (canonical : fs.Canonical path) : ∃ after,
    ((∀ node, fs.get path = some node → ∃ old, node = .file old) →
      (fs.get path = none → ∃ entry, fs.entryAt path = .ok entry) →
      Updated fs after path (some (.file (obstacles.written path content).1))) ∧
    fs.writeFile obstacles path content =
      match fs.locate path with
      | .error errno => (fs, .error errno)
      | .ok _ =>
          match obstacles.refuses (.write path) with
          | some errno => (fs, .error errno)
          | none =>
              match fs.get path with
              | some (.file _) => (after, (obstacles.written path content).2)
              | some .directory => (fs, .error .isDirectory)
              | some (.link _) => (fs, .error .loop)
              | none =>
                  match fs.entryAt path with
                  | .error errno => (fs, .error errno)
                  | .ok _ => (after, (obstacles.written path content).2) := by
  have at_place {place : List Name} (located : fs.locate path = .ok place) : place = path :=
    place_of_locate canonical located
  by_cases file : ∃ old, fs.get path = some (.file old)
  · refine ⟨fs.overwrite path (obstacles.written path content).1 file,
      fun _ _ => get_overwrite file, ?_⟩
    unfold writeFile
    cases located : fs.locate path with
    | error errno => rfl
    | ok place =>
        obtain rfl := at_place located
        obtain ⟨old, found⟩ := file
        cases refused : obstacles.refuses (.write place) with
        | some errno => rfl
        | none =>
          dsimp only
          split
          next => simp only [found]
          all_goals
            next other =>
              rw [found] at other
              cases other
  · by_cases enters : fs.get path = none ∧ ∃ entry, fs.entryAt path = .ok entry
    · obtain ⟨absent, entry, at_entry⟩ := enters
      have place_eq := place_of_entryAt canonical at_entry
      have free : fs.get entry.place = none := place_eq ▸ absent
      refine ⟨_, fun _ _ => updated_insert _ place_eq free, ?_⟩
      unfold writeFile
      cases located : fs.locate path with
      | error errno => rfl
      | ok place =>
          obtain rfl := at_place located
          cases refused : obstacles.refuses (.write place) with
          | some errno => rfl
          | none =>
            dsimp only
            split
            iterate 3
              next other =>
                rw [absent] at other
                cases other
            next =>
              rw [at_entry]
              dsimp only
              split
              next other =>
                rw [free] at other
                cases other
              next => simp only [absent]
    · refine ⟨fs, fun only there => ?_, ?_⟩
      · cases found : fs.get path with
        | none => exact absurd ⟨found, there found⟩ enters
        | some node =>
            obtain ⟨old, rfl⟩ := only node found
            exact absurd ⟨old, found⟩ file
      · unfold writeFile
        cases located : fs.locate path with
        | error errno => rfl
        | ok place =>
            obtain rfl := at_place located
            cases refused : obstacles.refuses (.write place) with
            | some errno => rfl
            | none =>
              dsimp only
              split
              next old found => exact absurd ⟨old, found⟩ file
              next found => simp only [found]
              next found => simp only [found]
              next absent =>
                cases at_entry : fs.entryAt place with
                | error errno => simp only [absent]
                | ok entry => exact absurd ⟨absent, entry, at_entry⟩ enters

structure Alike (root : List Name) (fs other : FileSystem Name Byte) : Prop where
  below : ∀ rest, fs.get (root ++ rest) = other.get (root ++ rest)
  directory : fs.get root = some .directory
  canonical : fs.Canonical root
  otherCanonical : other.Canonical root
  free : fs.LinkFree root

/-- A path above or below the root. -/
def Near (root path : List Name) : Prop := path <+: root ∨ root <+: path

omit [DecidableEq Name] in
theorem Near.above {above : List Name} (near : Near root path) (begins : above <+: path) :
    Near root above := by
  obtain higher | under := near
  · exact .inl (begins.trans higher)
  · exact List.prefix_or_prefix_of_prefix begins under

namespace Alike

theorem symm (alike : Alike root fs other) : Alike root other fs where
  below rest := (alike.below rest).symm
  directory := by
    have here := alike.below []
    rw [List.append_nil] at here
    exact here.symm.trans alike.directory
  canonical := alike.otherCanonical
  otherCanonical := alike.canonical
  free rest target := by
    rw [← alike.below rest]
    exact alike.free rest target

theorem get_above (alike : Alike root fs other) (higher : path <+: root) :
    fs.get path = some .directory := by
  obtain ⟨rest, rfl⟩ := higher
  obtain rfl | below := eq_or_ne rest []
  · have here := alike.directory
    rwa [List.append_nil] at here
  · exact FileSystem.get_above alike.directory below

theorem get_eq (alike : Alike root fs other) (near : Near root path) :
    fs.get path = other.get path := by
  obtain higher | ⟨rest, rfl⟩ := near
  · rw [alike.get_above higher, alike.symm.get_above higher]
  · exact alike.below rest

theorem canonical_near (alike : Alike root fs other) (near : Near root path) :
    fs.Canonical path := by
  obtain higher | ⟨rest, rfl⟩ := near
  · exact alike.canonical.above higher
  · intro above begins target linked
    obtain higher | ⟨more, rfl⟩ :=
      List.prefix_or_prefix_of_prefix begins (List.prefix_append root rest)
    · exact alike.canonical above higher target linked
    · exact alike.free more target linked

theorem reach_below (alike : Alike root fs other) (middle rest : List Name) :
    fs.reach (root ++ middle) rest = other.reach (root ++ middle) rest := by
  induction rest generalizing middle with
  | nil => rfl
  | cons name rest ih =>
      have here := alike.below (middle ++ [name])
      have later := ih (middle ++ [name])
      rw [← List.append_assoc] at here later
      rw [reach, reach, here, later]

theorem locate_eq (alike : Alike root fs other) (near : Near root path) :
    fs.locate path = other.locate path := by
  rw [locate_eq_reach (alike.canonical_near near), locate_eq_reach (alike.symm.canonical_near near)]
  obtain higher | ⟨rest, rfl⟩ := near
  · have left : fs.reach [] path = .ok path := reach_of_directory (alike.get_above higher)
    have right : other.reach [] path = .ok path := reach_of_directory (alike.symm.get_above higher)
    rw [left, right]
  · have left : fs.reach [] (root ++ rest) = fs.reach root rest := reach_append alike.directory
    have right : other.reach [] (root ++ rest) = other.reach root rest :=
      reach_append alike.symm.directory
    have same := alike.reach_below [] rest
    rw [List.append_nil] at same
    rw [left, right, same]

theorem stat_eq (alike : Alike root fs other) (obstacles : Obstacles Name)
    (near : Near root path) :
    fs.stat obstacles path = other.stat obstacles path := by
  unfold stat
  rw [alike.locate_eq near]
  split
  iterate 4
    next => rfl
  next =>
    cases located : other.locate path with
    | error errno => rfl
    | ok place =>
        obtain rfl := place_of_locate (alike.symm.canonical_near near) located
        exact congrArg Except.ok (alike.get_eq near)

theorem isDirectory_eq (alike : Alike root fs other) (obstacles : Obstacles Name)
    (near : Near root path) :
    fs.isDirectory obstacles path = other.isDirectory obstacles path := by
  unfold isDirectory
  rw [alike.stat_eq obstacles near]

theorem readFile_eq (alike : Alike root fs other) (obstacles : Obstacles Name)
    (near : Near root path) :
    fs.readFile obstacles path = other.readFile obstacles path := by
  unfold readFile
  rw [alike.locate_eq near]
  cases located : other.locate path with
  | error errno => rfl
  | ok place =>
      obtain rfl := place_of_locate (alike.symm.canonical_near near) located
      dsimp only
      rw [alike.get_eq near]

theorem directoryAt_cases (alike : Alike root fs other) (near : Near root path) :
    (∃ errno, fs.directoryAt path = .error errno ∧ other.directoryAt path = .error errno) ∨
      ∃ place otherPlace, fs.directoryAt path = .ok place ∧
        other.directoryAt path = .ok otherPlace ∧ place.1 = path ∧ otherPlace.1 = path := by
  have same : (fs.directoryAt path).map Subtype.val = (other.directoryAt path).map Subtype.val := by
    have steps (system : FileSystem Name Byte) : (system.directoryAt path).map Subtype.val =
        match system.locate path with
        | .error errno => .error errno
        | .ok place =>
            match system.get place with
            | some .directory => .ok place
            | some (.file _) => .error .notDirectory
            | some (.link _) => .error .loop
            | none => .error .noEntry := by
      unfold directoryAt
      cases at_path : system.locate path with
      | error errno => rfl
      | ok place =>
          dsimp only
          split
          all_goals
            next at_place => simp only [at_place, Except.map]
    rw [steps, steps, alike.locate_eq near]
    cases located : other.locate path with
    | error errno => rfl
    | ok place =>
        obtain rfl := place_of_locate (alike.symm.canonical_near near) located
        dsimp only
        rw [alike.get_eq near]
  cases left : fs.directoryAt path with
  | error errno =>
      cases right : other.directoryAt path with
      | error otherErrno =>
          rw [left, right] at same
          exact .inl ⟨errno, rfl, congrArg Except.error (Except.error.inj same).symm⟩
      | ok place =>
          rw [left, right] at same
          cases same
  | ok place =>
      cases right : other.directoryAt path with
      | error errno =>
          rw [left, right] at same
          cases same
      | ok otherPlace =>
          exact .inr ⟨place, otherPlace, rfl, rfl,
            place_of_directoryAt (alike.canonical_near near) left,
            place_of_directoryAt (alike.symm.canonical_near near) right⟩

/-- The entry of a path is there for both or for neither. -/
theorem entryAt_cases (alike : Alike root fs other) (near : Near root path) :
    (∃ errno, fs.entryAt path = .error errno ∧ other.entryAt path = .error errno) ∨
      ∃ entry otherEntry, fs.entryAt path = .ok entry ∧ other.entryAt path = .ok otherEntry ∧
        entry.place = path ∧ otherEntry.place = path := by
  obtain rfl | ⟨init, name, rfl⟩ := List.eq_nil_or_concat path
  · exact .inl ⟨.busy, rfl, rfl⟩
  · rw [List.concat_eq_append] at near ⊢
    unfold entryAt
    rw [splitLast_concat]
    dsimp only
    obtain ⟨errno, left, right⟩ | ⟨place, otherPlace, left, right, rfl, same⟩ :=
      alike.directoryAt_cases (near.above (List.prefix_append init [name]))
    · rw [left, right]
      exact .inl ⟨errno, rfl, rfl⟩
    · rw [left, right]
      exact .inr ⟨_, _, rfl, rfl, rfl, congrArg (· ++ [name]) same⟩

/-! ## Changes -/

theorem updated {after otherAfter : FileSystem Name Byte} {node : Option (Node Name Byte)}
    (alike : Alike root fs other) (under : root <+: path) (inside : path ≠ root)
    (plain : ∀ target, node ≠ some (.link target)) (left : Updated fs after path node)
    (right : Updated other otherAfter path node) : Alike root after otherAfter := by
  have away {above : List Name} (higher : above <+: root) : above ≠ path := by
    rintro rfl
    exact inside (higher.eq_of_length_le under.length_le)
  have canonical {before later : FileSystem Name Byte} (changed : Updated before later path node)
      (canonical : before.Canonical root) : later.Canonical root := by
    intro above higher target linked
    exact canonical above higher target ((changed.ne (away higher)).symm.trans linked)
  refine ⟨fun rest => ?_, (left.ne (away (List.prefix_refl _))).trans alike.directory,
    canonical left alike.canonical, canonical right alike.otherCanonical, fun rest target => ?_⟩
  · rw [left, right, alike.below rest]
  · rw [left]
    split
    · exact plain target
    · exact alike.free rest target

theorem under_of_absent (alike : Alike root fs other) (near : Near root path)
    (absent : fs.get path = none) : root <+: path ∧ path ≠ root := by
  obtain higher | under := near
  · rw [alike.get_above higher] at absent
    cases absent
  · refine ⟨under, ?_⟩
    rintro rfl
    rw [alike.directory] at absent
    cases absent

end Alike

/-- Calls that answer alike. -/
inductive AlikeAfter (root : List Name) : Except Errno (FileSystem Name Byte) →
    Except Errno (FileSystem Name Byte) → Prop where
  | error (errno : Errno) : AlikeAfter root (.error errno) (.error errno)
  | ok {after otherAfter : FileSystem Name Byte} (alike : Alike root after otherAfter) :
      AlikeAfter root (.ok after) (.ok otherAfter)

/-- Calls that answer alike, also in what they leave when they fail. -/
def AlikeWith (root : List Name) (left right : FileSystem Name Byte × Except Errno Unit) : Prop :=
  left.2 = right.2 ∧ Alike root left.1 right.1

namespace Alike

variable (obstacles : Obstacles Name)

theorem mkdir (alike : Alike root fs other) (near : Near root path) :
    AlikeAfter root (fs.mkdir obstacles path) (other.mkdir obstacles path) := by
  obtain ⟨errno, left, right⟩ | ⟨entry, otherEntry, left, right, place_eq, otherPlace_eq⟩ :=
    alike.entryAt_cases near
  · unfold FileSystem.mkdir
    rw [left, right]
    cases errno <;> exact .error _
  · obtain ⟨after, updated, answer⟩ := mkdir_answer obstacles left place_eq
    obtain ⟨otherAfter, otherUpdated, otherAnswer⟩ :=
      mkdir_answer obstacles right otherPlace_eq
    rw [answer, otherAnswer, ← alike.get_eq near]
    cases absent : fs.get path with
    | some node => exact .error _
    | none =>
        cases obstacles.refuses (.mkdir path) with
        | some errno => exact .error _
        | none =>
            obtain ⟨under, inside⟩ := alike.under_of_absent near absent
            exact .ok (alike.updated under inside (fun _ => by simp) (updated absent)
              (otherUpdated (alike.get_eq near ▸ absent)))

theorem mkdirHere (alike : Alike root fs other) (near : Near root path) :
    AlikeWith root (fs.mkdirHere obstacles path) (other.mkdirHere obstacles path) := by
  have made := alike.mkdir obstacles near
  have same := alike.isDirectory_eq obstacles near
  unfold FileSystem.mkdirHere
  generalize fs.mkdir obstacles path = left at made ⊢
  generalize other.mkdir obstacles path = right at made ⊢
  cases made with
  | ok alike => exact ⟨rfl, alike⟩
  | error errno =>
      cases errno
      case noEntry => exact ⟨rfl, alike⟩
      all_goals
        dsimp only
        rw [same]
        split <;> exact ⟨rfl, alike⟩

theorem mkdirsUp {names : List Name} (alike : Alike root fs other)
    (near : Near root names.reverse) :
    AlikeWith root (fs.mkdirsUp obstacles names) (other.mkdirsUp obstacles names) := by
  induction names with
  | nil => exact alike.mkdirHere obstacles near
  | cons name above ih =>
      rw [List.reverse_cons] at near
      obtain ⟨sameHere, here⟩ := alike.mkdirHere obstacles near
      obtain ⟨sameAbove, upper⟩ := ih (near.above (List.prefix_append _ _))
      unfold FileSystem.mkdirsUp
      generalize fs.mkdirHere obstacles (above.reverse ++ [name]) = left at here sameHere ⊢
      generalize other.mkdirHere obstacles (above.reverse ++ [name]) = right at here sameHere ⊢
      generalize fs.mkdirsUp obstacles above = first at upper sameAbove ⊢
      generalize other.mkdirsUp obstacles above = second at upper sameAbove ⊢
      obtain ⟨left, outcome⟩ := left
      obtain ⟨right, otherOutcome⟩ := right
      obtain ⟨first, upward⟩ := first
      obtain ⟨second, otherUpward⟩ := second
      obtain rfl : outcome = otherOutcome := sameHere
      obtain rfl : upward = otherUpward := sameAbove
      have plain : AlikeWith root (left, outcome) (right, outcome) := ⟨rfl, here⟩
      cases outcome with
      | ok _ => exact plain
      | error errno =>
          cases errno
          case noEntry =>
            cases upward with
            | ok _ => exact Alike.mkdirHere obstacles upper near
            | error errno => exact ⟨rfl, upper⟩
          all_goals exact plain

theorem mkdirs (alike : Alike root fs other) (near : Near root path) :
    AlikeWith root (fs.mkdirs obstacles path) (other.mkdirs obstacles path) :=
  alike.mkdirsUp obstacles (by rwa [List.reverse_reverse])

theorem any_under (alike : Alike root fs other) (near : Near root path)
    (plain : ¬(fs.get path).any Node.isDirectory) : root <+: path ∧ path ≠ root := by
  have not_above (higher : path <+: root) : False := by
    refine plain ?_
    rw [alike.get_above higher]
    rfl
  refine ⟨near.resolve_left not_above, ?_⟩
  rintro rfl
  exact not_above (List.prefix_refl _)

theorem writeFile (content : List Byte) (alike : Alike root fs other) (near : Near root path) :
    AlikeWith root (fs.writeFile obstacles path content)
      (other.writeFile obstacles path content) := by
  obtain ⟨after, updated, answer⟩ :=
    writeFile_answer fs obstacles content (alike.canonical_near near)
  obtain ⟨otherAfter, otherUpdated, otherAnswer⟩ :=
    writeFile_answer other obstacles content (alike.symm.canonical_near near)
  rw [answer, otherAnswer, ← alike.locate_eq near, ← alike.get_eq near]
  cases fs.locate path with
  | error errno => exact ⟨rfl, alike⟩
  | ok _ =>
      cases obstacles.refuses (.write path) with
      | some errno => exact ⟨rfl, alike⟩
      | none =>
          have file {node : Option (Node Name Byte)} (at_path : fs.get path = node)
              (only : ∀ found, node = some found → ∃ old, found = .file old)
              (entry : node = none → ∃ entry, fs.entryAt path = .ok entry)
              (otherEntry : node = none → ∃ entry, other.entryAt path = .ok entry) :
              Alike root after otherAfter := by
            subst at_path
            obtain ⟨under, inside⟩ := alike.any_under near fun directory => by
              obtain ⟨old, impossible⟩ := only _ (Node.any_isDirectory_iff.mp directory)
              cases impossible
            have same := alike.get_eq near
            exact alike.updated under inside (fun _ => by simp) (updated only entry)
              (otherUpdated (same ▸ only) (same ▸ otherEntry))
          cases found : fs.get path with
          | none =>
              obtain ⟨errno, left, right⟩ | ⟨entry, otherEntry, left, right, _⟩ :=
                alike.entryAt_cases near
              · rw [left, right]
                exact ⟨rfl, alike⟩
              · rw [left, right]
                exact ⟨rfl, file found (fun _ none => by cases none) (fun _ => ⟨entry, left⟩)
                  fun _ => ⟨otherEntry, right⟩⟩
          | some node =>
              cases node with
              | directory => exact ⟨rfl, alike⟩
              | link target => exact ⟨rfl, alike⟩
              | file old =>
                  refine ⟨rfl, file found (fun node same => ⟨old, (Option.some.inj same).symm⟩)
                    (fun none => ?_) fun none => ?_⟩ <;> cases none

theorem unlink (alike : Alike root fs other) (near : Near root path) :
    AlikeAfter root (fs.unlink obstacles path) (other.unlink obstacles path) := by
  obtain ⟨errno, left, right⟩ | ⟨entry, otherEntry, left, right, place_eq, otherPlace_eq⟩ :=
    alike.entryAt_cases near
  · unfold FileSystem.unlink
    rw [left, right]
    exact .error _
  · obtain ⟨after, updated, answer⟩ := unlink_answer obstacles left place_eq
    obtain ⟨otherAfter, otherUpdated, otherAnswer⟩ := unlink_answer obstacles right otherPlace_eq
    have same := alike.get_eq near
    rw [answer, otherAnswer, ← same]
    split
    next => exact .error _
    next plain =>
      split
      next => exact .error _
      next =>
        cases obstacles.refuses (.remove path) with
        | some errno => exact .error _
        | none =>
            obtain ⟨under, inside⟩ := alike.any_under near plain
            exact .ok (alike.updated under inside (fun _ => by simp) (updated plain)
              (otherUpdated (same ▸ plain)))

theorem mem_children_iff (alike : Alike root fs other)
    (inside : root <+: path) (name : Name) :
    name ∈ fs.children path ↔ name ∈ other.children path := by
  rw [mem_children, mem_children,
    alike.get_eq (.inr (inside.trans (List.prefix_append path [name])))]

theorem rmdir (alike : Alike root fs other) (under : root <+: path) (inside : path ≠ root) :
    AlikeAfter root (fs.rmdir obstacles path) (other.rmdir obstacles path) := by
  have near : Near root path := .inr under
  obtain ⟨errno, left, right⟩ | ⟨entry, otherEntry, left, right, place_eq, otherPlace_eq⟩ :=
    alike.entryAt_cases near
  · unfold FileSystem.rmdir
    rw [left, right]
    exact .error _
  · obtain ⟨after, updated, answer⟩ := rmdir_answer obstacles left place_eq
    obtain ⟨otherAfter, otherUpdated, otherAnswer⟩ := rmdir_answer obstacles right otherPlace_eq
    have empty : fs.children path = [] ↔ other.children path = [] := by
      simp only [List.eq_nil_iff_forall_not_mem, alike.mem_children_iff under]
    rw [answer, otherAnswer, ← alike.get_eq near]
    split
    next => exact .error _
    next =>
      split
      next => exact .error _
      next =>
        by_cases none : fs.children path = []
        · rw [if_pos none, if_pos (empty.mp none)]
          cases obstacles.refuses (.remove path) with
          | some errno => exact .error _
          | none =>
              exact .ok (alike.updated under inside (fun _ => by simp) (updated none)
                (otherUpdated (empty.mp none)))
        · rw [if_neg none, if_neg (mt empty.mpr none)]
          exact .error _

theorem get_relocated {after : FileSystem Name Byte} {source target above : List Name}
    (directory : fs.get root = some .directory)
    (inTarget : root <+: target) (relocated : Relocated fs after source target)
    (higher : above <+: root) : after.get above = fs.get above := by
  refine relocated.elsewhere above (fun begins => ?_) fun begins => ?_
  · exact relocated.apart ((begins.trans higher).trans inTarget)
  · have same : target = root :=
      (begins.trans higher).eq_of_length_le inTarget.length_le
    have free := relocated.free []
    rw [List.append_nil, same, directory] at free
    cases free

theorem relocated {after otherAfter : FileSystem Name Byte} {source target : List Name}
    (alike : Alike root fs other) (inSource : root <+: source) (inTarget : root <+: target)
    (left : Relocated fs after source target) (right : Relocated other otherAfter source target) :
    Alike root after otherAfter := by
  have kept {above : List Name} (higher : above <+: root) :=
    get_relocated alike.directory inTarget left higher
  have otherKept {above : List Name} (higher : above <+: root) :=
    get_relocated alike.symm.directory inTarget right higher
  have inner {place : List Name} (inside : root <+: place) (rest : List Name) :
      fs.get (place ++ rest) = other.get (place ++ rest) ∧
        ∀ target, fs.get (place ++ rest) ≠ some (.link target) := by
    obtain ⟨middle, rfl⟩ := inside
    rw [List.append_assoc]
    exact ⟨alike.below _, alike.free _⟩
  have cases (rest : List Name) : after.get (root ++ rest) = otherAfter.get (root ++ rest) ∧
      ∀ target, after.get (root ++ rest) ≠ some (.link target) := by
    by_cases moved : target <+: root ++ rest
    · obtain ⟨more, same⟩ := moved
      rw [← same, left.below, right.below]
      exact inner inSource more
    · by_cases gone : source <+: root ++ rest
      · rw [left.gone _ gone moved, right.gone _ gone moved]
        exact ⟨rfl, fun _ none => by cases none⟩
      · rw [left.elsewhere _ gone moved, right.elsewhere _ gone moved]
        exact ⟨alike.below rest, alike.free rest⟩
  refine ⟨fun rest => (cases rest).1, (kept (List.prefix_refl _)).trans alike.directory,
    fun above higher target linked => ?_, fun above higher target linked => ?_,
    fun rest => (cases rest).2⟩
  · exact alike.canonical above higher target ((kept higher).symm.trans linked)
  · exact alike.otherCanonical above higher target ((otherKept higher).symm.trans linked)

theorem rename {source target : List Name} (alike : Alike root fs other)
    (inSource : root <+: source) (inTarget : root <+: target) :
    AlikeAfter root (fs.rename obstacles source target) (other.rename obstacles source target) := by
  have nearSource : Near root source := .inr inSource
  have nearTarget : Near root target := .inr inTarget
  obtain ⟨errno, left, right⟩ | ⟨old, otherOld, left, right, old_eq, otherOld_eq⟩ :=
    alike.entryAt_cases nearSource
  · unfold FileSystem.rename
    rw [left, right]
    exact .error _
  · obtain ⟨errno, new_left, new_right⟩ |
      ⟨new, otherNew, new_left, new_right, new_eq, otherNew_eq⟩ := alike.entryAt_cases nearTarget
    · unfold FileSystem.rename
      rw [left, right, new_left, new_right]
      exact .error _
    · obtain ⟨after, relocated, answer⟩ := rename_answer obstacles left old_eq new_left new_eq
      obtain ⟨otherAfter, otherRelocated, otherAnswer⟩ :=
        rename_answer obstacles right otherOld_eq new_right otherNew_eq
      have same := alike.get_eq nearTarget
      rw [answer, otherAnswer, ← alike.get_eq nearSource, ← same]
      split
      next => exact .error _
      next =>
        split
        next => exact .ok alike
        next =>
          split
          next => exact .error _
          next apart =>
            cases free : fs.get target with
            | some node => exact .error _
            | none =>
                cases obstacles.refuses (.rename source target) with
                | some errno => exact .error _
                | none =>
                    exact .ok (alike.relocated inSource inTarget (relocated free apart)
                      (otherRelocated (same ▸ free) apart))

theorem scan (alike : Alike root fs other) (under : root <+: path) :
    (∃ errno, fs.scan obstacles path = .error errno ∧ other.scan obstacles path = .error errno) ∨
      ∃ names otherNames, fs.scan obstacles path = .ok names ∧
        other.scan obstacles path = .ok otherNames ∧ names.Perm otherNames := by
  have near : Near root path := .inr under
  unfold FileSystem.scan
  obtain ⟨errno, left, right⟩ | ⟨place, otherPlace, left, right, place_eq, otherPlace_eq⟩ :=
    alike.directoryAt_cases near
  · rw [left, right]
    exact .inl ⟨errno, rfl, rfl⟩
  · rw [left, right]
    dsimp only
    cases obstacles.refuses (.scan path) with
    | some errno => exact .inl ⟨errno, rfl, rfl⟩
    | none =>
        refine .inr ⟨_, _, rfl, rfl, ?_⟩
        rw [place_eq, otherPlace_eq]
        exact (List.perm_ext_iff_of_nodup (fs.nodup_children path)
          (other.nodup_children path)).mpr (alike.mem_children_iff under)

end Alike

end FileSystem

end Era.Lib.Files
