import Era.Lib.PathResolution

/-!
# Calls on files

What the calls of an operating system do with paths: they follow links, they need a directory
around what they make, and they may be refused for reasons of their own.  On a path without
links they act at just that path.
-/

namespace Era.Lib.Files

/-- Why a call fails. -/
inductive Errno where
  | noEntry
  | notDirectory
  | isDirectory
  | exists
  | notEmpty
  | loop
  | invalid
  | busy
  | other (code : Nat)
  deriving DecidableEq

inductive Syscall (Name : Type) where
  | stat (path : List Name)
  | scan (path : List Name)
  | read (path : List Name)
  | write (path : List Name)
  | mkdir (path : List Name)
  | rename (source target : List Name)
  | remove (path : List Name)

/-- What stands in the way of calls that are right in themselves: permissions, lengths of names,
a full disk.  A write that is cut short has written so many bytes. -/
structure Obstacles (Name : Type) where
  refuses : Syscall Name → Option Errno
  cut : List Name → Option Nat

def Obstacles.none {Name : Type} : Obstacles Name := ⟨fun _ => .none, fun _ => .none⟩

/-- What of a content is written, and how the writing ends: `ENOSPC` where it is cut short. -/
def Obstacles.written {Name Byte : Type} (obstacles : Obstacles Name) (path : List Name)
    (content : List Byte) : List Byte × Except Errno Unit :=
  match obstacles.cut path with
  | some bytes => (content.take bytes, .error (.other 28))
  | .none => (content, .ok ())

/-- A nonempty path as a directory and a name in it. -/
def splitLast {Name : Type} (path : List Name) : Option (List Name × Name) :=
  path.getLast?.map fun last => (path.dropLast, last)

@[simp] theorem splitLast_nil {Name : Type} : splitLast ([] : List Name) = none := rfl

@[simp] theorem splitLast_concat {Name : Type} (path : List Name) (name : Name) :
    splitLast (path ++ [name]) = some (path, name) := by
  rw [splitLast, List.getLast?_concat, List.dropLast_concat]
  rfl

theorem eq_of_splitLast {Name : Type} {path init : List Name} {last : Name}
    (split : splitLast path = some (init, last)) : path = init ++ [last] := by
  obtain rfl | ⟨front, final, rfl⟩ := List.eq_nil_or_concat path
  · cases split
  · rw [List.concat_eq_append, splitLast_concat] at split
    obtain ⟨rfl, rfl⟩ := Prod.mk.inj (Option.some.inj split)
    exact List.concat_eq_append

namespace FileSystem

variable {Name Byte : Type} [DecidableEq Name] (fs : FileSystem Name Byte)

/-! ## Following paths -/

/-- The place of a path, where all names but the last one must be those of directories, with the
way to go on at a link. -/
def locateWith (follow : List Name → List (PathStep Name) → Except Errno (List Name)) :
    List Name → List (PathStep Name) → Except Errno (List Name)
  | path, [] => .ok path
  | path, .up :: rest => locateWith follow path.dropLast rest
  | path, .down name :: rest =>
      match fs.get (path ++ [name]) with
      | some .directory => locateWith follow (path ++ [name]) rest
      | some (.link target) => follow (target.start path) (target.steps ++ rest)
      | some (.file _) => if rest.isEmpty then .ok (path ++ [name]) else .error .notDirectory
      | none => if rest.isEmpty then .ok (path ++ [name]) else .error .noEntry

/-- The place of a path with a number of links on the way to it. -/
def locateWithin : Nat → List Name → List (PathStep Name) → Except Errno (List Name)
  | 0 => fs.locateWith fun _ _ => .error .loop
  | links + 1 => fs.locateWith (locateWithin links)

/-- The place of an absolute path; 40 links are too many. -/
def locate (path : List Name) : Except Errno (List Name) :=
  fs.locateWithin 39 [] (path.map .down)

/-- The place of a path without links. -/
def reach : List Name → List Name → Except Errno (List Name)
  | path, [] => .ok path
  | path, name :: rest =>
      match fs.get (path ++ [name]) with
      | some .directory => reach (path ++ [name]) rest
      | some (.link _) => .error .loop
      | some (.file _) => if rest.isEmpty then .ok (path ++ [name]) else .error .notDirectory
      | none => if rest.isEmpty then .ok (path ++ [name]) else .error .noEntry

variable {fs} {path root : List Name} {name : Name} {node : Node Name Byte}

theorem locateWith_eq_reach
    {follow : List Name → List (PathStep Name) → Except Errno (List Name)} {names : List Name}
    (canonical : fs.Canonical (path ++ names)) :
    fs.locateWith follow path (names.map .down) = fs.reach path names := by
  induction names generalizing path with
  | nil => rfl
  | cons name rest ih =>
      rw [List.append_cons] at canonical
      rw [List.map_cons, locateWith, reach, ih canonical]
      have plain := canonical (path ++ [name]) (List.prefix_append _ _)
      cases at_name : fs.get (path ++ [name]) with
      | none => simp
      | some node =>
          cases node with
          | link target => exact absurd at_name (plain target)
          | file _ => simp
          | directory => rfl

theorem locate_eq_reach (canonical : fs.Canonical path) : fs.locate path = fs.reach [] path :=
  locateWith_eq_reach canonical

theorem reach_append {names : List Name} (directory : fs.get (path ++ root) = some .directory) :
    fs.reach path (root ++ names) = fs.reach (path ++ root) names := by
  induction root generalizing path with
  | nil => rw [List.nil_append, List.append_nil]
  | cons name rest ih =>
      rw [List.append_cons] at directory ⊢
      have here : fs.get (path ++ [name]) = some .directory := by
        obtain rfl | below := eq_or_ne rest []
        · rwa [List.append_nil] at directory
        · exact get_above directory below
      rw [List.cons_append, reach, here]
      exact ih directory

theorem reach_ok {names found : List Name} (ok : fs.reach path names = .ok found) :
    found = path ++ names := by
  induction names generalizing path with
  | nil =>
      obtain rfl := Except.ok.inj ok
      exact (List.append_nil _).symm
  | cons name rest ih =>
      rw [List.append_cons]
      rw [reach] at ok
      split at ok
      next => exact ih ok
      next => cases ok
      all_goals
        split at ok
        next last =>
          obtain rfl := Except.ok.inj ok
          rw [List.isEmpty_iff.mp last, List.append_nil]
        next => cases ok

theorem reach_of_directory {names : List Name}
    (directory : fs.get (path ++ names) = some .directory) :
    fs.reach path names = .ok (path ++ names) := by
  have through : fs.reach path (names ++ []) = fs.reach (path ++ names) [] :=
    reach_append directory
  rwa [List.append_nil] at through

theorem reach_of_get {names : List Name} (canonical : fs.Canonical (path ++ names))
    (found : fs.get (path ++ names) = some node) : fs.reach path names = .ok (path ++ names) := by
  obtain rfl | ⟨init, last, rfl⟩ := List.eq_nil_or_concat names
  · rw [List.append_nil]
    rfl
  · rw [List.concat_eq_append, ← List.append_assoc] at canonical found ⊢
    rw [reach_append (get_parent found), reach, found]
    cases node with
    | file _ | directory => rfl
    | link target => exact absurd found (canonical _ (List.prefix_refl _) target)

theorem locate_of_get (canonical : fs.Canonical path) (found : fs.get path = some node) :
    fs.locate path = .ok path :=
  (locate_eq_reach canonical).trans (reach_of_get canonical found)

/-! ## The calls -/

variable (fs) (obstacles : Obstacles Name)

/-- The name of a path in a directory. -/
def nameIn (directory path : List Name) : Option Name :=
  match splitLast path with
  | some (init, name) => if init = directory then some name else none
  | none => none

theorem nameIn_eq_some_iff {directory : List Name} :
    nameIn directory path = some name ↔ path = directory ++ [name] := by
  unfold nameIn
  constructor
  · intro named
    split at named
    next init last split =>
      split at named
      next here =>
        obtain rfl := Option.some.inj named
        rw [eq_of_splitLast split, here]
      next => cases named
    next => cases named
  · rintro rfl
    rw [splitLast_concat]
    exact if_pos rfl

/-- The names in a directory. -/
def children (path : List Name) : List Name :=
  (fs.nodes.map Prod.fst).filterMap (nameIn path)

variable {fs} in
theorem mem_children : name ∈ fs.children path ↔ ∃ node, fs.get (path ++ [name]) = some node := by
  rw [children, List.mem_filterMap]
  constructor
  · rintro ⟨key, member, named⟩
    obtain rfl := nameIn_eq_some_iff.mp named
    obtain ⟨⟨_, node⟩, stored, rfl⟩ := List.mem_map.mp member
    exact ⟨node, get_eq_some_iff.mpr stored⟩
  · rintro ⟨node, found⟩
    exact ⟨_, List.mem_map_of_mem (get_eq_some_iff.mp found), nameIn_eq_some_iff.mpr rfl⟩

theorem nodup_children (path : List Name) : (fs.children path).Nodup := by
  refine fs.distinct.filterMap fun left right name inLeft inRight => ?_
  rw [nameIn_eq_some_iff.mp inLeft, nameIn_eq_some_iff.mp inRight]

variable {fs} in
theorem get_of_children_eq_nil (empty : fs.children path = []) (name : Name) :
    fs.get (path ++ [name]) = none := by
  cases found : fs.get (path ++ [name]) with
  | none => rfl
  | some node =>
      have member := mem_children.mpr ⟨node, found⟩
      rw [empty] at member
      cases member

variable {fs} in
theorem get_below_of_children_eq_nil {rest : List Name} (empty : fs.children path = [])
    (below : rest ≠ []) : fs.get (path ++ rest) = none := by
  cases rest with
  | nil => exact absurd rfl below
  | cons name more =>
      have first := get_of_children_eq_nil empty name
      rw [List.append_cons]
      obtain rfl | deeper := eq_or_ne more []
      · rwa [List.append_nil]
      · refine get_below (fun directory => ?_) deeper
        rw [first] at directory
        cases directory

/-- The node that a path leads to, if it leads to one. -/
def stat (path : List Name) : Except Errno (Option (Node Name Byte)) :=
  match obstacles.refuses (.stat path) with
  | some .noEntry | some .notDirectory | some .loop => .ok none
  | some errno => .error errno
  | none => .ok ((fs.locate path).toOption.bind fs.get)

/-- A directory and its place. -/
def directoryAt (path : List Name) :
    Except Errno { place : List Name // fs.get place = some .directory } :=
  match fs.locate path with
  | .error errno => .error errno
  | .ok place =>
      match found : fs.get place with
      | some .directory => .ok ⟨place, found⟩
      | some (.file _) => .error .notDirectory
      | some (.link _) => .error .loop
      | none => .error .noEntry

/-- The entry that a path names, which is not followed when it is a link. -/
structure EntryAt where
  directory : List Name
  name : Name
  inside : fs.get directory = some .directory

def EntryAt.place {fs : FileSystem Name Byte} (entry : fs.EntryAt) : List Name :=
  entry.directory ++ [entry.name]

variable {fs} in
theorem EntryAt.place_ne_nil (entry : fs.EntryAt) : entry.place ≠ [] :=
  List.append_ne_nil_of_right_ne_nil _ (List.cons_ne_nil _ _)

def entryAt (path : List Name) : Except Errno fs.EntryAt :=
  match splitLast path with
  | none => .error .busy
  | some (init, name) => (fs.directoryAt init).map fun place => ⟨place.1, name, place.2⟩

def mkdir (path : List Name) : Except Errno (FileSystem Name Byte) :=
  match fs.entryAt path with
  | .error .busy => .error .exists
  | .error errno => .error errno
  | .ok entry =>
      match free : fs.get entry.place with
      | some _ => .error .exists
      | none =>
          match obstacles.refuses (.mkdir path) with
          | some errno => .error errno
          | none => .ok (fs.insert entry.directory entry.name .directory entry.inside free)

/-- Whether a path is one of a directory. -/
def isDirectory (path : List Name) : Except Errno Bool :=
  match fs.stat obstacles path with
  | .error errno => .error errno
  | .ok node => .ok (node.any Node.isDirectory)

/-- A directory is made where there is none; its parent must be there. -/
def mkdirHere (path : List Name) : FileSystem Name Byte × Except Errno Unit :=
  match fs.mkdir obstacles path with
  | .ok after => (after, .ok ())
  | .error .noEntry => (fs, .error .noEntry)
  | .error errno =>
      match fs.isDirectory obstacles path with
      | .ok true => (fs, .ok ())
      | .ok false => (fs, .error errno)
      | .error other => (fs, .error other)

/-- Directories are made up to a path, which is given from its last name on. -/
def mkdirsUp : List Name → FileSystem Name Byte × Except Errno Unit
  | [] => fs.mkdirHere obstacles []
  | name :: above =>
      match fs.mkdirHere obstacles (above.reverse ++ [name]) with
      | (_, .error .noEntry) =>
          match mkdirsUp above with
          | (after, .ok ()) => after.mkdirHere obstacles (above.reverse ++ [name])
          | (after, .error errno) => (after, .error errno)
      | (after, outcome) => (after, outcome)

def mkdirs (path : List Name) : FileSystem Name Byte × Except Errno Unit :=
  fs.mkdirsUp obstacles path.reverse

/-- A file is opened for writing, made or cut to nothing, and written. -/
def writeFile (path : List Name) (content : List Byte) :
    FileSystem Name Byte × Except Errno Unit :=
  match fs.locate path with
  | .error errno => (fs, .error errno)
  | .ok place =>
      match obstacles.refuses (.write path) with
      | some errno => (fs, .error errno)
      | none =>
          match found : fs.get place with
          | some (.file old) =>
              (fs.overwrite place (obstacles.written path content).1 ⟨old, found⟩,
                (obstacles.written path content).2)
          | some .directory => (fs, .error .isDirectory)
          | some (.link _) => (fs, .error .loop)
          | none =>
              match fs.entryAt place with
              | .error errno => (fs, .error errno)
              | .ok entry =>
                  match free : fs.get entry.place with
                  | some _ => (fs, .error .exists)
                  | none =>
                      (fs.insert entry.directory entry.name
                        (.file (obstacles.written path content).1) entry.inside free,
                        (obstacles.written path content).2)

def readFile (path : List Name) : Except Errno (List Byte) :=
  match fs.locate path with
  | .error errno => .error errno
  | .ok place =>
      match obstacles.refuses (.read path) with
      | some errno => .error errno
      | none =>
          match fs.get place with
          | some (.file content) => .ok content
          | some .directory => .error .isDirectory
          | some (.link _) => .error .loop
          | none => .error .noEntry

/-- The names in a directory. -/
def scan (path : List Name) : Except Errno (List Name) :=
  match fs.directoryAt path with
  | .error errno => .error errno
  | .ok place =>
      match obstacles.refuses (.scan path) with
      | some errno => .error errno
      | none => .ok (fs.children place.1)

variable {fs} in
theorem leaf_of_not_directory (plain : ¬(fs.get path).any Node.isDirectory) (name : Name) :
    fs.get (path ++ [name]) = none := by
  refine get_below (fun directory => plain ?_) (List.cons_ne_nil _ _)
  rw [directory]
  rfl

/-- A file or a link is removed. -/
def unlink (path : List Name) : Except Errno (FileSystem Name Byte) :=
  match fs.entryAt path with
  | .error errno => .error errno
  | .ok entry =>
      if directory : (fs.get entry.place).any Node.isDirectory then .error .isDirectory
      else if (fs.get entry.place).isNone then .error .noEntry
      else
        match obstacles.refuses (.remove path) with
        | some errno => .error errno
        | none => .ok (fs.erase entry.place entry.place_ne_nil (leaf_of_not_directory directory))

/-- An empty directory is removed. -/
def rmdir (path : List Name) : Except Errno (FileSystem Name Byte) :=
  match fs.entryAt path with
  | .error errno => .error errno
  | .ok entry =>
      if (fs.get entry.place).isNone then .error .noEntry
      else if !(fs.get entry.place).any Node.isDirectory then .error .notDirectory
      else if empty : fs.children entry.place = [] then
        match obstacles.refuses (.remove path) with
        | some errno => .error errno
        | none => .ok (fs.erase entry.place entry.place_ne_nil (get_of_children_eq_nil empty))
      else .error .notEmpty

variable {fs} in
theorem movable_of {source target : fs.EntryAt} (free : fs.get target.place = none)
    (apart : ¬source.place <+: target.place) :
    fs.Movable source.place target.directory target.name :=
  ⟨source.place_ne_nil, target.inside, free, apart⟩

/-- A tree is renamed to a free place. -/
def rename (source target : List Name) : Except Errno (FileSystem Name Byte) :=
  match fs.entryAt source, fs.entryAt target with
  | .error errno, _ => .error errno
  | .ok _, .error errno => .error errno
  | .ok old, .ok new =>
      if (fs.get old.place).isNone then .error .noEntry
      else if old.place = new.place then .ok fs
      else if apart : old.place <+: new.place then .error .invalid
      else
        match free : fs.get new.place with
        | some _ => .error .exists
        | none =>
            match obstacles.refuses (.rename source target) with
            | some errno => .error errno
            | none => .ok (fs.relocate old.place new.directory new.name (movable_of free apart))

end FileSystem

end Era.Lib.Files
