import Era.Lib.Table
import Mathlib.Data.List.Infix
import Mathlib.Data.List.Nodup
import Mathlib.Data.List.Induction

/-!
# File systems

A file system is a table of nodes under their paths in which every node but the root is in a
directory.  Four updates keep it one: a node is put into a directory, a file is written over, a
node with nothing in it is erased, and a tree is moved to a free place.
-/

namespace Era.Lib.Files

open Era.Lib.Table

/-- A component of a path as it is written. -/
inductive PathStep (Name : Type) where
  | up
  | down (name : Name)
  deriving DecidableEq

/-- What a symbolic link says. -/
structure LinkTarget (Name : Type) where
  absolute : Bool
  steps : List (PathStep Name)
  deriving DecidableEq

inductive Node (Name Byte : Type) where
  | file (content : List Byte)
  | directory
  | link (target : LinkTarget Name)
  deriving DecidableEq

namespace Node

variable {Name Byte : Type}

def isDirectory : Node Name Byte → Bool
  | directory => true
  | file _ | link _ => false

def isFile : Node Name Byte → Bool
  | file _ => true
  | directory | link _ => false

def content? : Node Name Byte → Option (List Byte)
  | file content => some content
  | directory | link _ => none

theorem any_isDirectory_iff {node : Option (Node Name Byte)} :
    node.any isDirectory = true ↔ node = some .directory := by
  cases node with
  | none => simp
  | some node => cases node <;> simp [isDirectory]

end Node

structure FileSystem (Name Byte : Type) [DecidableEq Name] where
  nodes : List (List Name × Node Name Byte)
  distinct : (nodes.map Prod.fst).Nodup
  base : ([], .directory) ∈ nodes
  rooted : ∀ path name node, (path ++ [name], node) ∈ nodes → (path, .directory) ∈ nodes

namespace FileSystem

variable {Name Byte : Type} [DecidableEq Name]

/-- The node at a path, where links are not followed. -/
def get (fs : FileSystem Name Byte) (path : List Name) : Option (Node Name Byte) :=
  (find Prod.fst fs.nodes path).map Prod.snd

variable {fs : FileSystem Name Byte} {path : List Name} {name : Name} {node : Node Name Byte}

theorem get_eq_some_iff : fs.get path = some node ↔ (path, node) ∈ fs.nodes := by
  constructor
  · intro found
    obtain ⟨⟨key, _⟩, at_path, rfl⟩ := Option.map_eq_some_iff.mp found
    obtain ⟨member, rfl⟩ := find_eq_some at_path
    exact member
  · intro member
    rw [get, find_of_mem fs.distinct member]
    rfl

theorem get_eq_none_iff : fs.get path = none ↔ ∀ node, (path, node) ∉ fs.nodes := by
  rw [Option.eq_none_iff_forall_ne_some]
  exact forall_congr' fun node => not_congr get_eq_some_iff

theorem find_eq_none (absent : fs.get path = none) : find Prod.fst fs.nodes path = none :=
  Option.map_eq_none_iff.mp absent

@[simp] theorem get_nil (fs : FileSystem Name Byte) : fs.get [] = some .directory :=
  get_eq_some_iff.mpr fs.base

/-- What has a node is in a directory. -/
theorem get_parent (found : fs.get (path ++ [name]) = some node) :
    fs.get path = some .directory :=
  get_eq_some_iff.mpr (fs.rooted path name node (get_eq_some_iff.mp found))

theorem get_above {rest : List Name} (found : fs.get (path ++ rest) = some node)
    (below : rest ≠ []) : fs.get path = some .directory := by
  induction rest using List.reverseRecOn generalizing node with
  | nil => exact absurd rfl below
  | append_singleton rest last ih =>
      rw [← List.append_assoc] at found
      have parent := get_parent found
      by_cases direct : rest = []
      · rwa [direct, List.append_nil] at parent
      · exact ih parent direct

/-- There is nothing below what is not a directory. -/
theorem get_below {rest : List Name} (plain : fs.get path ≠ some .directory)
    (below : rest ≠ []) : fs.get (path ++ rest) = none := by
  cases found : fs.get (path ++ rest) with
  | none => rfl
  | some node => exact absurd (get_above found below) plain

/-! ## Updates -/

section Insert

variable (parent : fs.get path = some .directory) (absent : fs.get (path ++ [name]) = none)

theorem distinct_insert (node : Node Name Byte) (absent : fs.get (path ++ [name]) = none) :
    ((fs.nodes ++ [(path ++ [name], node)]).map Prod.fst).Nodup :=
  nodup_append fs.distinct (find_eq_none absent)

theorem rooted_insert {other : List Name} {last : Name} {found : Node Name Byte}
    (parent : fs.get path = some .directory)
    (member : (other ++ [last], found) ∈ fs.nodes ++ [(path ++ [name], node)]) :
    (other, .directory) ∈ fs.nodes ++ [(path ++ [name], node)] := by
  apply List.mem_append_left
  obtain inside | here := List.mem_append.mp member
  · exact fs.rooted other last found inside
  · obtain ⟨same, _⟩ := Prod.mk.inj (List.mem_singleton.mp here)
    obtain ⟨rfl, _⟩ := List.append_inj' same rfl
    exact get_eq_some_iff.mp parent

/-- A node is put into a directory. -/
def insert (fs : FileSystem Name Byte) (path : List Name) (name : Name) (node : Node Name Byte)
    (parent : fs.get path = some .directory) (absent : fs.get (path ++ [name]) = none) :
    FileSystem Name Byte where
  nodes := fs.nodes ++ [(path ++ [name], node)]
  distinct := distinct_insert node absent
  base := List.mem_append_left _ fs.base
  rooted _ _ _ := rooted_insert parent

theorem get_insert (other : List Name) :
    (fs.insert path name node parent absent).get other =
      if other = path ++ [name] then some node else fs.get other := by
  unfold get insert
  dsimp only
  by_cases same : other = path ++ [name]
  · have unused : find Prod.fst fs.nodes (path ++ [name], node).1 = none := find_eq_none absent
    rw [if_pos same, same, find_append_self unused]
    rfl
  · have different : other ≠ (path ++ [name], node).1 := same
    rw [if_neg same, find_append_ne different]

end Insert

section Overwrite

variable {content : List Byte}

theorem rooted_overwrite (file : ∃ old, fs.get path = some (.file old)) {other : List Name}
    {last : Name} {found : Node Name Byte}
    (member : (other ++ [last], found) ∈ store Prod.fst fs.nodes (path, .file content)) :
    (other, .directory) ∈ store Prod.fst fs.nodes (path, .file content) := by
  obtain ⟨old, at_path⟩ := file
  have inside : ∃ node, (other ++ [last], node) ∈ fs.nodes := by
    obtain same | ⟨stored, _⟩ := mem_store member
    · obtain ⟨rfl, _⟩ := Prod.mk.inj same
      exact ⟨_, get_eq_some_iff.mp at_path⟩
    · exact ⟨_, stored⟩
  obtain ⟨node, stored⟩ := inside
  have parent := fs.rooted other last node stored
  refine List.mem_map.mpr ⟨_, parent, if_neg ?_⟩
  rintro rfl
  rw [get_eq_some_iff.mpr parent] at at_path
  cases at_path

theorem base_overwrite (file : ∃ old, fs.get path = some (.file old)) :
    ([], .directory) ∈ store Prod.fst fs.nodes (path, .file content) := by
  obtain ⟨old, at_path⟩ := file
  refine List.mem_map.mpr ⟨_, fs.base, if_neg ?_⟩
  rintro rfl
  rw [get_nil] at at_path
  cases at_path

theorem distinct_overwrite (fs : FileSystem Name Byte) (row : List Name × Node Name Byte) :
    ((store Prod.fst fs.nodes row).map Prod.fst).Nodup := by
  rw [map_key_store]
  exact fs.distinct

/-- A file is written over. -/
def overwrite (fs : FileSystem Name Byte) (path : List Name) (content : List Byte)
    (file : ∃ old, fs.get path = some (.file old)) : FileSystem Name Byte where
  nodes := store Prod.fst fs.nodes (path, .file content)
  distinct := distinct_overwrite fs (path, .file content)
  base := base_overwrite file
  rooted _ _ _ := rooted_overwrite file

theorem get_overwrite (file : ∃ old, fs.get path = some (.file old)) (other : List Name) :
    (fs.overwrite path content file).get other =
      if other = path then some (.file content) else fs.get other := by
  unfold get overwrite
  dsimp only
  generalize row_eq : (path, Node.file content) = row
  have key_eq : row.1 = path := row_eq ▸ rfl
  by_cases same : other = path
  · obtain ⟨old, at_path⟩ := file
    obtain ⟨earlier, found, _⟩ := Option.map_eq_some_iff.mp at_path
    rw [if_pos same, same, ← key_eq]
    rw [← key_eq] at found
    rw [find_store_self found, ← row_eq]
    rfl
  · rw [if_neg same, find_store_ne (key_eq ▸ same)]

end Overwrite

section Erase

theorem rooted_erase {other : List Name} {last : Name} {found : Node Name Byte}
    (leaf : ∀ name, fs.get (path ++ [name]) = none)
    (member : (other ++ [last], found) ∈ delete Prod.fst fs.nodes path) :
    (other, .directory) ∈ delete Prod.fst fs.nodes path := by
  obtain ⟨stored, _⟩ := mem_delete.mp member
  refine mem_delete.mpr ⟨fs.rooted other last found stored, ?_⟩
  rintro rfl
  exact get_eq_none_iff.mp (leaf last) found stored

/-- What has nothing in it is erased. -/
def erase (fs : FileSystem Name Byte) (path : List Name) (below : path ≠ [])
    (leaf : ∀ name, fs.get (path ++ [name]) = none) : FileSystem Name Byte where
  nodes := delete Prod.fst fs.nodes path
  distinct := nodup_delete fs.distinct path
  base := mem_delete.mpr ⟨fs.base, below.symm⟩
  rooted _ _ _ := rooted_erase leaf

theorem get_erase (below : path ≠ []) (leaf : ∀ name, fs.get (path ++ [name]) = none)
    (other : List Name) :
    (fs.erase path below leaf).get other = if other = path then none else fs.get other := by
  unfold get erase
  dsimp only
  by_cases same : other = path
  · rw [if_pos same, same, find_delete_self]
    rfl
  · rw [if_neg same, find_delete_ne same]

end Erase

section Relocate

variable {source target : List Name}

/-- Where a path is when what is at `source` is at `target`. -/
def moved (source target path : List Name) : List Name :=
  if source <+: path then target ++ path.drop source.length else path

@[simp] theorem moved_append (source target rest : List Name) :
    moved source target (source ++ rest) = target ++ rest := by
  rw [moved, if_pos (List.prefix_append _ _), List.drop_left]

theorem moved_of_outside (apart : ¬source <+: path) : moved source target path = path :=
  if_neg apart

/-- A tree can be moved to a free place of a directory outside of it. -/
structure Movable (fs : FileSystem Name Byte) (source parent : List Name) (name : Name) :
    Prop where
  below : source ≠ []
  directory : fs.get parent = some .directory
  free : fs.get (parent ++ [name]) = none
  apart : ¬source <+: parent ++ [name]

variable {parent : List Name}

theorem Movable.absent (movable : Movable fs source parent name) (rest : List Name) :
    fs.get (parent ++ [name] ++ rest) = none := by
  by_cases here : rest = []
  · rw [here, List.append_nil]
    exact movable.free
  · refine get_below ?_ here
    rw [movable.free]
    rintro ⟨⟩

/-- Different nodes stay at different places. -/
theorem Movable.moved_inj (movable : Movable fs source parent name) {path other : List Name}
    {first second : Node Name Byte} (left : fs.get path = some first)
    (right : fs.get other = some second)
    (same : moved source (parent ++ [name]) path = moved source (parent ++ [name]) other) :
    path = other := by
  have clash {rest outside : List Name} {node : Node Name Byte}
      (found : fs.get outside = some node) : parent ++ [name] ++ rest ≠ outside := by
    rintro rfl
    rw [movable.absent rest] at found
    cases found
  by_cases inLeft : source <+: path
  · obtain ⟨rest, rfl⟩ := inLeft
    rw [moved_append] at same
    by_cases inRight : source <+: other
    · obtain ⟨others, rfl⟩ := inRight
      rw [moved_append] at same
      rw [List.append_cancel_left same]
    · rw [moved_of_outside inRight] at same
      exact absurd same (clash right)
  · rw [moved_of_outside inLeft] at same
    by_cases inRight : source <+: other
    · obtain ⟨others, rfl⟩ := inRight
      rw [moved_append] at same
      exact absurd same.symm (clash left)
    · rwa [moved_of_outside inRight] at same

/-- The table with every node where it is after the move. -/
def movedNodes (fs : FileSystem Name Byte) (source target : List Name) :
    List (List Name × Node Name Byte) :=
  fs.nodes.map fun row => (moved source target row.1, row.2)

theorem mem_movedNodes {path : List Name} :
    (path, node) ∈ fs.movedNodes source target ↔
      ∃ earlier, fs.get earlier = some node ∧ moved source target earlier = path := by
  unfold movedNodes
  constructor
  · intro member
    obtain ⟨⟨earlier, _⟩, stored, same⟩ := List.mem_map.mp member
    obtain ⟨rfl, rfl⟩ := Prod.mk.inj same
    exact ⟨earlier, get_eq_some_iff.mpr stored, rfl⟩
  · rintro ⟨earlier, found, rfl⟩
    exact List.mem_map.mpr ⟨_, get_eq_some_iff.mp found, rfl⟩

theorem distinct_movedNodes (movable : Movable fs source parent name) :
    ((fs.movedNodes source (parent ++ [name])).map Prod.fst).Nodup := by
  unfold movedNodes
  rw [List.map_map]
  refine List.Nodup.map_on ?_ (List.Nodup.of_map _ fs.distinct)
  intro left inLeft right inRight same
  exact List.inj_on_of_nodup_map fs.distinct inLeft inRight
    (movable.moved_inj (get_eq_some_iff.mpr inLeft) (get_eq_some_iff.mpr inRight) same)

theorem base_movedNodes (movable : Movable fs source parent name) :
    ([], .directory) ∈ fs.movedNodes source (parent ++ [name]) := by
  refine mem_movedNodes.mpr ⟨[], get_nil fs, moved_of_outside ?_⟩
  intro inside
  exact movable.below (List.prefix_nil.mp inside)

theorem rooted_movedNodes (movable : Movable fs source parent name) {path : List Name}
    {last : Name} (member : (path ++ [last], node) ∈ fs.movedNodes source (parent ++ [name])) :
    (path, .directory) ∈ fs.movedNodes source (parent ++ [name]) := by
  obtain ⟨earlier, found, place⟩ := mem_movedNodes.mp member
  apply mem_movedNodes.mpr
  by_cases inside : source <+: earlier
  · obtain ⟨rest, rfl⟩ := inside
    rw [moved_append] at place
    obtain rfl | ⟨init, final, rfl⟩ := List.eq_nil_or_concat rest
    · -- The tree itself is in the directory that it has been moved to.
      rw [List.append_nil] at place
      obtain ⟨rfl, _⟩ := List.append_inj' place rfl
      refine ⟨parent, movable.directory, moved_of_outside fun above => movable.apart ?_⟩
      exact above.trans (List.prefix_append _ _)
    · rw [List.concat_eq_append, ← List.append_assoc] at place found
      obtain ⟨rfl, _⟩ := List.append_inj' place rfl
      exact ⟨source ++ init, get_parent found, moved_append _ _ _⟩
  · rw [moved_of_outside inside] at place
    subst place
    exact ⟨path, get_parent found, moved_of_outside fun above =>
      inside (above.trans (List.prefix_append _ _))⟩

/-- A tree is moved. -/
def relocate (fs : FileSystem Name Byte) (source parent : List Name) (name : Name)
    (movable : Movable fs source parent name) : FileSystem Name Byte where
  nodes := fs.movedNodes source (parent ++ [name])
  distinct := distinct_movedNodes movable
  base := base_movedNodes movable
  rooted _ _ _ := rooted_movedNodes movable

theorem get_relocate_below (movable : Movable fs source parent name) (rest : List Name) :
    (fs.relocate source parent name movable).get (parent ++ [name] ++ rest) =
      fs.get (source ++ rest) := by
  apply Option.ext
  intro node
  rw [get_eq_some_iff]
  change _ ∈ fs.movedNodes source (parent ++ [name]) ↔ _
  rw [mem_movedNodes]
  constructor
  · rintro ⟨earlier, found, place⟩
    by_cases inside : source <+: earlier
    · obtain ⟨others, rfl⟩ := inside
      rw [moved_append] at place
      rwa [← List.append_cancel_left place]
    · rw [moved_of_outside inside] at place
      rw [place, movable.absent rest] at found
      cases found
  · intro found
    exact ⟨_, found, moved_append _ _ _⟩

theorem get_relocate_source (movable : Movable fs source parent name) {path : List Name}
    (inside : source <+: path) (apart : ¬parent ++ [name] <+: path) :
    (fs.relocate source parent name movable).get path = none := by
  rw [get_eq_none_iff]
  intro node member
  obtain ⟨earlier, _, place⟩ := mem_movedNodes.mp member
  by_cases earlierInside : source <+: earlier
  · obtain ⟨others, rfl⟩ := earlierInside
    rw [moved_append] at place
    exact apart ⟨others, place⟩
  · rw [moved_of_outside earlierInside] at place
    exact earlierInside (place ▸ inside)

theorem get_relocate_elsewhere (movable : Movable fs source parent name) {path : List Name}
    (outside : ¬source <+: path) (apart : ¬parent ++ [name] <+: path) :
    (fs.relocate source parent name movable).get path = fs.get path := by
  apply Option.ext
  intro node
  rw [get_eq_some_iff]
  change _ ∈ fs.movedNodes source (parent ++ [name]) ↔ _
  rw [mem_movedNodes]
  constructor
  · rintro ⟨earlier, found, place⟩
    by_cases inside : source <+: earlier
    · obtain ⟨others, rfl⟩ := inside
      rw [moved_append] at place
      exact absurd ⟨others, place⟩ apart
    · rw [moved_of_outside inside] at place
      rwa [← place]
  · intro found
    exact ⟨path, found, moved_of_outside outside⟩

end Relocate

/-! ## The empty file system -/

omit [DecidableEq Name] in
theorem distinct_empty : (([([], .directory)] : List (List Name × Node Name Byte)).map
    Prod.fst).Nodup := List.nodup_singleton _

omit [DecidableEq Name] in
theorem rooted_empty {node : Node Name Byte} (member : (path ++ [name], node) ∈
    [(([], .directory) : List Name × Node Name Byte)]) :
    (path, .directory) ∈ [(([], .directory) : List Name × Node Name Byte)] := by
  have same := congrArg Prod.fst (List.mem_singleton.mp member)
  exact absurd same (List.append_ne_nil_of_right_ne_nil _ (List.cons_ne_nil _ _))

def empty : FileSystem Name Byte where
  nodes := [([], .directory)]
  distinct := distinct_empty
  base := List.mem_singleton_self _
  rooted _ _ _ := rooted_empty

end FileSystem

end Era.Lib.Files
