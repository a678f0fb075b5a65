import Era.Lib.FileSystem
import Mathlib.Data.List.Perm.Subperm

/-!
# The resolution of paths

A path is resolved step by step: `up` leaves the last name, a link is replaced by what its target
resolves to, and what has no node is taken as it stands.  Links are resolved within links; more
of them than there are in the file system are a loop.
-/

namespace Era.Lib.Files

/-- Where the steps of a link start that is in a directory. -/
def LinkTarget.start {Name : Type} (target : LinkTarget Name) (directory : List Name) :
    List Name :=
  if target.absolute then [] else directory

namespace FileSystem

variable {Name Byte : Type} [DecidableEq Name] (fs : FileSystem Name Byte)

/-- The place that steps lead to, with the resolution of what links say. -/
def resolveWith (inner : List Name → List (PathStep Name) → Option (List Name)) :
    List Name → List (PathStep Name) → Option (List Name)
  | path, [] => some path
  | path, .up :: rest => resolveWith inner path.dropLast rest
  | path, .down name :: rest =>
      match fs.get (path ++ [name]) with
      | some (.link target) =>
          (inner (target.start path) target.steps).bind fun found => resolveWith inner found rest
      | some (.file _) | some .directory | none => resolveWith inner (path ++ [name]) rest

/-- Resolution with links within links up to a depth. -/
def resolveNested : Nat → List Name → List (PathStep Name) → Option (List Name)
  | 0 => fs.resolveWith fun _ _ => none
  | depth + 1 => fs.resolveWith (resolveNested depth)

/-- The paths of the links. -/
def links : List (List Name) :=
  fs.nodes.filterMap fun row =>
    match row.2 with
    | .link _ => some row.1
    | .file _ | .directory => none

/-- The place that steps lead to from a path, which is none for a loop. -/
def resolve (path : List Name) (steps : List (PathStep Name)) : Option (List Name) :=
  fs.resolveNested fs.links.length path steps

/-- What resolution means. -/
inductive Resolves : List Name → List (PathStep Name) → List Name → Prop where
  | here (path : List Name) : Resolves path [] path
  | up {path found : List Name} {rest : List (PathStep Name)}
      (later : Resolves path.dropLast rest found) : Resolves path (.up :: rest) found
  | down {path found : List Name} {name : Name} {rest : List (PathStep Name)}
      (plain : ∀ target, fs.get (path ++ [name]) ≠ some (.link target))
      (later : Resolves (path ++ [name]) rest found) : Resolves path (.down name :: rest) found
  | link {path middle found : List Name} {name : Name} {target : LinkTarget Name}
      {rest : List (PathStep Name)} (linked : fs.get (path ++ [name]) = some (.link target))
      (inner : Resolves (target.start path) target.steps middle)
      (later : Resolves middle rest found) : Resolves path (.down name :: rest) found

/-- No link is on a path. -/
def Canonical (path : List Name) : Prop :=
  ∀ above, above <+: path → ∀ target, fs.get above ≠ some (.link target)

variable {fs} {path found : List Name} {steps rest : List (PathStep Name)} {name : Name}
variable {inner outer : List Name → List (PathStep Name) → Option (List Name)}

theorem resolveWith_plain (plain : ∀ target, fs.get (path ++ [name]) ≠ some (.link target)) :
    fs.resolveWith inner path (.down name :: rest) =
      fs.resolveWith inner (path ++ [name]) rest := by
  cases at_name : fs.get (path ++ [name]) with
  | none => simp only [resolveWith, at_name]
  | some node =>
      cases node with
      | link target => exact absurd at_name (plain target)
      | file _ | directory => simp only [resolveWith, at_name]

theorem resolveWith_link {target : LinkTarget Name}
    (linked : fs.get (path ++ [name]) = some (.link target)) :
    fs.resolveWith inner path (.down name :: rest) =
      (inner (target.start path) target.steps).bind fun found =>
        fs.resolveWith inner found rest := by
  simp only [resolveWith, linked]

/-- A path goes on at a link or at a place without one. -/
theorem link_or_plain (fs : FileSystem Name Byte) (path : List Name) :
    (∃ target, fs.get path = some (.link target)) ∨
      ∀ target, fs.get path ≠ some (.link target) := by
  by_cases linked : ∃ target, fs.get path = some (.link target)
  · exact .inl linked
  · exact .inr (not_exists.mp linked)

/-! ## Depths -/

theorem resolveWith_mono
    (more : ∀ path steps found, inner path steps = some found → outer path steps = some found)
    (resolved : fs.resolveWith inner path steps = some found) :
    fs.resolveWith outer path steps = some found := by
  induction steps generalizing path with
  | nil => exact resolved
  | cons step rest ih =>
      cases step with
      | up => exact ih resolved
      | down name =>
          obtain ⟨target, linked⟩ | plain := link_or_plain fs (path ++ [name])
          · rw [resolveWith_link linked] at resolved ⊢
            obtain ⟨middle, first, later⟩ := Option.bind_eq_some_iff.mp resolved
            exact Option.bind_eq_some_iff.mpr ⟨middle, more _ _ _ first, ih later⟩
          · rw [resolveWith_plain plain] at resolved ⊢
            exact ih resolved

theorem resolveNested_succ {depth : Nat}
    (resolved : fs.resolveNested depth path steps = some found) :
    fs.resolveNested (depth + 1) path steps = some found := by
  induction depth generalizing path steps found with
  | zero =>
      refine resolveWith_mono (fun _ _ _ none => ?_) resolved
      cases none
  | succ depth ih => exact resolveWith_mono (fun _ _ _ first => ih first) resolved

theorem resolveNested_le {depth deeper : Nat} (le : depth ≤ deeper)
    (resolved : fs.resolveNested depth path steps = some found) :
    fs.resolveNested deeper path steps = some found := by
  induction le with
  | refl => exact resolved
  | step _ ih => exact resolveNested_succ ih

theorem resolves_of_resolveWith
    (sound : ∀ path steps found, inner path steps = some found → fs.Resolves path steps found)
    (resolved : fs.resolveWith inner path steps = some found) :
    fs.Resolves path steps found := by
  induction steps generalizing path with
  | nil =>
      obtain rfl := Option.some.inj resolved
      exact .here _
  | cons step rest ih =>
      cases step with
      | up => exact .up (ih resolved)
      | down name =>
          obtain ⟨target, linked⟩ | plain := link_or_plain fs (path ++ [name])
          · rw [resolveWith_link linked] at resolved
            obtain ⟨middle, first, later⟩ := Option.bind_eq_some_iff.mp resolved
            exact .link linked (sound _ _ _ first) (ih later)
          · rw [resolveWith_plain plain] at resolved
            exact .down plain (ih resolved)

theorem resolves_of_resolveNested {depth : Nat}
    (resolved : fs.resolveNested depth path steps = some found) :
    fs.Resolves path steps found := by
  induction depth generalizing path steps found with
  | zero =>
      refine resolves_of_resolveWith (fun _ _ _ none => ?_) resolved
      cases none
  | succ depth ih => exact resolves_of_resolveWith (fun _ _ _ first => ih first) resolved

theorem Resolves.exists_depth (resolves : fs.Resolves path steps found) :
    ∃ depth, fs.resolveNested (depth + 1) path steps = some found := by
  induction resolves with
  | here path => exact ⟨0, rfl⟩
  | up later ih => exact ih
  | down plain later ih =>
      obtain ⟨depth, resolved⟩ := ih
      exact ⟨depth, (resolveWith_plain plain).trans resolved⟩
  | link linked inner later ihInner ihLater =>
      obtain ⟨first, resolved⟩ := ihInner
      obtain ⟨second, rest⟩ := ihLater
      refine ⟨max (first + 1) second, (resolveWith_link linked).trans ?_⟩
      refine Option.bind_eq_some_iff.mpr ⟨_, resolveNested_le (le_max_left _ _) resolved, ?_⟩
      exact resolveNested_le (Nat.succ_le_succ (le_max_right _ _)) rest

/-! ## Enough depth -/

/-- Where one resolution fails and a stronger one does not, a link is on the way of which the
same holds. -/
theorem exists_link_of_none
    (more : ∀ path steps found, inner path steps = some found → outer path steps = some found)
    (resolved : fs.resolveWith outer path steps = some found)
    (failed : fs.resolveWith inner path steps = none) :
    ∃ directory name target, fs.get (directory ++ [name]) = some (.link target) ∧
      (∃ middle, outer (target.start directory) target.steps = some middle) ∧
      inner (target.start directory) target.steps = none := by
  induction steps generalizing path with
  | nil => cases failed
  | cons step rest ih =>
      cases step with
      | up => exact ih resolved failed
      | down name =>
          obtain ⟨target, linked⟩ | plain := link_or_plain fs (path ++ [name])
          · rw [resolveWith_link linked] at resolved failed
            obtain ⟨middle, first, later⟩ := Option.bind_eq_some_iff.mp resolved
            cases early : inner (target.start path) target.steps with
            | none => exact ⟨path, name, target, linked, ⟨middle, first⟩, early⟩
            | some other =>
                obtain rfl := Option.some.inj ((more _ _ _ early).symm.trans first)
                rw [early] at failed
                exact ih later failed
          · rw [resolveWith_plain plain] at resolved failed
            exact ih resolved failed

/-- A link whose resolution needs just this depth. -/
def Ranked (fs : FileSystem Name Byte) (depth : Nat) (path : List Name) : Prop :=
  ∃ target, fs.get path = some (.link target) ∧
    (∃ found, fs.resolveNested depth (target.start path.dropLast) target.steps = some found) ∧
    ∀ less < depth, fs.resolveNested less (target.start path.dropLast) target.steps = none

theorem exists_ranked {depth : Nat}
    (resolved : fs.resolveNested (depth + 1) path steps = some found)
    (failed : fs.resolveNested depth path steps = none) : ∃ link, fs.Ranked depth link := by
  cases depth with
  | zero =>
      obtain ⟨directory, name, target, linked, first, _⟩ :=
        exists_link_of_none (fun _ _ _ none => by cases none) resolved failed
      refine ⟨directory ++ [name], target, linked, ?_, fun less bound => ?_⟩
      · rwa [List.dropLast_concat]
      · exact absurd bound (Nat.not_lt_zero less)
  | succ depth =>
      obtain ⟨directory, name, target, linked, first, none⟩ :=
        exists_link_of_none (fun _ _ _ => resolveNested_succ) resolved failed
      refine ⟨directory ++ [name], target, linked, ?_, fun less bound => ?_⟩
      · rwa [List.dropLast_concat]
      · rw [List.dropLast_concat, Option.eq_none_iff_forall_ne_some]
        intro other early
        rw [resolveNested_le (Nat.le_of_lt_succ bound) early] at none
        cases none

theorem mem_links : path ∈ fs.links ↔ ∃ target, fs.get path = some (.link target) := by
  unfold links
  rw [List.mem_filterMap]
  constructor
  · rintro ⟨⟨_, node⟩, member, same⟩
    cases node with
    | link target =>
        obtain rfl := Option.some.inj same
        exact ⟨target, get_eq_some_iff.mpr member⟩
    | file _ | directory => cases same
  · rintro ⟨target, found⟩
    exact ⟨_, get_eq_some_iff.mp found, rfl⟩

/-- A link of some depth comes with links of all smaller depths. -/
theorem exists_links {depth : Nat} {link : List Name} (ranked : fs.Ranked depth link) :
    ∃ below : List (List Name), below.length = depth + 1 ∧ below.Nodup ∧
      ∀ other ∈ below, ∃ rank ≤ depth, fs.Ranked rank other := by
  induction depth generalizing link with
  | zero => exact ⟨[link], rfl, List.nodup_singleton _, by simpa using ranked⟩
  | succ depth ih =>
      obtain ⟨target, linked, ⟨found, resolved⟩, least⟩ := ranked
      obtain ⟨next, next_ranked⟩ := exists_ranked resolved (least depth (Nat.lt_succ_self _))
      obtain ⟨below, length_eq, distinct, all⟩ := ih next_ranked
      have ranked : fs.Ranked (depth + 1) link := ⟨target, linked, ⟨found, resolved⟩, least⟩
      refine ⟨link :: below, congrArg (· + 1) length_eq, List.nodup_cons.mpr ⟨?_, distinct⟩, ?_⟩
      · intro member
        obtain ⟨rank, bound, other, same, ⟨early, at_rank⟩, _⟩ := all link member
        obtain rfl := Node.link.inj (Option.some.inj (linked.symm.trans same))
        rw [least rank (Nat.lt_succ_of_le bound)] at at_rank
        cases at_rank
      · intro other member
        obtain rfl | later := List.mem_cons.mp member
        · exact ⟨_, le_rfl, ranked⟩
        · obtain ⟨rank, bound, at_rank⟩ := all other later
          exact ⟨rank, Nat.le_succ_of_le bound, at_rank⟩

theorem Ranked.lt {depth : Nat} {link : List Name} (ranked : fs.Ranked depth link) :
    depth < fs.links.length := by
  obtain ⟨below, length_eq, distinct, all⟩ := exists_links ranked
  have listed : below ⊆ fs.links := by
    intro other member
    obtain ⟨_, _, target, linked, _⟩ := all other member
    exact mem_links.mpr ⟨target, linked⟩
  have bound := (distinct.subperm listed).length_le
  omega

/-- The links of the file system are enough depth. -/
theorem resolve_of_resolveNested {depth : Nat}
    (resolved : fs.resolveNested depth path steps = some found) :
    fs.resolve path steps = some found := by
  induction depth with
  | zero => exact resolveNested_le (Nat.zero_le _) resolved
  | succ depth ih =>
      cases early : fs.resolveNested depth path steps with
      | none =>
          obtain ⟨link, ranked⟩ := exists_ranked resolved early
          exact resolveNested_le ranked.lt resolved
      | some other =>
          obtain rfl := Option.some.inj ((resolveNested_succ early).symm.trans resolved)
          exact ih early

/-- Resolution finds the place whenever there is one. -/
theorem resolve_eq_some_iff :
    fs.resolve path steps = some found ↔ fs.Resolves path steps found := by
  constructor
  · exact resolves_of_resolveNested
  · intro resolves
    obtain ⟨depth, resolved⟩ := resolves.exists_depth
    exact resolve_of_resolveNested resolved

/-! ## Canonical paths -/

theorem canonical_nil (fs : FileSystem Name Byte) : fs.Canonical [] := by
  intro above prefix_nil target linked
  rw [List.prefix_nil.mp prefix_nil, get_nil] at linked
  cases linked

theorem Canonical.above {longer : List Name} (canonical : fs.Canonical longer)
    (shorter : path <+: longer) : fs.Canonical path :=
  fun above begins => canonical above (begins.trans shorter)

theorem Canonical.concat (canonical : fs.Canonical path)
    (plain : ∀ target, fs.get (path ++ [name]) ≠ some (.link target)) :
    fs.Canonical (path ++ [name]) := by
  intro above begins target
  obtain rfl | inside := List.prefix_concat_iff.mp begins
  · exact plain target
  · exact canonical above inside target

theorem Canonical.start {target : LinkTarget Name} (canonical : fs.Canonical path) :
    fs.Canonical (target.start path) := by
  unfold LinkTarget.start
  split
  · exact canonical_nil fs
  · exact canonical

/-- There are no links on the way to the place that steps lead to. -/
theorem Resolves.canonical (resolves : fs.Resolves path steps found)
    (canonical : fs.Canonical path) : fs.Canonical found := by
  induction resolves with
  | here => exact canonical
  | up later ih => exact ih (canonical.above (List.dropLast_prefix _))
  | down plain later ih => exact ih (canonical.concat plain)
  | link linked inner later ihInner ihLater => exact ihLater (ihInner canonical.start)

/-- Steps down a path without links lead along it. -/
theorem Resolves.along {names : List Name} (canonical : fs.Canonical (path ++ names))
    (resolves : fs.Resolves (path ++ names) steps found) :
    fs.Resolves path (names.map .down ++ steps) found := by
  induction names generalizing path with
  | nil => rwa [List.append_nil] at resolves
  | cons name rest ih =>
      rw [List.append_cons] at canonical resolves
      exact .down (canonical _ (List.prefix_append _ _)) (ih canonical resolves)

/-! ## Paths below a directory without links -/

/-- The steps as they are written, without a look at the file system. -/
def lexical (path : List Name) (steps : List (PathStep Name)) : List Name :=
  steps.foldl (fun path step =>
    match step with
    | .up => path.dropLast
    | .down name => path ++ [name]) path

/-- Steps that never leave the directory that they start in, of which they are `depth` names
deep. -/
def Stays : Nat → List (PathStep Name) → Prop
  | _, [] => True
  | 0, .up :: _ => False
  | depth + 1, .up :: rest => Stays depth rest
  | depth, .down _ :: rest => Stays (depth + 1) rest

/-- No link is at or below a path. -/
def LinkFree (fs : FileSystem Name Byte) (root : List Name) : Prop :=
  ∀ below target, fs.get (root ++ below) ≠ some (.link target)

theorem linkFree_of_links_eq_nil (none : fs.links = []) (root : List Name) : fs.LinkFree root := by
  intro below target linked
  have member := mem_links.mpr ⟨target, linked⟩
  rw [none] at member
  cases member

theorem resolves_of_linkFree {root below : List Name} (free : fs.LinkFree root)
    (stays : Stays below.length steps) :
    fs.Resolves (root ++ below) steps (root ++ lexical below steps) := by
  induction steps generalizing below with
  | nil => exact .here _
  | cons step rest ih =>
      cases step with
      | up =>
          obtain rfl | ⟨init, last, rfl⟩ := List.eq_nil_or_concat below
          · cases stays
          · rw [List.concat_eq_append] at stays ⊢
            rw [List.length_append] at stays
            refine .up ?_
            rw [← List.append_assoc, List.dropLast_concat]
            have later := ih stays
            rwa [lexical, List.foldl_cons, List.dropLast_concat]
      | down name =>
          have stays : Stays (below ++ [name]).length rest := by
            rw [List.length_append]
            exact stays
          refine .down (fun target => ?_) ?_
          · rw [List.append_assoc]
            exact free _ target
          · rw [List.append_assoc]
            exact ih stays

end FileSystem

end Era.Lib.Files
