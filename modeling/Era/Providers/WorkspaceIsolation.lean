import Mathlib.Data.String.Basic
import Era.Lib.FileAgreement
import Era.Lib.Refinement
import Era.Providers.WorkspaceRuns

/-!
# The workspace and the world outside of it

In a workspace without links, calls whose paths do not climb out of it depend on nothing that is
outside: two disks with the same workspace cannot be told apart.
-/

namespace Era.Providers

open Era.Core Era.Security Era.Lib Era.Lib.Files Era.Lib.Files.FileSystem

/-! ## Paths -/

theorem stays_of_no_up {steps : List (PathStep String)} (no_up : .up ∉ steps) (depth : Nat) :
    Stays depth steps := by
  induction steps generalizing depth with
  | nil => exact True.intro
  | cons step rest ih =>
      obtain ⟨here, later⟩ := not_or.mp (mt List.mem_cons.mpr no_up)
      cases step with
      | up => exact absurd rfl here
      | down name => cases depth <;> exact ih later _

/-- Safe relative paths never climb. -/
theorem stays_of_isSafeRelativePath {text : String}
    (safe : isSafeRelativePath (.str text) = true) : Stays 0 (pathSteps text) := by
  unfold isSafeRelativePath at safe
  dsimp only at safe
  split at safe
  next => cases safe
  next =>
    refine stays_of_no_up (fun up => ?_) 0
    obtain ⟨part, member, is_up⟩ := List.mem_map.mp up
    have different := List.all_eq_true.mp safe part member
    split at is_up
    next same =>
      rw [same] at different
      cases different
    next => cases is_up

variable {root path : List String} {disk other : Disk} {around : Surroundings}
variable {provider : WorkspaceProvider} {platform : Platform}

theorem resolves_alike (alike : Alike root disk other) {steps : List (PathStep String)}
    (stays : Stays 0 steps) :
    disk.resolve [] (root.map .down ++ steps) = some (root ++ lexical [] steps) := by
  have resolves : disk.Resolves (root ++ []) steps (root ++ lexical [] steps) :=
    resolves_of_linkFree alike.free stays
  rw [List.append_nil] at resolves
  exact resolve_eq_some_iff.mpr (Resolves.along alike.canonical resolves)

theorem resolve_eq (alike : Alike provider.workspace.root disk other) {text : String}
    (stays : Stays 0 (pathSteps text)) :
    provider.workspace.resolve disk around (.str text) =
      provider.workspace.resolve other around (.str text) := by
  unfold WorkspaceRoot.resolve
  dsimp only
  rw [resolves_alike alike stays, resolves_alike alike.symm stays]

/-- The paths of a call do not climb out of the workspace. -/
def StaysInside (platform : Platform) (call : WorkspaceCall) : Prop :=
  ∀ key ∈ ["path", "dst"], ∀ text,
    WorkspaceProvider.requiredText platform call.params key = .ok text → Stays 0 (pathSteps text)

/-- The paths of a call are safe relative paths. -/
def safePaths (platform : Platform) (call : WorkspaceCall) : Bool :=
  ["path", "dst"].all fun key =>
    match WorkspaceProvider.requiredText platform call.params key with
    | .ok text => isSafeRelativePath (.str text)
    | .error _ => true

theorem staysInside_of_safePaths {call : WorkspaceCall} (safe : safePaths platform call = true) :
    StaysInside platform call := by
  intro key listed text given
  have checked := List.all_eq_true.mp safe key listed
  rw [given] at checked
  exact stays_of_isSafeRelativePath checked

namespace WorkspaceProvider

theorem resolved_eq (alike : Alike provider.workspace.root disk other) {params : Params}
    {key : String}
    (stays : ∀ text, requiredText platform params key = .ok text → Stays 0 (pathSteps text)) :
    provider.resolved around disk platform params key =
      provider.resolved around other platform params key := by
  unfold resolved
  cases given : requiredText platform params key with
  | error raised => rfl
  | ok text => exact resolve_eq alike (stays text given)

theorem existing_eq (alike : Alike root disk other) (near : Near root path) (what : String) :
    provider.existing around disk path what = provider.existing around other path what := by
  unfold existing
  rw [alike.stat_eq around.obstacles near]

theorem read_alike (alike : Alike root disk other) (near : Near root path) :
    provider.read around disk path = provider.read around other path := by
  unfold read
  rw [existing_eq alike near, alike.readFile_eq around.obstacles near]

theorem list_alike (alike : Alike root disk other) (under : root <+: path) :
    provider.list around disk path = provider.list around other path := by
  have told : listed around disk path = listed around other path := by
    funext name
    unfold listed
    rw [alike.stat_eq around.obstacles (.inr (under.trans (List.prefix_append path [name])))]
  unfold list
  rw [existing_eq alike (.inr under), told]
  obtain ⟨errno, left, right⟩ | ⟨names, otherNames, left, right, permuted⟩ :=
    alike.scan around.obstacles under
  · rw [left, right]
  · rw [left, right]
    have sorted : names.insertionSort (· ≤ ·) = otherNames.insertionSort (· ≤ ·) :=
      List.Perm.eq_of_pairwise' (List.pairwise_insertionSort _ names)
        (List.pairwise_insertionSort _ otherNames)
        ((List.perm_insertionSort _ names).trans
          (permuted.trans (List.perm_insertionSort _ otherNames).symm))
    dsimp only
    rw [sorted]

/-- Calls that answer alike and leave the disks alike. -/
def AlikeAnswers (root : List String)
    (left right : Disk × Except Raised ActionResult) : Prop :=
  left.2 = right.2 ∧ Alike root left.1 right.1

theorem write_alike {content : String} (alike : Alike root disk other) (under : root <+: path) :
    AlikeAnswers root (provider.write around disk path content)
      (provider.write around other path content) := by
  have near : Near root path := .inr under
  obtain ⟨same, made⟩ := alike.mkdirs around.obstacles (near.above (List.dropLast_prefix path))
  unfold write
  generalize disk.mkdirs around.obstacles path.dropLast = left at same made ⊢
  generalize other.mkdirs around.obstacles path.dropLast = right at same made ⊢
  obtain ⟨left, outcome⟩ := left
  obtain ⟨right, otherOutcome⟩ := right
  obtain rfl : outcome = otherOutcome := same
  cases outcome with
  | error errno => exact ⟨rfl, made⟩
  | ok _ =>
      dsimp only at made ⊢
      obtain ⟨same, wrote⟩ := Alike.writeFile around.obstacles (encodeText content) made near
      generalize left.writeFile around.obstacles path (encodeText content) = first
        at same wrote ⊢
      generalize right.writeFile around.obstacles path (encodeText content) = second
        at same wrote ⊢
      obtain ⟨first, outcome⟩ := first
      obtain ⟨second, otherOutcome⟩ := second
      obtain rfl : outcome = otherOutcome := same
      cases outcome <;> exact ⟨rfl, wrote⟩

theorem move_alike {src dst : List String} (alike : Alike root disk other)
    (inSource : root <+: src) (inTarget : root <+: dst) :
    AlikeAnswers root (provider.move around disk src dst) (provider.move around other src dst) := by
  have near : Near root dst := .inr inTarget
  obtain ⟨same, made⟩ := alike.mkdirs around.obstacles (near.above (List.dropLast_prefix dst))
  unfold move
  rw [existing_eq alike (.inr inSource), alike.stat_eq around.obstacles near]
  split
  next => exact ⟨rfl, alike⟩
  next =>
    split
    next => exact ⟨rfl, alike⟩
    next => exact ⟨rfl, alike⟩
    next =>
      generalize disk.mkdirs around.obstacles dst.dropLast = left at same made ⊢
      generalize other.mkdirs around.obstacles dst.dropLast = right at same made ⊢
      obtain ⟨left, outcome⟩ := left
      obtain ⟨right, otherOutcome⟩ := right
      obtain rfl : outcome = otherOutcome := same
      cases outcome with
      | error errno => exact ⟨rfl, made⟩
      | ok _ =>
          dsimp only at made ⊢
          have renamed := Alike.rename around.obstacles made inSource inTarget
          generalize left.rename around.obstacles src dst = first at renamed ⊢
          generalize right.rename around.obstacles src dst = second at renamed ⊢
          cases renamed with
          | error errno => exact ⟨rfl, made⟩
          | ok alike => exact ⟨rfl, alike⟩

theorem delete_alike (alike : Alike provider.workspace.root disk other)
    (under : provider.workspace.root <+: path) :
    AlikeAnswers provider.workspace.root (provider.delete around disk path)
      (provider.delete around other path) := by
  have near : Near provider.workspace.root path := .inr under
  unfold delete
  rw [existing_eq alike near]
  split
  next => exact ⟨rfl, alike⟩
  next inside =>
    split
    next => exact ⟨rfl, alike⟩
    next node _ =>
      have removed : AlikeAfter provider.workspace.root
          (if node.isDirectory then disk.rmdir around.obstacles path
            else disk.unlink around.obstacles path)
          (if node.isDirectory then other.rmdir around.obstacles path
            else other.unlink around.obstacles path) := by
        split
        · exact alike.rmdir around.obstacles under inside
        · exact alike.unlink around.obstacles near
      generalize (if node.isDirectory then disk.rmdir around.obstacles path
            else disk.unlink around.obstacles path) = left at removed ⊢
      generalize (if node.isDirectory then other.rmdir around.obstacles path
            else other.unlink around.obstacles path) = right at removed ⊢
      cases removed with
      | error errno => exact ⟨rfl, alike⟩
      | ok alike => exact ⟨rfl, alike⟩

theorem step_alike {call : WorkspaceCall} (alike : Alike provider.workspace.root disk other)
    (stays : StaysInside platform call) :
    AlikeAnswers provider.workspace.root ((workspaceMachine platform provider).step disk call)
      ((workspaceMachine platform provider).step other call) := by
  change AlikeAnswers _ (execute _ _ _ _ _ _) (execute _ _ _ _ _ _)
  unfold execute
  rw [← resolved_eq alike (stays "path" (by simp))]
  cases at_path : provider.resolved call.around disk platform call.params "path" with
  | error raised => exact ⟨rfl, alike⟩
  | ok path =>
      have under := (resolved_ok at_path).1
      dsimp only
      split
      next => exact ⟨list_alike alike under, alike⟩
      next =>
        split
        next => exact ⟨read_alike alike (.inr under), alike⟩
        next =>
          split
          next =>
            split
            next => exact ⟨rfl, alike⟩
            next => exact write_alike alike under
          next =>
            split
            next =>
              rw [← resolved_eq alike (stays "dst" (by simp))]
              cases at_dst : provider.resolved call.around disk platform call.params "dst" with
              | error raised => exact ⟨rfl, alike⟩
              | ok dst => exact move_alike alike under (resolved_ok at_dst).1
            next =>
              split
              next => exact delete_alike alike under
              next => exact ⟨rfl, alike⟩

theorem run_alike {calls : List WorkspaceCall} (alike : Alike provider.workspace.root disk other)
    (stays : ∀ call ∈ calls, StaysInside platform call) :
    (workspaceMachine platform provider).outputs disk calls =
        (workspaceMachine platform provider).outputs other calls ∧
      Alike provider.workspace.root ((workspaceMachine platform provider).stateAfter disk calls)
        ((workspaceMachine platform provider).stateAfter other calls) := by
  induction calls generalizing disk other with
  | nil => exact ⟨rfl, alike⟩
  | cons call rest ih =>
      obtain ⟨here, later⟩ := List.forall_mem_cons.mp stays
      obtain ⟨same, alike⟩ := step_alike alike here
      obtain ⟨others, final⟩ := ih alike later
      refine ⟨?_, final⟩
      rw [Machine.outputs, Machine.outputs, same, others]

end WorkspaceProvider

/-- Two disks with the same workspace, which has no links, answer all calls alike whose paths do
not climb out of it, and have the same workspace afterwards. -/
theorem isolated_run {platform : Platform} {provider : WorkspaceProvider} {disk other : Disk}
    {calls : List WorkspaceCall} (rooted : Rooted disk provider.workspace.root)
    (otherRooted : Rooted other provider.workspace.root)
    (free : LinkFree disk provider.workspace.root)
    (same : ∀ rest, disk.get (provider.workspace.root ++ rest) =
      other.get (provider.workspace.root ++ rest))
    (stays : ∀ call ∈ calls, StaysInside platform call) :
    (workspaceMachine platform provider).outputs disk calls =
        (workspaceMachine platform provider).outputs other calls ∧
      ∀ rest, ((workspaceMachine platform provider).stateAfter disk calls).get
          (provider.workspace.root ++ rest) =
        ((workspaceMachine platform provider).stateAfter other calls).get
          (provider.workspace.root ++ rest) := by
  have alike : Alike provider.workspace.root disk other :=
    ⟨same, rooted.directory, rooted.canonical, otherRooted.canonical, free⟩
  obtain ⟨outputs_eq, final⟩ := WorkspaceProvider.run_alike alike stays
  exact ⟨outputs_eq, final.below⟩

namespace Demo

/-- A disk with nothing but a workspace. -/
def bare : Disk := (WorkspaceRoot.init empty calm [] "/srv/ws").1

theorem bare_created :
    WorkspaceRoot.init empty calm [] "/srv/ws" = (bare, .ok workspaceProvider.workspace) := by
  have answered : (WorkspaceRoot.init empty calm [] "/srv/ws").2 = .ok ⟨["srv", "ws"]⟩ := by
    decide +kernel
  exact Prod.ext rfl answered

/-- The workspaces of the two disks are the same: there is nothing in them. -/
theorem same_workspace (rest : List String) :
    served.get (["srv", "ws"] ++ rest) = bare.get (["srv", "ws"] ++ rest) := by
  obtain rfl | below := eq_or_ne rest []
  · decide +kernel
  · rw [get_below_of_children_eq_nil (by decide +kernel) below,
      get_below_of_children_eq_nil (by decide +kernel) below]

end Demo

theorem demo_isolated :
    (workspaceMachine .plain Demo.workspaceProvider).outputs Demo.served
          (Demo.workspaceCalls.take 3) =
        (workspaceMachine .plain Demo.workspaceProvider).outputs Demo.bare
          (Demo.workspaceCalls.take 3) ∧
      ∀ rest, ((workspaceMachine .plain Demo.workspaceProvider).stateAfter Demo.served
          (Demo.workspaceCalls.take 3)).get (["srv", "ws"] ++ rest) =
        ((workspaceMachine .plain Demo.workspaceProvider).stateAfter Demo.bare
          (Demo.workspaceCalls.take 3)).get (["srv", "ws"] ++ rest) := by
  have safe : (Demo.workspaceCalls.take 3).all (safePaths .plain) = true := by decide +kernel
  exact isolated_run (WorkspaceRoot.rooted_of_init (canonical_nil _) Demo.workspace_created)
    (WorkspaceRoot.rooted_of_init (canonical_nil _) Demo.bare_created)
    (linkFree_of_links_eq_nil (by decide +kernel) _) Demo.same_workspace
    fun call member => staysInside_of_safePaths (List.all_eq_true.mp safe call member)

end Era.Providers
