import Era.Core.CronField
import Era.Lib.Machine
import Era.Providers.Workspace

/-!
# Runs of the workspace provider

Whatever calls are made, in whatever order and with whatever obstacles, nothing outside of the
workspace changes and its root stays where it is.
-/

namespace Era.Providers

open Era.Core Era.Security Era.Lib Era.Lib.Files Era.Lib.Files.FileSystem

structure WorkspaceCall where
  around : Surroundings
  actionType : String
  params : Params

def workspaceMachine (platform : Platform) (provider : WorkspaceProvider) :
    Machine Disk WorkspaceCall (Except Raised ActionResult) where
  step disk call := provider.execute call.around disk platform call.actionType call.params

/-! ## Containment -/

/-- What is outside of a root is what it was, and the root is still one. -/
structure Confined (root : List String) (before after : Disk) : Prop where
  outside : ∀ path, ¬root <+: path → after.get path = before.get path
  rooted : Rooted after root

variable {root path : List String} {disk after middle : Disk} {around : Surroundings}

theorem Confined.refl (rooted : Rooted disk root) : Confined root disk disk :=
  ⟨fun _ _ => rfl, rooted⟩

theorem Confined.trans (first : Confined root disk middle) (second : Confined root middle after) :
    Confined root disk after :=
  ⟨fun path away => (second.outside path away).trans (first.outside path away), second.rooted⟩

/-- What is above the root is a directory. -/
theorem get_of_begins (rooted : Rooted disk root) {above : List String} (begins : above <+: root) :
    disk.get above = some .directory := by
  obtain ⟨rest, rfl⟩ := begins
  obtain rfl | below := eq_or_ne rest []
  · have directory := rooted.directory
    rwa [List.append_nil] at directory
  · exact get_above rooted.directory below

theorem confined_of_grown {above : List String} (rooted : Rooted disk root)
    (inside : root <+: path) (begins : above <+: path) (grown : Grown disk after above) :
    Confined root disk after := by
  refine ⟨fun other away => ?_, rooted.grown grown⟩
  obtain same | ⟨upTo, absent, _⟩ := grown other
  · exact same
  · obtain under | higher := List.prefix_or_prefix_of_prefix (upTo.trans begins) inside
    · rw [get_of_begins rooted under] at absent
      cases absent
    · exact absurd higher away

/-- A change away from the root and all that is above it. -/
theorem confined_of_agree (rooted : Rooted disk root)
    (agree : ∀ path, ¬root <+: path ∨ path = root → after.get path = disk.get path) :
    Confined root disk after := by
  have upTo {above : List String} (begins : above <+: root) :
      after.get above = disk.get above := by
    by_cases inside : root <+: above
    · exact agree above (.inr (begins.eq_of_length_le inside.length_le))
    · exact agree above (.inl inside)
  refine ⟨fun other away => agree other (.inl away), (upTo (List.prefix_refl _)).trans
    rooted.directory, fun above begins target linked => ?_⟩
  exact rooted.canonical above begins target ((upTo begins).symm.trans linked)

theorem confined_of_updated {node : Option (Node String UInt8)} (rooted : Rooted disk root)
    (inside : root <+: path) (below : path ≠ root) (updated : Updated disk after path node) :
    Confined root disk after := by
  refine confined_of_agree rooted fun other place => updated.ne ?_
  rintro rfl
  exact place.elim (fun away => away inside) below

theorem confined_of_relocated {source target : List String} (rooted : Rooted disk root)
    (inSource : root <+: source) (inTarget : root <+: target)
    (relocated : Relocated disk after source target) : Confined root disk after := by
  have fresh : target ≠ root := by
    rintro rfl
    have free := relocated.free []
    rw [List.append_nil, rooted.directory] at free
    cases free
  have moved : source ≠ root := by
    rintro rfl
    exact relocated.apart inTarget
  have apart {place other : List String} (inside : root <+: place) (below : place ≠ root)
      (at_other : ¬root <+: other ∨ other = root) : ¬place <+: other := by
    intro begins
    obtain away | rfl := at_other
    · exact away (inside.trans begins)
    · exact below (begins.eq_of_length_le inside.length_le)
  exact confined_of_agree rooted fun other place => relocated.elsewhere other
    (apart inSource moved place) (apart inTarget fresh place)

namespace WorkspaceProvider

variable {provider : WorkspaceProvider} {platform : Platform}

theorem confined_write (rooted : Rooted disk root) (inside : root <+: path)
    (canonical : disk.Canonical path) (content : String) :
    Confined root disk (provider.write around disk path content).1 := by
  have above : path.dropLast <+: path := List.dropLast_prefix path
  unfold write
  cases made : disk.mkdirs around.obstacles path.dropLast with
  | mk middle outcome =>
      obtain ⟨grown, _⟩ := mkdirs_cases (canonical.above above) made
      have first := confined_of_grown rooted inside above grown
      cases outcome with
      | error errno => exact first
      | ok _ =>
          dsimp only
          cases wrote : middle.writeFile around.obstacles path (encodeText content) with
          | mk final outcome =>
              have second : Confined root middle final := by
                obtain ⟨rfl, _⟩ | ⟨_, file, updated⟩ :=
                  writeFile_cases (grown.canonical canonical) wrote
                · exact .refl first.rooted
                · refine confined_of_updated first.rooted inside ?_ updated
                  rintro rfl
                  obtain ⟨_, impossible⟩ := file _ first.rooted.directory
                  cases impossible
              cases outcome <;> exact first.trans second

theorem confined_move {src dst : List String} (rooted : Rooted disk root)
    (inSource : root <+: src) (inTarget : root <+: dst) (canonicalSource : disk.Canonical src)
    (canonicalTarget : disk.Canonical dst) :
    Confined root disk (provider.move around disk src dst).1 := by
  have above : dst.dropLast <+: dst := List.dropLast_prefix dst
  unfold move
  split
  next => exact .refl rooted
  next =>
    split
    next => exact .refl rooted
    next => exact .refl rooted
    next =>
      cases made : disk.mkdirs around.obstacles dst.dropLast with
      | mk middle outcome =>
          obtain ⟨grown, _⟩ := mkdirs_cases (canonicalTarget.above above) made
          have first := confined_of_grown rooted inTarget above grown
          cases outcome with
          | error errno => exact first
          | ok _ =>
              dsimp only
              split
              next => exact first
              next renamed =>
                obtain ⟨_, ⟨_, rfl⟩ | relocated⟩ := rename_ok (grown.canonical canonicalSource)
                  (grown.canonical canonicalTarget) renamed
                · exact first
                · exact first.trans
                    (confined_of_relocated first.rooted inSource inTarget relocated)

theorem confined_delete (rooted : Rooted disk provider.workspace.root)
    (inside : provider.workspace.root <+: path) (canonical : disk.Canonical path) :
    Confined provider.workspace.root disk (provider.delete around disk path).1 := by
  unfold delete
  split
  next => exact .refl rooted
  next below =>
    split
    next => exact .refl rooted
    next node _ =>
      split
      next => exact .refl rooted
      next final removed =>
        have updated : Updated disk final path none := by
          split at removed
          · exact (rmdir_ok canonical removed).2.2
          · exact (unlink_ok canonical removed).2
        exact confined_of_updated rooted inside below updated

theorem resolved_ok {params : Params} {key : String}
    (ok : provider.resolved around disk platform params key = .ok path) :
    provider.workspace.root <+: path ∧ disk.Canonical path := by
  obtain ⟨text, _, found⟩ := bind_eq_ok_iff.mp ok
  exact WorkspaceRoot.canonical_of_resolve found

/-- What a call that changes anything does. -/
theorem execute_cases (provider : WorkspaceProvider) (platform : Platform) (disk : Disk)
    (call : WorkspaceCall) :
    ((workspaceMachine platform provider).step disk call).1 = disk ∨
    (∃ path content, call.actionType ∈ writeActions ∧
      provider.resolved call.around disk platform call.params "path" = .ok path ∧
      requiredText platform call.params "content" = .ok content ∧
      (workspaceMachine platform provider).step disk call =
        provider.write call.around disk path content) ∨
    (∃ src dst, call.actionType = "fs.move" ∧
      provider.resolved call.around disk platform call.params "path" = .ok src ∧
      provider.resolved call.around disk platform call.params "dst" = .ok dst ∧
      (workspaceMachine platform provider).step disk call =
        provider.move call.around disk src dst) ∨
    ∃ path, call.actionType ∈ deleteActions ∧
      provider.resolved call.around disk platform call.params "path" = .ok path ∧
      (workspaceMachine platform provider).step disk call =
        provider.delete call.around disk path := by
  change (execute _ _ _ _ _ _).1 = disk ∨ _
  generalize stepped : (workspaceMachine platform provider).step disk call = answer
  change execute _ _ _ _ _ _ = answer at stepped
  subst stepped
  unfold execute
  cases at_path : provider.resolved call.around disk platform call.params "path" with
  | error raised => exact .inl rfl
  | ok path =>
      dsimp only
      split
      next => exact .inl rfl
      next =>
        split
        next => exact .inl rfl
        next =>
          split
          next writes =>
            cases at_content : requiredText platform call.params "content" with
            | error raised => exact .inl rfl
            | ok content => exact .inr (.inl ⟨path, content, writes, rfl, rfl, rfl⟩)
          next =>
            split
            next moves =>
              cases at_dst : provider.resolved call.around disk platform call.params "dst" with
              | error raised => exact .inl rfl
              | ok dst => exact .inr (.inr (.inl ⟨path, dst, moves, rfl, rfl, rfl⟩))
            next =>
              split
              next deletes => exact .inr (.inr (.inr ⟨path, deletes, rfl, rfl⟩))
              next => exact .inl rfl

theorem confined_step (rooted : Rooted disk provider.workspace.root) (call : WorkspaceCall) :
    Confined provider.workspace.root disk
      ((workspaceMachine platform provider).step disk call).1 := by
  obtain same | ⟨path, content, _, at_path, _, wrote⟩ | ⟨src, dst, _, at_src, at_dst, moved⟩ |
      ⟨path, _, at_path, deleted⟩ := execute_cases provider platform disk call
  · rw [same]
    exact .refl rooted
  · obtain ⟨inside, canonical⟩ := resolved_ok at_path
    rw [wrote]
    exact confined_write rooted inside canonical content
  · obtain ⟨inSource, canonicalSource⟩ := resolved_ok at_src
    obtain ⟨inTarget, canonicalTarget⟩ := resolved_ok at_dst
    rw [moved]
    exact confined_move rooted inSource inTarget canonicalSource canonicalTarget
  · obtain ⟨inside, canonical⟩ := resolved_ok at_path
    rw [deleted]
    exact confined_delete rooted inside canonical

theorem confined_run (rooted : Rooted disk provider.workspace.root) (calls : List WorkspaceCall) :
    Confined provider.workspace.root disk
      ((workspaceMachine platform provider).stateAfter disk calls) :=
  Machine.invariant (.refl rooted)
    (fun _ call confined => confined.trans (confined_step confined.rooted call)) calls

/-! ## What results tell -/

theorem existing_ok {what : String} {node : Node String UInt8} (canonical : disk.Canonical path)
    (ok : provider.existing around disk path what = .ok node) : disk.get path = some node := by
  unfold existing at ok
  split at ok
  next => cases ok
  next => cases ok
  next found at_path =>
    obtain rfl := Except.ok.inj ok
    exact stat_ok canonical at_path

/-- The result of a read has the text of a file in the workspace. -/
theorem read_ok {result : ActionResult} (canonical : disk.Canonical path)
    (ok : provider.read around disk path = .ok result) :
    ∃ content, disk.get path = some (.file content) ∧
      content.length ≤ provider.maxFileBytes ∧
      result.data = [("path", .str (provider.workspace.pathOf path)),
        ("bytes", .int content.length), ("content", .str (decodeText around content))] := by
  unfold read at ok
  split at ok
  next => cases ok
  next content at_path =>
    have found := existing_ok canonical at_path
    dsimp only at ok
    split at ok
    next => cases ok
    next small =>
      split at ok
      next => cases ok
      next again at_content =>
        have same := readFile_ok canonical at_content
        obtain rfl := Node.file.inj (Option.some.inj (found.symm.trans same))
        obtain rfl := Except.ok.inj ok
        exact ⟨content, found, not_lt.mp small, rfl⟩
  next => cases ok
  next => cases ok

/-- The result of a listing has names in a directory of the workspace. -/
theorem list_ok {result : ActionResult} (canonical : disk.Canonical path)
    (ok : provider.list around disk path = .ok result) :
    disk.get path = some .directory ∧ ∃ entries,
      result.data = [("path", .str (provider.workspace.pathOf path)),
        ("entries", .list entries)] ∧
      ∀ entry ∈ entries, ∃ name ∈ disk.children path,
        listed around disk path name = .ok entry := by
  unfold list at ok
  split at ok
  next => cases ok
  next at_path =>
    refine ⟨existing_ok canonical at_path, ?_⟩
    split at ok
    next => cases ok
    next names scanned =>
      obtain rfl := scan_ok canonical scanned
      obtain ⟨entries, each, rfl⟩ := map_eq_ok_iff.mp ok
      refine ⟨entries, rfl, fun entry member => ?_⟩
      obtain ⟨name, taken, told⟩ := (mem_mapM_iff each).mp member
      exact ⟨name, (List.mem_insertionSort _).mp (List.mem_of_mem_take taken), told⟩
  next => cases ok
  next => cases ok

/-- Texts come from files of the workspace, and names from its directories. -/
structure Discreet (provider : WorkspaceProvider) (platform : Platform) (disk : Disk)
    (call : WorkspaceCall) : Prop where
  text : ∀ result, call.actionType ∈ readActions →
    ((workspaceMachine platform provider).step disk call).2 = .ok result →
    ∃ below content, disk.get (provider.workspace.root ++ below) = some (.file content) ∧
      result.data.lookup "content" = some (.str (decodeText call.around content))
  names : ∀ result, call.actionType = "fs.list" →
    ((workspaceMachine platform provider).step disk call).2 = .ok result →
    ∃ below entries, disk.get (provider.workspace.root ++ below) = some .directory ∧
      result.data.lookup "entries" = some (.list entries) ∧
      ∀ entry ∈ entries, ∃ name ∈ disk.children (provider.workspace.root ++ below),
        listed call.around disk (provider.workspace.root ++ below) name = .ok entry

theorem ne_list_of_reads {actionType : String} (reads : actionType ∈ readActions) :
    actionType ≠ "fs.list" := by
  rintro rfl
  exact absurd reads (by decide)

/-- Reading is what the first branches of `execute` do. -/
theorem execute_reads {actionType : String} {params : Params} {result : ActionResult}
    (reads : actionType ∈ readActions)
    (ok : (provider.execute around disk platform actionType params).2 = .ok result) :
    ∃ path, provider.resolved around disk platform params "path" = .ok path ∧
      provider.read around disk path = .ok result := by
  unfold execute at ok
  cases at_path : provider.resolved around disk platform params "path" with
  | error raised =>
      rw [at_path] at ok
      cases ok
  | ok path =>
      rw [at_path] at ok
      dsimp only at ok
      rw [if_neg (ne_list_of_reads reads), if_pos reads] at ok
      exact ⟨path, rfl, ok⟩

theorem execute_lists {params : Params} {result : ActionResult}
    (ok : (provider.execute around disk platform "fs.list" params).2 = .ok result) :
    ∃ path, provider.resolved around disk platform params "path" = .ok path ∧
      provider.list around disk path = .ok result := by
  unfold execute at ok
  cases at_path : provider.resolved around disk platform params "path" with
  | error raised =>
      rw [at_path] at ok
      cases ok
  | ok path =>
      rw [at_path] at ok
      dsimp only at ok
      rw [if_pos rfl] at ok
      exact ⟨path, rfl, ok⟩

theorem discreet (provider : WorkspaceProvider) (platform : Platform) (disk : Disk)
    (call : WorkspaceCall) : Discreet provider platform disk call where
  text result reads ok := by
    obtain ⟨path, at_path, ok⟩ := execute_reads reads ok
    obtain ⟨⟨below, rfl⟩, canonical⟩ := resolved_ok at_path
    obtain ⟨content, found, _, data_eq⟩ := read_ok canonical ok
    refine ⟨below, content, found, ?_⟩
    rw [data_eq]
    rfl
  names result lists ok := by
    change (provider.execute _ _ _ _ _).2 = _ at ok
    rw [lists] at ok
    obtain ⟨path, at_path, ok⟩ := execute_lists ok
    obtain ⟨⟨below, rfl⟩, canonical⟩ := resolved_ok at_path
    obtain ⟨directory, entries, data_eq, all⟩ := list_ok canonical ok
    refine ⟨below, entries, directory, ?_, all⟩
    rw [data_eq]
    rfl

end WorkspaceProvider

open WorkspaceProvider

namespace Demo

def calm : Surroundings where
  obstacles := .none
  osError _ := ("OSError", "")
  symlinkLoop := ""
  decodeReplacing _ := ""

/-- A disk with one file. -/
def etc : Disk :=
  ((empty.mkdirs .none ["etc"]).1.writeFile .none ["etc", "passwd"] [114, 111, 111, 116]).1

def served : Disk := (WorkspaceRoot.init etc calm [] "/srv/ws").1

def workspaceProvider : WorkspaceProvider where
  workspace := ⟨["srv", "ws"]⟩

def workspaceCalls : List WorkspaceCall :=
  [⟨calm, "fs.write", [("path", .str "site/index.html"), ("content", .str "hi\r\n")]⟩,
    ⟨calm, "fs.move", [("path", .str "site"), ("dst", .str "old/site")]⟩,
    ⟨calm, "fs.list", [("path", .str "old")]⟩,
    ⟨calm, "fs.delete", [("path", .str "../../etc/passwd")]⟩]

theorem workspace_created :
    WorkspaceRoot.init etc calm [] "/srv/ws" = (served, .ok workspaceProvider.workspace) := by
  have answered : (WorkspaceRoot.init etc calm [] "/srv/ws").2 = .ok ⟨["srv", "ws"]⟩ := by
    decide +kernel
  exact Prod.ext rfl answered

end Demo

end Era.Providers
