import Era.Providers.WorkspaceRuns

/-!
# What becomes of the files of the workspace

A file stays what it is under all calls that do not name it.  Only writes and deletions make or
lose contents.
-/

namespace Era.Providers

open Era.Core Era.Security Era.Lib Era.Lib.Files Era.Lib.Files.FileSystem

namespace WorkspaceProvider

variable {provider : WorkspaceProvider} {platform : Platform} {around : Surroundings}
variable {disk after : Disk} {path place : List String} {bytes : List UInt8}

/-! ## One file -/

/-- A call neither writes nor deletes the file at a place, and moves neither it nor a directory
around it. -/
structure Spares (provider : WorkspaceProvider) (platform : Platform) (place : List String)
    (disk : Disk) (call : WorkspaceCall) : Prop where
  named : ∀ path, provider.resolved call.around disk platform call.params "path" = .ok path →
    call.actionType ∈ writeActions ++ deleteActions → path ≠ place
  moved : ∀ path, provider.resolved call.around disk platform call.params "path" = .ok path →
    call.actionType = "fs.move" → ¬path <+: place

theorem get_of_grown {node : Node String UInt8} (grown : Grown disk after path)
    (found : disk.get place = some node) : after.get place = some node := by
  obtain same | ⟨_, absent, _⟩ := grown place
  · exact same.trans found
  · rw [found] at absent
    cases absent

theorem get_write {content : String} {node : Node String UInt8} (canonical : disk.Canonical path)
    (different : path ≠ place) (found : disk.get place = some node) :
    (provider.write around disk path content).1.get place = some node := by
  unfold write
  cases made : disk.mkdirs around.obstacles path.dropLast with
  | mk middle outcome =>
      obtain ⟨grown, _⟩ := mkdirs_cases (canonical.above (List.dropLast_prefix path)) made
      have kept := get_of_grown grown found
      cases outcome with
      | error errno => exact kept
      | ok _ =>
          dsimp only
          cases wrote : middle.writeFile around.obstacles path (encodeText content) with
          | mk final outcome =>
              have same : final.get place = some node := by
                obtain ⟨rfl, _⟩ | ⟨_, _, updated⟩ :=
                  writeFile_cases (grown.canonical canonical) wrote
                · exact kept
                · exact (updated.ne different.symm).trans kept
              cases outcome <;> exact same

theorem get_move {src dst : List String} {node : Node String UInt8}
    (canonicalSource : disk.Canonical src) (canonicalTarget : disk.Canonical dst)
    (apart : ¬src <+: place) (found : disk.get place = some node) :
    (provider.move around disk src dst).1.get place = some node := by
  unfold move
  split
  next => exact found
  next =>
    split
    next => exact found
    next => exact found
    next =>
      cases made : disk.mkdirs around.obstacles dst.dropLast with
      | mk middle outcome =>
          obtain ⟨grown, _⟩ := mkdirs_cases (canonicalTarget.above (List.dropLast_prefix dst)) made
          have kept := get_of_grown grown found
          cases outcome with
          | error errno => exact kept
          | ok _ =>
              dsimp only
              split
              next => exact kept
              next renamed =>
                obtain ⟨_, ⟨_, rfl⟩ | relocated⟩ := rename_ok (grown.canonical canonicalSource)
                  (grown.canonical canonicalTarget) renamed
                · exact kept
                · refine (relocated.elsewhere place apart ?_).trans kept
                  rintro ⟨rest, rfl⟩
                  rw [relocated.free rest] at kept
                  cases kept

theorem get_delete {node : Node String UInt8} (canonical : disk.Canonical path)
    (different : path ≠ place) (found : disk.get place = some node) :
    (provider.delete around disk path).1.get place = some node := by
  unfold delete
  split
  next => exact found
  next =>
    split
    next => exact found
    next =>
      split
      next => exact found
      next final removed =>
        have updated : Updated disk final path none := by
          split at removed
          · exact (rmdir_ok canonical removed).2.2
          · exact (unlink_ok canonical removed).2
        exact (updated.ne different.symm).trans found

theorem get_step {call : WorkspaceCall} {node : Node String UInt8}
    (spares : Spares provider platform place disk call) (found : disk.get place = some node) :
    ((workspaceMachine platform provider).step disk call).1.get place = some node := by
  obtain same | ⟨path, content, writes, at_path, _, wrote⟩ |
      ⟨src, dst, moves, at_src, at_dst, moved⟩ | ⟨path, deletes, at_path, deleted⟩ :=
    execute_cases provider platform disk call
  · rw [same]
    exact found
  · rw [wrote]
    have different := spares.named path at_path (List.mem_append_left _ writes)
    exact get_write (resolved_ok at_path).2 different found
  · rw [moved]
    exact get_move (resolved_ok at_src).2 (resolved_ok at_dst).2 (spares.moved src at_src moves)
      found
  · rw [deleted]
    have different := spares.named path at_path (List.mem_append_right _ deletes)
    exact get_delete (resolved_ok at_path).2 different found

theorem get_run {calls : List WorkspaceCall} {node : Node String UInt8}
    (spared : (workspaceMachine platform provider).Admits (Spares provider platform place) disk
      calls) (found : disk.get place = some node) :
    ((workspaceMachine platform provider).stateAfter disk calls).get place = some node :=
  Machine.invariant_of_admits (motive := fun disk => disk.get place = some node) found
    (fun _ _ found spares => get_step spares found) spared

/-- A write that succeeds has written everything. -/
theorem get_written {content : String} {result : ActionResult} (canonical : disk.Canonical path)
    (ok : (provider.write around disk path content).2 = .ok result) :
    (provider.write around disk path content).1.get path =
      some (.file (encodeText content)) := by
  unfold write at ok ⊢
  cases made : disk.mkdirs around.obstacles path.dropLast with
  | mk middle outcome =>
      obtain ⟨grown, _⟩ := mkdirs_cases (canonical.above (List.dropLast_prefix path)) made
      rw [made] at ok
      cases outcome with
      | error errno => cases ok
      | ok _ =>
          dsimp only at ok ⊢
          cases wrote : middle.writeFile around.obstacles path (encodeText content) with
          | mk final outcome =>
              rw [wrote] at ok
              cases outcome with
              | error errno => cases ok
              | ok _ =>
                  obtain ⟨_, errno, failed⟩ | ⟨complete, _, updated⟩ :=
                    writeFile_cases (grown.canonical canonical) wrote
                  · cases failed
                  · refine updated.self.trans ?_
                    unfold Obstacles.written at complete ⊢
                    split at complete
                    next => cases complete
                    next => rfl

theorem decodeText_encodeText (around : Surroundings) (text : String) :
    decodeText around (encodeText text) =
      String.ofList (universalNewlines false text.toList) := by
  have decoded : String.fromUTF8? ⟨(encodeText text).toArray⟩ = some text := by
    unfold encodeText String.fromUTF8?
    rw [Array.toArray_toList]
    exact dif_pos text.isValidUTF8
  rw [decodeText, decoded]
  rfl

/-- A file that is not too large can be read unless something stands in the way. -/
theorem read_eq {content : List UInt8} (canonical : disk.Canonical path)
    (found : disk.get path = some (.file content))
    (small : content.length ≤ provider.maxFileBytes)
    (seen : around.obstacles.refuses (.stat path) = none)
    (opened : around.obstacles.refuses (.read path) = none) :
    ∃ result, provider.read around disk path = .ok result := by
  have located := locate_of_get canonical found
  have there : disk.stat around.obstacles path = .ok (some (.file content)) := by
    rw [stat, seen, located]
    exact congrArg Except.ok found
  have bytes : disk.readFile around.obstacles path = .ok content := by
    rw [readFile, located]
    dsimp only
    rw [opened, found]
  unfold read existing
  rw [there]
  dsimp only
  rw [if_neg (not_lt.mpr small), bytes]
  exact ⟨_, rfl⟩

end WorkspaceProvider

open WorkspaceProvider

namespace Demo

def writing (path content : String) : WorkspaceCall :=
  ⟨calm, "fs.write", [("path", .str path), ("content", .str content)]⟩

def reading (path : String) : WorkspaceCall := ⟨calm, "fs.read", [("path", .str path)]⟩

/-- Writing one file spares another one. -/
theorem spares_writing (disk : Disk)
    (named : workspaceProvider.resolved calm disk .plain (writing "b" "").params "path" =
      .ok ["srv", "ws", "b"]) :
    Spares workspaceProvider .plain ["srv", "ws", "a"] disk (writing "b" "") where
  named path resolved _ := by
    obtain rfl := Except.ok.inj (named.symm.trans resolved)
    decide
  moved path resolved _ := by
    obtain rfl := Except.ok.inj (named.symm.trans resolved)
    decide

end Demo

namespace WorkspaceProvider

variable {provider : WorkspaceProvider} {platform : Platform} {around : Surroundings}
variable {disk : Disk} {path : List String}

theorem contents_move (provider : WorkspaceProvider) (around : Surroundings) (disk : Disk)
    (src dst : List String) :
    (provider.move around disk src dst).1.contents = disk.contents := by
  unfold move
  split
  next => rfl
  next =>
    split
    next => rfl
    next => rfl
    next =>
      have kept := contents_mkdirs disk around.obstacles dst.dropLast
      split
      next made => rwa [made] at kept
      next made =>
        rw [made] at kept
        split
        next => exact kept
        next renamed => exact (contents_rename renamed).trans kept

theorem losesOne_delete (provider : WorkspaceProvider) (around : Surroundings) (disk : Disk)
    (path : List String) : LosesOne disk (provider.delete around disk path).1 := by
  have same : LosesOne disk disk := ⟨List.Sublist.refl _, Nat.le_succ _⟩
  unfold delete
  split
  next => exact same
  next =>
    split
    next => exact same
    next =>
      split
      next => exact same
      next removed =>
        split at removed
        · exact losesOne_rmdir removed
        · exact losesOne_unlink removed

/-- The deletions among calls. -/
def deletions (calls : List WorkspaceCall) : Nat :=
  calls.countP fun call => decide (call.actionType ∈ deleteActions)

theorem contents_step (platform : Platform) (provider : WorkspaceProvider) (disk : Disk)
    {call : WorkspaceCall} (no_write : call.actionType ∉ writeActions) :
    ((workspaceMachine platform provider).step disk call).1.contents.Sublist disk.contents ∧
      disk.contents.length ≤
        ((workspaceMachine platform provider).step disk call).1.contents.length +
          deletions [call] := by
  obtain same | ⟨_, _, writes, _⟩ | ⟨src, dst, _, _, _, moved⟩ | ⟨path, deletes, _, deleted⟩ :=
    execute_cases provider platform disk call
  · rw [same]
    exact ⟨List.Sublist.refl _, Nat.le_add_right _ _⟩
  · exact absurd writes no_write
  · rw [moved, contents_move]
    exact ⟨List.Sublist.refl _, Nat.le_add_right _ _⟩
  · rw [deleted]
    have lost := losesOne_delete provider call.around disk path
    have one : deletions [call] = 1 := by
      rw [deletions, List.countP_cons_of_pos (by simpa using deletes)]
      rfl
    rw [one]
    exact ⟨lost.sublist, lost.length_le⟩

end WorkspaceProvider

end Era.Providers
