import Era.Core.Platform
import Era.Core.Result
import Era.Lib.FileEffects

/-!
# Containment of workspace paths

A path of a request is resolved from the root of the workspace and must stay within it.  What it
is resolved to has no links on it, so a call on it acts where it has been checked.
-/

namespace Era.Security

open Era.Core Era.Lib.Files

abbrev Disk := FileSystem String UInt8

def maxPathLen : Nat := 2048

/-- The parts of `Path(text)`. -/
def pathParts (text : String) : List String :=
  ((text.toList.splitOn '/').map String.ofList).filter fun part => part ≠ "" ∧ part ≠ "."

def pathSteps (text : String) : List (PathStep String) :=
  (pathParts text).map fun part => if part = ".." then .up else .down part

/-- `Path(text).is_absolute()`. -/
def isAbsolute (text : String) : Bool := text.toList.head? == some '/'

/-- What a call finds around it besides the files: what stands in its way, and the words of
Python for what goes wrong. -/
structure Surroundings where
  obstacles : Obstacles String
  /-- `type(exc).__name__` and `str(exc)` of an `OSError`. -/
  osError : Errno → String × String
  /-- `str(exc)` of the `RuntimeError` of `Path.resolve`. -/
  symlinkLoop : String
  /-- `bytes.decode("utf-8", "replace")`. -/
  decodeReplacing : List UInt8 → String

def Surroundings.raised (around : Surroundings) (errno : Errno) : Raised :=
  .exception (around.osError errno).1 (around.osError errno).2

structure WorkspaceRoot where
  root : List String
  deriving DecidableEq

namespace WorkspaceRoot

/-- `__init__` after `expanduser`, in a working directory. -/
def init (disk : Disk) (around : Surroundings) (directory : List String) (text : String) :
    Disk × Except Raised WorkspaceRoot :=
  match disk.resolve (if isAbsolute text then [] else directory) (pathSteps text) with
  | none => (disk, .error (.exception "RuntimeError" around.symlinkLoop))
  | some root =>
      match disk.mkdirs around.obstacles root with
      | (after, .ok ()) => (after, .ok ⟨root⟩)
      | (after, .error errno) => (after, .error (around.raised errno))

variable (workspace : WorkspaceRoot) (disk : Disk) (around : Surroundings)

/-- `resolve`. -/
def resolve (relPath : Value) : Except Raised (List String) :=
  match relPath with
  | .str text =>
      if text = "" then .error (.toolError .validation "path must be a non-empty string")
      else if maxPathLen < text.length then .error (.toolError .validation "path too long")
      else if isAbsolute text then
        .error (.toolError .forbidden "absolute paths are not allowed in the workspace")
      else if '\x00' ∈ text.toList then .error (.exception "ValueError" "embedded null byte")
      else
        match disk.resolve [] (workspace.root.map .down ++ pathSteps text) with
        | none => .error (.exception "RuntimeError" around.symlinkLoop)
        | some found =>
            if workspace.root <+: found then .ok found
            else .error (.toolError .forbidden "path escapes the workspace sandbox")
  | _ => .error (.toolError .validation "path must be a non-empty string")

/-- `path_of`. -/
def pathOf (resolved : List String) : String :=
  match resolved.drop workspace.root.length with
  | [] => "."
  | parts => "/".intercalate parts

end WorkspaceRoot

/-- `is_safe_relative_path`. -/
def isSafeRelativePath (relPath : Value) : Bool :=
  match relPath with
  | .str text =>
      if pyStrip text = "" ∨ maxPathLen < text.length ∨ isAbsolute text then false
      else (pathParts text).all fun part => part != ".."
  | _ => false

/-! ## Resolved paths -/

/-- The root of a workspace is a directory that no link leads to. -/
structure Rooted (disk : Disk) (root : List String) : Prop where
  directory : disk.get root = some .directory
  canonical : disk.Canonical root

theorem Rooted.grown {disk after : Disk} {root path : List String} (rooted : Rooted disk root)
    (grown : FileSystem.Grown disk after path) : Rooted after root := by
  refine ⟨?_, grown.canonical rooted.canonical⟩
  obtain same | ⟨_, absent, _⟩ := grown root
  · exact same.trans rooted.directory
  · rw [rooted.directory] at absent
    cases absent

/-- The root of a new workspace is one. -/
theorem WorkspaceRoot.rooted_of_init {disk after : Disk} {around : Surroundings}
    {directory : List String} {text : String} {workspace : WorkspaceRoot}
    (canonical : disk.Canonical directory)
    (ok : WorkspaceRoot.init disk around directory text = (after, .ok workspace)) :
    Rooted after workspace.root := by
  unfold WorkspaceRoot.init at ok
  split at ok
  next => cases (Prod.mk.inj ok).2
  next root resolved =>
    have start : disk.Canonical (if isAbsolute text then [] else directory) := by
      split
      · exact FileSystem.canonical_nil disk
      · exact canonical
    have at_root := (FileSystem.resolve_eq_some_iff.mp resolved).canonical start
    split at ok
    next made result =>
      obtain ⟨rfl, same⟩ := Prod.mk.inj ok
      obtain rfl := Except.ok.inj same
      obtain ⟨grown, directory⟩ := FileSystem.mkdirs_cases at_root result
      exact ⟨directory rfl, grown.canonical at_root⟩
    next => cases (Prod.mk.inj ok).2

variable {workspace : WorkspaceRoot} {disk : Disk} {around : Surroundings} {relPath : Value}
variable {found : List String}

theorem WorkspaceRoot.resolve_ok (ok : workspace.resolve disk around relPath = .ok found) :
    ∃ text, relPath = .str text ∧ workspace.root <+: found ∧
      disk.Resolves [] (workspace.root.map .down ++ pathSteps text) found := by
  unfold WorkspaceRoot.resolve at ok
  split at ok
  next text =>
    refine ⟨text, rfl, ?_⟩
    iterate 4
      split at ok
      next => cases ok
    split at ok
    next => cases ok
    next place resolved =>
      split at ok
      next inside =>
        obtain rfl := Except.ok.inj ok
        exact ⟨inside, FileSystem.resolve_eq_some_iff.mp resolved⟩
      next => cases ok
  next => cases ok

/-- A resolved path is in the workspace, and no link is on it. -/
theorem WorkspaceRoot.canonical_of_resolve
    (ok : workspace.resolve disk around relPath = .ok found) :
    workspace.root <+: found ∧ disk.Canonical found := by
  obtain ⟨text, rfl, inside, resolves⟩ := WorkspaceRoot.resolve_ok ok
  exact ⟨inside, resolves.canonical (FileSystem.canonical_nil disk)⟩

/-- A text that is looked up at all. -/
structure Relative (text : String) : Prop where
  nonempty : text ≠ ""
  short : text.length ≤ maxPathLen
  relative : isAbsolute text = false
  clean : '\x00' ∉ text.toList

theorem WorkspaceRoot.resolve_of_relative {text : String} (relative : Relative text) :
    workspace.resolve disk around (.str text) =
      match disk.resolve [] (workspace.root.map .down ++ pathSteps text) with
      | none => .error (.exception "RuntimeError" around.symlinkLoop)
      | some found =>
          if workspace.root <+: found then .ok found
          else .error (.toolError .forbidden "path escapes the workspace sandbox") := by
  unfold WorkspaceRoot.resolve
  dsimp only
  rw [if_neg relative.nonempty, if_neg (not_lt.mpr relative.short),
    if_neg (by rw [relative.relative]; decide), if_neg relative.clean]

namespace Demo

theorem no_workspace : (FileSystem.empty : Disk).get ["ws"] = none := by decide

def workspaceOnly : Disk :=
  FileSystem.empty.insert [] "ws" .directory (FileSystem.get_nil _) no_workspace

theorem workspaceOnly_directory : workspaceOnly.get ["ws"] = some .directory := by decide

theorem no_link : workspaceOnly.get ["ws", "up"] = none := by decide

/-- A workspace with a link that leads out of it. -/
def linkedOut : Disk :=
  workspaceOnly.insert ["ws"] "up" (.link ⟨true, [.down "etc"]⟩) workspaceOnly_directory no_link

def quiet : Surroundings where
  obstacles := .none
  osError _ := ("OSError", "")
  symlinkLoop := ""
  decodeReplacing _ := ""

theorem relative_linked : Relative "up/passwd" where
  nonempty := by decide
  short := by decide
  relative := by decide
  clean := by decide

end Demo

end Era.Security
