import Era.Security.PathSafety
import Mathlib.Data.List.Sort

/-!
# The workspace provider: `fs.*` and `photo.*`
-/

namespace Era.Providers

open Era.Core Era.Security Era.Lib.Files

def maxListEntries : Nat := 1000

structure WorkspaceProvider where
  workspace : WorkspaceRoot
  configuredMaxFileBytes : Int := 1048576

def WorkspaceProvider.maxFileBytes (provider : WorkspaceProvider) : Nat :=
  (max 1 provider.configuredMaxFileBytes).toNat

def readActions : List String := ["fs.read", "photo.view"]
def writeActions : List String := ["fs.write", "photo.edit", "photo.upload"]
def deleteActions : List String := ["fs.delete", "photo.delete"]

/-- `text.encode("utf-8")`. -/
def encodeText (text : String) : List UInt8 := text.toUTF8.data.toList

/-- Universal newlines, with whether the last character was a carriage return. -/
def universalNewlines : Bool → List Char → List Char
  | _, [] => []
  | afterReturn, char :: rest =>
      if char = '\r' then '\n' :: universalNewlines true rest
      else if afterReturn ∧ char = '\n' then universalNewlines false rest
      else char :: universalNewlines false rest

/-- `read_text`, first strictly and then with replacements. -/
def decodeText (around : Surroundings) (bytes : List UInt8) : String :=
  let text := (String.fromUTF8? ⟨bytes.toArray⟩).getD (around.decodeReplacing bytes)
  String.ofList (universalNewlines false text.toList)

namespace WorkspaceProvider

variable (provider : WorkspaceProvider) (around : Surroundings)

def workspaceError {α : Type} (code : ProviderErrorCode) (message : String) : Except Raised α :=
  .error (.toolError code message)

/-- `validate`. -/
def validate (disk : Disk) (actionType : String) (params : Params) : Except Raised Unit := do
  let path ← match params.get "path" with
    | .str path => if path = "" then workspaceError .validation "'path' is required" else .ok path
    | _ => workspaceError .validation "'path' is required"
  if actionType ∈ writeActions then
    match params.get "content" with
    | .str content =>
        if provider.maxFileBytes < (encodeText content).length then
          workspaceError .validation ("content exceeds the workspace file cap (" ++
            toString provider.maxFileBytes ++ " bytes)")
    | _ => workspaceError .validation "'content' (string) is required for writes"
  if actionType = "fs.move" then
    match params.get "dst" with
    | .str dst => if dst = "" then workspaceError .validation "'dst' is required for fs.move"
    | _ => workspaceError .validation "'dst' is required for fs.move"
  let _ ← provider.workspace.resolve disk around (.str path)

/-! ## Operations -/

variable (disk : Disk) (path : List String)

/-- An `OSError` as the operations report it. -/
def failed {α : Type} (operation : String) (errno : Errno) : Except Raised α :=
  workspaceError .providerError (operation ++ " failed: " ++ (around.osError errno).2)

/-- The node of a path that must be there. -/
def existing (what : String) : Except Raised (Node String UInt8) :=
  match disk.stat around.obstacles path with
  | .error errno => .error (around.raised errno)
  | .ok none =>
      workspaceError .notFound ("no such " ++ what ++ ": " ++ provider.workspace.pathOf path)
  | .ok (some node) => .ok node

/-- What `fs.list` says of a name. -/
def listed (name : String) : Except Raised Value :=
  match disk.stat around.obstacles (path ++ [name]) with
  | .error errno => .error (around.raised errno)
  | .ok node =>
      let (kind, size) : String × Value :=
        match node with
        | some .directory => ("dir", .none)
        | some (.file content) => ("file", .int content.length)
        | some (.link _) | none => ("file", .none)
      .ok (.dict [("name", .str name), ("kind", .str kind), ("size", size)])

/-- `_list`. -/
def list : Except Raised ActionResult :=
  match provider.existing around disk path "path" with
  | .error raised => .error raised
  | .ok .directory =>
      match disk.scan around.obstacles path with
      | .error errno => .error (around.raised errno)
      | .ok names =>
          let sorted := names.insertionSort fun left right => left ≤ right
          ((sorted.take maxListEntries).mapM (listed around disk path)).map fun entries =>
            { summary := "listed " ++ toString entries.length ++ " entries"
              data := [("path", .str (provider.workspace.pathOf path)),
                ("entries", .list entries)] }
  | .ok (.file _) | .ok (.link _) =>
      workspaceError .validation "fs.list target is not a directory"

/-- `_read`. -/
def read : Except Raised ActionResult :=
  match provider.existing around disk path "file" with
  | .error raised => .error raised
  | .ok (.file content) =>
      let size := content.length
      if provider.maxFileBytes < size then
        workspaceError .validation ("file too large to read (" ++ toString size ++ " > " ++
          toString provider.maxFileBytes ++ " bytes)")
      else
        match disk.readFile around.obstacles path with
        | .error errno => failed around "read" errno
        | .ok content =>
            .ok { summary := "read " ++ toString size ++ " bytes"
                  data := [("path", .str (provider.workspace.pathOf path)), ("bytes", .int size),
                    ("content", .str (decodeText around content))] }
  | .ok .directory | .ok (.link _) =>
      workspaceError .validation "fs.read target is not a file"

/-- `_write`. -/
def write (content : String) : Disk × Except Raised ActionResult :=
  match disk.mkdirs around.obstacles path.dropLast with
  | (made, .error errno) => (made, failed around "write" errno)
  | (made, .ok ()) =>
      match made.writeFile around.obstacles path (encodeText content) with
      | (after, .error errno) => (after, failed around "write" errno)
      | (after, .ok ()) =>
          let size := (encodeText content).length
          (after, .ok
            { summary := "wrote " ++ toString size ++ " bytes"
              data := [("path", .str (provider.workspace.pathOf path)), ("bytes", .int size)] })

/-- `_move`. -/
def move (src dst : List String) : Disk × Except Raised ActionResult :=
  match provider.existing around disk src "file" with
  | .error raised => (disk, .error raised)
  | .ok _ =>
      match disk.stat around.obstacles dst with
      | .error errno => (disk, .error (around.raised errno))
      | .ok (some _) => (disk, workspaceError .conflict "destination already exists")
      | .ok none =>
          match disk.mkdirs around.obstacles dst.dropLast with
          | (made, .error errno) => (made, failed around "move" errno)
          | (made, .ok ()) =>
              match made.rename around.obstacles src dst with
              | .error errno => (made, failed around "move" errno)
              | .ok after =>
                  (after, .ok
                    { summary := "moved"
                      data := [("from", .str (provider.workspace.pathOf src)),
                        ("to", .str (provider.workspace.pathOf dst))] })

/-- `_delete`. -/
def delete : Disk × Except Raised ActionResult :=
  if path = provider.workspace.root then
    (disk, workspaceError .forbidden "deleting the workspace root is forbidden")
  else
    match provider.existing around disk path "path" with
    | .error raised => (disk, .error raised)
    | .ok node =>
        match if node.isDirectory then disk.rmdir around.obstacles path
          else disk.unlink around.obstacles path with
        | .error errno => (disk, failed around "delete" errno)
        | .ok after =>
            (after, .ok
              { summary := "deleted"
                data := [("path", .str (provider.workspace.pathOf path))] })

/-- `action.params[key]` as a string. -/
def requiredText (platform : Platform) (params : Params) (key : String) : Except Raised String :=
  match params.lookup key with
  | none => .error (.exception "KeyError" ("'" ++ key ++ "'"))
  | some value => .ok (value.pyStr platform)

/-- The place that a parameter names. -/
def resolved (platform : Platform) (params : Params) (key : String) :
    Except Raised (List String) :=
  (requiredText platform params key).bind fun text =>
    provider.workspace.resolve disk around (.str text)

/-- `execute`. -/
def execute (platform : Platform) (actionType : String) (params : Params) :
    Disk × Except Raised ActionResult :=
  match provider.resolved around disk platform params "path" with
  | .error raised => (disk, .error raised)
  | .ok path =>
      if actionType = "fs.list" then (disk, provider.list around disk path)
      else if actionType ∈ readActions then (disk, provider.read around disk path)
      else if actionType ∈ writeActions then
        match requiredText platform params "content" with
        | .error raised => (disk, .error raised)
        | .ok content => provider.write around disk path content
      else if actionType = "fs.move" then
        match provider.resolved around disk platform params "dst" with
        | .error raised => (disk, .error raised)
        | .ok dst => provider.move around disk path dst
      else if actionType ∈ deleteActions then provider.delete around disk path
      else (disk, workspaceError .notImplemented ("workspace cannot handle " ++ actionType))

end WorkspaceProvider

end Era.Providers
