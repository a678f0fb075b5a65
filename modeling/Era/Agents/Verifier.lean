import Era.Core.Enums
import Era.Core.Platform

/-!
# Verification of a task

After the calls of a task, its verification says whether it is done: some kinds look at what
the last call has come to, the others only at files of the workspace.
-/

namespace Era.Agents

open Era.Core

/-- The result of one tool execution, as the loop sees it. -/
structure Observation where
  status : ExecutionStatus
  summary : String := ""
  data : Params := []
  error : Option String := none

structure Verdict where
  ok : Bool
  reason : String := ""

/-- A file of the workspace, and the `OSError` that reading it raises. -/
structure WorkspaceFile where
  bytes : List UInt8
  unreadable : Option String := none

/-- The workspace when a task is verified. -/
structure Workspace where
  /-- The file at a path, if there is one and the path does not lead out of the workspace. -/
  file : String → Option WorkspaceFile := fun _ => none
  /-- A link of a page leads to a file of the workspace. -/
  resolves : String → String → Bool := fun _ _ => false

/-- What the HTML parser collects: element names, texts and links. -/
structure ParsedHtml where
  tags : List String := []
  texts : List String := []
  links : List String := []

structure Verifier where
  platform : Platform
  hasRoot : Bool := true
  /-- UTF-8 with replacement characters. -/
  decode : List UInt8 → String
  parseHtml : String → ParsedHtml

/-- The value of a status, as an observation holds it. -/
def statusValue : ExecutionStatus → String
  | .executed => "executed"
  | .failed => "failed"
  | .rejected => "rejected"
  | .confirmationRequired => "confirmation_required"
  | .awaitingApproval => "awaiting_approval"
  | .denied => "denied"

/-- `needle in text`. -/
def isSubstring (needle text : String) : Bool :=
  text.toList.tails.any fun tail => needle.toList.isPrefixOf tail

/-- `text.split(separator, 1)[0]`. -/
def beforeSeparator (text : String) (separator : Char) : String :=
  String.ofList (text.toList.takeWhile (· != separator))

namespace Verifier

variable (verifier : Verifier)

def accept (reason : String) : Except String Verdict := .ok { ok := true, reason }

def refuse (reason : String) : Except String Verdict := .ok { ok := false, reason }

/-- `f"{value}"`. -/
def format (value : Value) : String := value.pyStr verifier.platform

/-- `[str(item) for item in value]`. -/
def strings : Value → Except String (List String)
  | .list items => .ok (items.map verifier.format)
  | .str text => .ok (text.toList.map fun char => String.ofList [char])
  | .dict fields => .ok (fields.map Prod.fst)
  | .none | .bool _ | .int _ | .float _ => .error "TypeError: object is not iterable"

/-- `int(spec.get(key, default))`. -/
def integer (spec : Params) (key : String) (default : Int) : Except String Int :=
  match pyInt? (spec.getOr key (.int default)) with
  | some number => .ok number
  | none => .error "ValueError: invalid literal for int()"

/-- `_workspace_file`, as far as it is asked whether it is a file. -/
def workspaceFile (workspace : Workspace) (path : String) :
    Except String (Option WorkspaceFile) :=
  if verifier.hasRoot then .ok (workspace.file path)
  else .error "RuntimeError: verifier has no workspace root"

/-- The `path` of a specification. -/
def path (spec : Params) : String := verifier.format (spec.getOr "path" (.str ""))

def fileMissing (spec : Params) : Except String Verdict :=
  refuse ("file does not exist: " ++ verifier.format (spec.get "path"))

/-- `f"{items}"` of a list of strings. -/
def formatList (items : List String) : String := verifier.format (.list (items.map Value.str))

/-- `_check_file_exists`. -/
def checkFileExists (workspace : Workspace) (spec : Params) : Except String Verdict := do
  let file ← verifier.workspaceFile workspace (verifier.path spec)
  let minBytes ← integer spec "min_bytes" 1
  match file with
  | none => verifier.fileMissing spec
  | some file =>
      let size := file.bytes.length
      if size < minBytes then
        refuse ("file too small: " ++ toString size ++ " bytes < " ++ toString minBytes)
      else accept "file exists"

/-- `_check_screenshot_exists`. -/
def checkScreenshotExists (workspace : Workspace) (spec : Params) (observation : Observation) :
    Except String Verdict := do
  if observation.status ≠ .executed then refuse "screenshot action did not execute"
  else
    let relPath := verifier.format
      (((spec.get "path").or (observation.data.get "path")).or (.str ""))
    if relPath = "" then refuse "screenshot verification requires a path"
    else
      let file ← verifier.workspaceFile workspace relPath
      let minBytes ← integer spec "min_bytes" 16
      match file with
      | none => refuse ("screenshot does not exist: " ++ relPath)
      | some { bytes, unreadable } =>
          match unreadable with
          | some error => refuse ("cannot inspect screenshot: " ++ error)
          | none =>
              if bytes.length < minBytes then
                refuse ("screenshot too small: " ++ toString bytes.length ++ " bytes < " ++
                  toString minBytes)
              else if bytes.take 8 = [0x89, 0x50, 0x4E, 0x47, 0x0D, 0x0A, 0x1A, 0x0A] ||
                  bytes.take 3 = [0xFF, 0xD8, 0xFF] then
                accept "screenshot exists"
              else refuse "screenshot is not a PNG or JPEG image"

/-- `_check_dom_extracted`. -/
def checkDomExtracted (spec : Params) (observation : Observation) : Except String Verdict := do
  if observation.status ≠ .executed then refuse "DOM extraction action did not execute"
  else
    match observation.data.get "text", observation.data.get "markdown",
        observation.data.get "links" with
    | .str text, .str _, .list _ =>
        let minChars ← integer spec "min_chars" 1
        let length := (pyStrip text).length
        if length < minChars then
          refuse ("extracted DOM text too short: " ++ toString length ++ " < " ++
            toString minChars)
        else accept "rendered DOM extracted"
    | _, _, _ => refuse "DOM extraction result is missing text/markdown/links"

/-- `_check_text_contains`. -/
def checkTextContains (workspace : Workspace) (spec : Params) : Except String Verdict := do
  let file ← verifier.workspaceFile workspace (verifier.path spec)
  let required ← verifier.strings (spec.getOr "required" (.list []))
  match file with
  | none => verifier.fileMissing spec
  | some { bytes, unreadable } =>
      match unreadable with
      | some error => refuse ("cannot read file: " ++ error)
      | none =>
          let text := verifier.platform.lower (verifier.decode bytes)
          let missing := required.filter fun phrase =>
            !isSubstring (verifier.platform.lower phrase) text
          if missing.isEmpty then accept "required text present"
          else refuse ("missing required text: " ++ verifier.formatList (missing.take 5))

/-- `_check_html_valid`. -/
def checkHtmlValid (workspace : Workspace) (spec : Params) : Except String Verdict := do
  let file ← verifier.workspaceFile workspace (verifier.path spec)
  let elements ← verifier.strings (spec.getOr "required_elements" (.list []))
  let keywords ← verifier.strings (spec.getOr "keywords" (.list []))
  match file with
  | none => verifier.fileMissing spec
  | some { bytes, unreadable } =>
      match unreadable with
      | some error => refuse ("cannot read file: " ++ error)
      | none =>
          let parsed := verifier.parseHtml (verifier.decode bytes)
          let missing := (elements.map verifier.platform.lower).eraseDups.filter fun element =>
            !parsed.tags.contains element
          if !missing.isEmpty then
            refuse ("missing HTML elements: " ++ verifier.formatList missing)
          else
            let text := verifier.platform.lower (" ".intercalate parsed.texts)
            let missingKeywords := (keywords.map verifier.platform.lower).filter fun keyword =>
              !isSubstring keyword text
            if missingKeywords.isEmpty then accept "HTML structure verified"
            else refuse ("missing keywords: " ++ verifier.formatList (missingKeywords.take 5))

/-- A link that is not followed: an empty one, a fragment or another scheme. -/
def isForeign (href : String) : Bool :=
  href = "" || ["#", "http://", "https://", "mailto:", "tel:"].any fun scheme =>
    href.startsWith scheme

/-- The broken links of a page, or the error that reading it raises. -/
def brokenLinks (workspace : Workspace) (page : String) :
    WorkspaceFile → Except String (List String)
  | { bytes, unreadable } =>
      match unreadable with
      | some error => .error ("cannot read page " ++ page ++ ": " ++ error)
      | none =>
          .ok ((((verifier.parseHtml (verifier.decode bytes)).links.map pyStrip).filter fun href =>
            !isForeign href && !workspace.resolves page (beforeSeparator href '#')).map fun href =>
              page ++ " -> " ++ href)

/-- The loop over the pages. -/
def checkPages (workspace : Workspace) : List String → List String → Except String Verdict
  | broken, [] =>
      if broken.isEmpty then accept "all local links resolve"
      else refuse ("broken links: " ++ verifier.formatList (broken.take 10))
  | broken, page :: rest => do
      match ← verifier.workspaceFile workspace page with
      | none => checkPages workspace (broken ++ [page ++ " (page missing)"]) rest
      | some file =>
          match verifier.brokenLinks workspace page file with
          | .error reason => refuse reason
          | .ok found => checkPages workspace (broken ++ found) rest

/-- `_check_links_resolve`. -/
def checkLinksResolve (workspace : Workspace) (spec : Params) : Except String Verdict := do
  let pages ← verifier.strings (spec.getOr "pages" (.list []))
  if pages.isEmpty then refuse "links_resolve requires a page list"
  else verifier.checkPages workspace [] pages

/-- The kinds that look at files of the workspace only. -/
def fileCheck (kind : Value) : Option (Workspace → Params → Except String Verdict) :=
  match kind with
  | .str "file_exists" => some verifier.checkFileExists
  | .str "text_contains" => some verifier.checkTextContains
  | .str "html_valid" => some verifier.checkHtmlValid
  | .str "links_resolve" => some verifier.checkLinksResolve
  | _ => none

/-- The kind of a specification. -/
def kindOf (spec : Params) : Value := (spec.get "kind").or (.str "action_success")

/-- `verify` of a task with a specification. -/
def verify (workspace : Workspace) (verification : Option Params)
    (observation? : Option Observation) : Except String Verdict :=
  let spec := verification.getD []
  let kind := kindOf spec
  match observation? with
  | none => refuse "no observation recorded"
  | some observation =>
      match verifier.fileCheck kind with
      | some check => check workspace spec
      | none =>
          match kind with
          | .str "action_success" =>
              if observation.status = .executed then accept "action executed"
              else
                let detail := if (observation.error.getD "") ≠ "" then observation.error.getD ""
                  else if observation.summary ≠ "" then observation.summary
                  else statusValue observation.status
                refuse ("action did not execute: " ++ detail)
          | .str "screenshot_exists" => verifier.checkScreenshotExists workspace spec observation
          | .str "dom_extracted" => checkDomExtracted spec observation
          | kind => refuse ("unknown verification kind: " ++ kind.repr verifier.platform)

end Verifier

end Era.Agents
