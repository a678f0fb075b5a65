import Era.Security.UrlSafety
import Mathlib.Data.List.Infix

/-!
# The offline accessibility walker

The walker builds a tree of nodes from the events of the HTML parser and describes the
usable ones.  Elements that are never shown are skipped with a counter, which their start
tags raise and their end tags lower.
-/

namespace Era.Providers.AccessibilityWalker

open Era.Core Era.Security

/-- What the walker takes from the standard library, which results quantify over. -/
structure WalkerLibrary where
  platform : Platform
  net : NetLibrary
  /-- `urljoin`; `none` is its `ValueError`. -/
  urljoin : String → String → Option String

/-! ## Nodes -/

/-- `_SKIP`. -/
def skippedTags : List String :=
  ["script", "style", "noscript", "head", "meta", "link", "title"]

/-- `_VOID`. -/
def voidTags : List String :=
  ["area", "base", "br", "col", "embed", "hr", "img", "input", "link", "meta", "param",
    "source", "track", "wbr"]

/-- The attributes of a start tag; a bare one has no value. -/
abbrev Attributes := List (String × Option String)

/-- `dict(attrs)[name]`: of two attributes of one name, the later counts. -/
def attr? (attrs : Attributes) (name : String) : Option (Option String) :=
  attrs.reverse.lookup name

/-- `attrs.get(name)`. -/
def attr (attrs : Attributes) (name : String) : Option String :=
  (attr? attrs name).join

/-- `attrs.get(name) or ""`. -/
def attrText (attrs : Attributes) (name : String) : String :=
  (attr attrs name).getD ""

/-- Python's `left or right`, for two texts. -/
def textOr (left right : String) : String := if left = "" then right else left

/-- `_SimNode`. -/
structure SimNode where
  tag : String
  attrs : Attributes
  children : List SimNode := []
  text : String := ""
  inShadow : Bool := false
  shadowRoot : Bool := false

/-- The tag of the placeholder of an open shadow root. -/
def shadowTag : String := "__shadow__"

/-- A template that declares an open shadow root. -/
def isShadowTemplate (tag : String) (attrs : Attributes) : Bool :=
  tag = "template" &&
    textOr (attrText attrs "shadowrootmode") (attrText attrs "shadowroot") = "open"

/-! ## The handlers -/

/-- A node on the stack.  It is the last child of the node below it, or the last root where
there is none below, unless it has been taken off again as the placeholder of a shadow
root. -/
structure OpenNode where
  node : SimNode
  attached : Bool := true

/-- `_AccessibilityWalker`.  A node is kept with its children on the stack, innermost first,
as long as it is open, and moves to its place when it is closed. -/
structure Walker where
  root : List SimNode := []
  stack : List OpenNode := []
  skipDepth : Nat := 0

/-- What `HTMLParser` calls. -/
inductive HtmlEvent where
  | starttag (tag : String) (attrs : Attributes)
  | startendtag (tag : String) (attrs : Attributes)
  | endtag (tag : String)
  | data (data : String)

namespace Walker

variable (walker : Walker)

/-- `parent.children.append(node)`, or `root.append(node)` without a parent. -/
def append (node : SimNode) : Walker :=
  match walker.stack with
  | [] => { walker with root := walker.root ++ [node] }
  | parent :: below =>
      let grown := { parent.node with children := parent.node.children ++ [node] }
      { walker with stack := { parent with node := grown } :: below }

/-- `_stack.append(node)`. -/
def push (node : SimNode) (attached : Bool) : Walker :=
  { walker with stack := { node, attached } :: walker.stack }

/-- `_stack.pop()`; the node stays where it has been appended. -/
def pop : Walker :=
  match walker.stack with
  | [] => walker
  | top :: below =>
      let rest := { walker with stack := below }
      if top.attached then rest.append top.node else rest

/-- `_splice_shadow`. -/
def spliceShadow (node : SimNode) : Walker :=
  match walker.stack with
  | [] => walker
  | host :: below =>
      let children := host.node.children ++
        node.children.map fun child => { child with inShadow := true }
      { walker with
        stack := { host with node := { host.node with shadowRoot := true, children } } :: below }

/-- The loop of `handle_endtag`, which closes at most so many nodes. -/
def closeUntil (tag : String) : Nat → Walker → Walker
  | 0, walker => walker
  | count + 1, walker =>
      match walker.stack with
      | [] => walker
      | top :: _ =>
          if top.node.tag = shadowTag then walker.pop.spliceShadow top.node
          else if top.node.tag = tag then walker.pop
          else closeUntil tag count walker.pop

/-- `handle_starttag`, for a tag in lower case. -/
def startTag (tag : String) (attrs : Attributes) : Walker :=
  if tag ∈ skippedTags then { walker with skipDepth := walker.skipDepth + 1 }
  else if walker.skipDepth ≠ 0 then walker
  else if isShadowTemplate tag attrs then
    -- The placeholder is taken off its host again.
    walker.push { tag := shadowTag, attrs } walker.stack.isEmpty
  else if tag ∈ voidTags then walker.append { tag, attrs }
  else walker.push { tag, attrs } true

/-- `handle_startendtag`, for a tag in lower case. -/
def startEndTag (tag : String) (attrs : Attributes) : Walker :=
  if tag ∈ ["template", "script", "style"] then walker
  else
    let started := walker.startTag tag attrs
    if tag ∉ voidTags ∧ started.stack.head?.any fun top => top.node.tag = tag then started.pop
    else started

/-- `handle_endtag`, for a tag in lower case. -/
def endTag (tag : String) : Walker :=
  if tag ∈ skippedTags then { walker with skipDepth := walker.skipDepth - 1 }
  else if walker.skipDepth ≠ 0 then walker
  else
    match walker.stack with
    | [] => walker
    | top :: _ =>
        if top.node.tag = tag then walker.pop
        else walker.closeUntil tag walker.stack.length

/-- `handle_data`. -/
def handleData (data : String) : Walker :=
  if walker.skipDepth ≠ 0 then walker
  else
    match walker.stack with
    | [] => walker
    | top :: below =>
        { walker with
          stack := { top with node := { top.node with text := top.node.text ++ data } } :: below }

/-- The handler of an event. -/
def handle (lower : String → String) : HtmlEvent → Walker
  | .starttag tag attrs => walker.startTag (lower tag) attrs
  | .startendtag tag attrs => walker.startEndTag (lower tag) attrs
  | .endtag tag => walker.endTag (lower tag)
  | .data data => walker.handleData data

/-- The events of a document, one after the other. -/
def feed (lower : String → String) (events : List HtmlEvent) : Walker :=
  events.foldl (fun walker event => walker.handle lower event) walker

/-- The roots with the open nodes of a stack in their places; the nodes given are the last
children of the innermost. -/
def rooted (root : List SimNode) : List OpenNode → List SimNode → List SimNode
  | [], nodes => root ++ nodes
  | top :: below, nodes =>
      rooted root below
        (if top.attached then [{ top.node with children := top.node.children ++ nodes }] else [])

/-- `root`, as it is reached from outside: with the nodes that are still open. -/
def nodes : List SimNode := rooted walker.root walker.stack []

end Walker

/-! ## Descriptors -/

/-- What ends the production of descriptors. -/
inductive WalkError where
  /-- `AttributeError`, where a bare `aria-hidden` is lower-cased. -/
  | attributeError
  /-- `ValueError`, where a URL is not one. -/
  | valueError
  deriving DecidableEq

structure Descriptor where
  tag : String
  role : String
  name : String
  inputType : Option String
  sensitive : Bool
  disabled : Bool
  checked : Option Bool
  path : List Nat
  inShadow : Bool
  shadowRoot : Bool
  href : Option String := none
  target : Option String := none
  alt : Option String := none
  action : Option String := none
  placeholder : Option String := none
  deriving DecidableEq

def maxNameChars : Nat := 300

def maxHrefChars : Nat := 2048

def maxAttrChars : Nat := 200

/-- A node with the indices that lead to it, and whether it is in a shadow tree. -/
structure Placed where
  node : SimNode
  path : List Nat
  inShadow : Bool

mutual

/-- `_collect`, for one node. -/
def collectNode (path : List Nat) (inShadow : Bool) (index : Nat) : SimNode → List Placed
  | node@⟨tag, _, children, _, nodeInShadow, _⟩ =>
      if tag = shadowTag then []
      else
        let childPath := path ++ [index]
        let childInShadow := inShadow || nodeInShadow
        { node, path := childPath, inShadow := childInShadow } ::
          collect childPath childInShadow 0 children

/-- `_collect`, for the nodes from an index on. -/
def collect (path : List Nat) (inShadow : Bool) (index : Nat) : List SimNode → List Placed
  | [] => []
  | node :: nodes =>
      collectNode path inShadow index node ++ collect path inShadow (index + 1) nodes

end

/-- `re.sub(r"\s+", " ", text)`, after a blank or not. -/
def squeezeSpaces (afterSpace : Bool) : List Char → List Char
  | [] => []
  | char :: rest =>
      if isPySpace char then
        if afterSpace then squeezeSpaces true rest else ' ' :: squeezeSpaces true rest
      else char :: squeezeSpaces false rest

/-- `_clean_inline`. -/
def cleanInline (text : String) : String :=
  pyStrip (String.ofList (squeezeSpaces false text.toList))

/-- `str.split`. -/
def pySplit (text : String) : List String :=
  ((text.toList.splitOnP isPySpace).filter (· ≠ [])).map String.ofList

mutual

/-- `_visible_text`. -/
def visibleText : SimNode → String
  | ⟨tag, _, children, text, _, _⟩ =>
      if tag ∈ ["script", "style", "noscript", "template"] then ""
      else cleanInline (text ++ " ".intercalate (visibleTexts children))

def visibleTexts : List SimNode → List String
  | [] => []
  | node :: nodes => visibleText node :: visibleTexts nodes

end

/-- `_visible_text_index`; of two entries for one identifier, the later counts. -/
def visibleTextIndex (nodes : List Placed) : List (String × String) :=
  (nodes.filter fun placed => attrText placed.node.attrs "id" ≠ "").map fun placed =>
    (attrText placed.node.attrs "id", pyTake (visibleText placed.node) maxNameChars)

/-- `_label_index`. -/
def labelIndex (nodes : List Placed) : List (String × String) :=
  (nodes.filter fun placed =>
      placed.node.tag = "label" && attrText placed.node.attrs "for" ≠ "").map fun placed =>
    (attrText placed.node.attrs "for", pyTake (visibleText placed.node) maxNameChars)

/-- `_USABLE_TAGS`. -/
def usableTags : List String :=
  ["a", "button", "input", "select", "textarea", "summary", "iframe", "nav", "form", "main",
    "dialog"]

/-- A tag of two letters that begins with `h`. -/
def isHeading (tag : String) : Bool := tag.toList.head? = some 'h' && tag.length = 2

/-- `_ROLE_BY_TAG`. -/
def roleByTag : String → String
  | "a" => "link"
  | "button" => "button"
  | "select" => "combobox"
  | "textarea" => "textbox"
  | "img" => "img"
  | "nav" => "navigation"
  | "form" => "form"
  | "main" => "main"
  | "iframe" => "frame"
  | "summary" => "button"
  | "dialog" => "dialog"
  | _ => ""

/-- `_INPUT_ROLES`, with the default of its reader. -/
def inputRole : String → String
  | "button" | "submit" | "image" | "reset" => "button"
  | "checkbox" => "checkbox"
  | "radio" => "radio"
  | "range" => "slider"
  | "file" => "file"
  | _ => "textbox"

section Describe

variable (library : WalkerLibrary)

/-- The type of an input. -/
def inputType (node : SimNode) : String :=
  library.platform.lower (textOr (attrText node.attrs "type") "text")

/-- The style of a node hides it. -/
def hiddenByStyle (node : SimNode) : Bool :=
  let style := (library.platform.lower (attrText node.attrs "style")).toList.filter (· ≠ ' ')
  ["display:none", "visibility:hidden"].any fun rule => decide (rule.toList <:+: style)

/-- What `_usable` asks of a node that is neither hidden nor hidden from accessibility. -/
def usableUnlessHidden (node : SimNode) : Bool :=
  let attrs := node.attrs
  if hiddenByStyle library node then false
  else if node.tag = "input" && inputType library node = "hidden" then false
  else if node.tag = "a" && attrText attrs "href" = "" then false
  else attrText attrs "role" ≠ "" || attrText attrs "aria-label" ≠ "" ||
    attrText attrs "aria-labelledby" ≠ "" || usableTags.contains node.tag ||
    isHeading node.tag || (attr attrs "contenteditable").isSome

/-- `_usable`. -/
def usable (node : SimNode) : Except WalkError Bool :=
  if node.tag = shadowTag then .ok false
  else if (attr node.attrs "hidden").isSome then .ok false
  else
    match (attr? node.attrs "aria-hidden").getD (some "") with
    | none => .error .attributeError
    | some ariaHidden =>
        if library.platform.lower ariaHidden = "true" then .ok false
        else .ok (usableUnlessHidden library node)

/-- `_role_for`. -/
def roleFor (node : SimNode) : String :=
  if node.tag = "input" then inputRole (inputType library node)
  else if isHeading node.tag then "heading"
  else if (attr node.attrs "contenteditable").isSome then "textbox"
  else roleByTag node.tag

/-- `_name_for`. -/
def nameFor (node : SimNode) (idText labels : List (String × String)) : String :=
  let attrs := node.attrs
  let label := pyStrip (attrText attrs "aria-label")
  let parts := (pySplit (pyStrip (attrText attrs "aria-labelledby"))).map fun ref =>
    (idText.reverse.lookup ref).getD ""
  let joined := " ".intercalate (parts.filter (· ≠ ""))
  if label ≠ "" then pyTake label maxNameChars
  else if joined ≠ "" then pyTake joined maxNameChars
  else if node.tag = "img" then pyTake (attrText attrs "alt") maxNameChars
  else if node.tag = "input" then
    let placeholder := pyStrip (attrText attrs "placeholder")
    if placeholder ≠ "" then pyTake placeholder maxNameChars
    else if attrText attrs "id" ≠ "" then (labels.reverse.lookup (attrText attrs "id")).getD ""
    else ""
  else if node.tag = "iframe" then
    pyTake (textOr (attrText attrs "title") (attrText attrs "name")) maxNameChars
  else pyTake (visibleText node) maxNameChars

/-- A text that is left out where it is empty. -/
def nonempty (text : String) (limit : Nat) : Option String :=
  if text = "" then none else some (pyTake text limit)

/-- The URL of an attribute, resolved, where it is not blank. -/
def resolvedUrl (baseUrl : String) (attrs : Attributes) (name : String) :
    Except WalkError (Option String) :=
  let url := pyStrip (attrText attrs name)
  if url = "" then .ok none
  else
    match library.urljoin baseUrl url with
    | none => .error .valueError
    | some resolved => .ok (some resolved)

/-- The `href` of a link, which is kept where it is one of HTTP. -/
def linkUrl (baseUrl : String) (attrs : Attributes) : Except WalkError (Option String) := do
  match ← resolvedUrl library baseUrl attrs "href" with
  | none => return none
  | some resolved =>
      match urlsplit library.net resolved with
      | none => .error .valueError
      | some parts =>
          if String.ofList parts.scheme ∈ ["http", "https"] then
            return some (pyTake resolved maxHrefChars)
          else return none

/-- `_describe`, for a node in its place. -/
def describe (baseUrl : String) (placed : Placed) (idText labels : List (String × String)) :
    Except WalkError (Option Descriptor) := do
  let node := placed.node
  let tag := node.tag
  let attrs := node.attrs
  let role := textOr (attrText attrs "role") (roleFor library node)
  if role = "" then return none
  let kind := inputType library node
  let desc : Descriptor :=
    { tag, role
      name := nameFor node idText labels
      inputType := if tag = "input" then some kind else none
      sensitive := tag = "input" && kind = "password"
      disabled := (attr attrs "disabled").isSome
      checked := if tag = "input" ∧ kind ∈ ["checkbox", "radio"] then
        some (attr attrs "checked").isSome else none
      path := placed.path
      inShadow := placed.inShadow
      shadowRoot := node.shadowRoot
      placeholder := nonempty (attrText attrs "placeholder") maxAttrChars }
  if tag = "a" then
    let href ← linkUrl library baseUrl attrs
    return some { desc with href, target := nonempty (attrText attrs "target") maxAttrChars }
  else if tag = "img" then
    return some { desc with alt := nonempty (attrText attrs "alt") maxNameChars }
  else if tag = "iframe" then
    let href ← resolvedUrl library baseUrl attrs "src"
    return some { desc with href := href.map (pyTake · maxHrefChars) }
  else if tag = "form" then
    let action ← resolvedUrl library baseUrl attrs "action"
    return some { desc with action := action.map (pyTake · maxHrefChars) }
  else return some desc

/-- The loop of `descriptors`. -/
def describeUsable (baseUrl : String) (idText labels : List (String × String)) :
    List Placed → Except WalkError (List Descriptor)
  | [] => .ok []
  | placed :: rest => do
      if ← usable library placed.node then
        let desc ← describe library baseUrl placed idText labels
        let descs ← describeUsable baseUrl idText labels rest
        return desc.toList ++ descs
      else describeUsable baseUrl idText labels rest

/-- `descriptors`. -/
def Walker.descriptors (walker : Walker) (baseUrl : String) :
    Except WalkError (List Descriptor) :=
  let placed := collect [] false 0 walker.nodes
  describeUsable library baseUrl (visibleTextIndex placed) (labelIndex placed) placed

end Describe

end Era.Providers.AccessibilityWalker
