import Era.Providers.AccessibilityWalker

/-!
# Pages through the accessibility walker

A page is a tree of elements, of which the void ones have no end tag.  It reaches the walker
as the events of its tags and texts.  `meta` and `link` are void and skipped: their start
tags raise the counter, and nothing lowers it again.  So the walker sees a page up to the
first of them, and no further.
-/

namespace Era.Providers.AccessibilityWalker

open Era.Core

/-! ## Pages -/

section Pages

variable {lower : String → String}

/-- The name of an element without an end tag. -/
structure VoidTag (lower : String → String) where
  name : String
  isVoid : lower name ∈ voidTags

/-- The name of an element with an end tag. -/
structure ElementTag (lower : String → String) where
  name : String
  notVoid : lower name ∉ voidTags
  /-- Names begin with a letter. -/
  notPlaceholder : lower name ≠ shadowTag

/-- The content of an element or of a page: its texts and elements in order. -/
inductive Content (lower : String → String) where
  | nil
  | text (data : String) (rest : Content lower)
  /-- A void element, written with a slash or without. -/
  | void (tag : VoidTag lower) (attrs : Attributes) (slash : Bool) (rest : Content lower)
  | element (tag : ElementTag lower) (attrs : Attributes) (inner rest : Content lower)

namespace Content

/-- What `HTMLParser` calls for some content. -/
def events : Content lower → List HtmlEvent
  | nil => []
  | text data rest => .data data :: rest.events
  | void tag attrs slash rest =>
      (if slash then .startendtag tag.name attrs else .starttag tag.name attrs) :: rest.events
  | element tag attrs inner rest =>
      .starttag tag.name attrs :: (inner.events ++ .endtag tag.name :: rest.events)

end Content

/-! ## What a page shows -/

/-- What an element shows: its own text, its children, and whether it hosts a shadow root. -/
structure Shown where
  text : String := ""
  children : List SimNode := []
  shadowRoot : Bool := false

instance : Append Shown where
  append one other :=
    { text := one.text ++ other.text
      children := one.children ++ other.children
      shadowRoot := one.shadowRoot || other.shadowRoot }

namespace Shown

@[simp] theorem text_append (one other : Shown) : (one ++ other).text = one.text ++ other.text :=
  rfl

@[simp] theorem children_append (one other : Shown) :
    (one ++ other).children = one.children ++ other.children := rfl

@[simp] theorem shadowRoot_append (one other : Shown) :
    (one ++ other).shadowRoot = (one.shadowRoot || other.shadowRoot) := rfl

@[simp] theorem append_empty (shown : Shown) : shown ++ ({} : Shown) = shown := by
  change Shown.mk _ _ _ = shown
  simp

end Shown

/-- A node that shows more. -/
def SimNode.add (node : SimNode) (shown : Shown) : SimNode :=
  { node with
    text := node.text ++ shown.text
    children := node.children ++ shown.children
    shadowRoot := node.shadowRoot || shown.shadowRoot }

/-- The nodes of the shadow tree of a template, which its host shows. -/
def Shown.spliced (shown : Shown) : Shown where
  children := shown.children.map fun child => { child with inShadow := true }
  shadowRoot := true

namespace Content

/-- What an element shows inside another or in a page, given what its content shows.  The
template of a shadow root shows its content as the content of its host; without a host it
leaves a placeholder, which nothing collects. -/
def elementShown (hosted : Bool) (tag : String) (attrs : Attributes) (inner : Shown) : Shown :=
  if tag ∈ skippedTags then {}
  else if isShadowTemplate tag attrs then
    if hosted then inner.spliced
    else { children := [({ tag := shadowTag, attrs } : SimNode).add inner] }
  else { children := [({ tag, attrs } : SimNode).add inner] }

/-- What some content shows, inside an element or as a page: its texts and its elements, but
for the skipped ones. -/
def shown (hosted : Bool) : Content lower → Shown
  | nil => {}
  | text data rest => { text := data } ++ rest.shown hosted
  | void tag attrs _ rest => elementShown hosted (lower tag.name) attrs {} ++ rest.shown hosted
  | element tag attrs inner rest =>
      elementShown hosted (lower tag.name) attrs (inner.shown true) ++ rest.shown hosted

/-- The nodes of a page. -/
def roots (page : Content lower) : List SimNode := (page.shown false).children

/-- The number of the skipped elements that have no end tag. -/
def unclosed : Content lower → Nat
  | nil => 0
  | text _ rest => rest.unclosed
  | void tag _ _ rest => (if lower tag.name ∈ skippedTags then 1 else 0) + rest.unclosed
  | element _ _ inner rest => inner.unclosed + rest.unclosed

/-- Some content up to its first skipped element without an end tag.  A shadow root that
is still open there does not come to its host. -/
def upToUnclosed (hosted : Bool) : Content lower → Content lower
  | nil => nil
  | text data rest => text data (rest.upToUnclosed hosted)
  | void tag attrs slash rest =>
      if lower tag.name ∈ skippedTags then nil
      else void tag attrs slash (rest.upToUnclosed hosted)
  | element tag attrs inner rest =>
      if inner.unclosed = 0 then element tag attrs inner (rest.upToUnclosed hosted)
      else if lower tag.name ∈ skippedTags ∨
          hosted ∧ isShadowTemplate (lower tag.name) attrs then nil
      else element tag attrs (inner.upToUnclosed true) nil

/-- The part of a page that the walker sees. -/
def seen (page : Content lower) : Content lower := page.upToUnclosed false

theorem unclosed_void_eq_zero {tag : VoidTag lower} {attrs : Attributes} {slash : Bool}
    {rest : Content lower} (closed : (void tag attrs slash rest).unclosed = 0) :
    lower tag.name ∉ skippedTags ∧ rest.unclosed = 0 := by
  rw [unclosed, Nat.add_eq_zero_iff] at closed
  refine ⟨fun skipped => ?_, closed.2⟩
  rw [if_pos skipped] at closed
  exact Nat.one_ne_zero closed.1

theorem upToUnclosed_of_closed {content : Content lower} (closed : content.unclosed = 0)
    (hosted : Bool) : content.upToUnclosed hosted = content := by
  induction content with
  | nil => rfl
  | text data rest ih => rw [upToUnclosed, ih closed]
  | void tag attrs slash rest ih =>
      obtain ⟨kept, rest_closed⟩ := unclosed_void_eq_zero closed
      rw [upToUnclosed, if_neg kept, ih rest_closed]
  | element tag attrs inner rest _ ih =>
      rw [unclosed, Nat.add_eq_zero_iff] at closed
      rw [upToUnclosed, if_pos closed.1, ih closed.2]

end Content

end Pages

/-! ## The handlers on a page -/

@[simp] theorem SimNode.add_tag (node : SimNode) (shown : Shown) :
    (node.add shown).tag = node.tag := rfl

theorem SimNode.add_empty (node : SimNode) : node.add {} = node := by
  cases node
  simp [SimNode.add]

theorem SimNode.add_append (node : SimNode) (one other : Shown) :
    (node.add one).add other = node.add (one ++ other) := by
  simp [SimNode.add, String.append_assoc, Bool.or_assoc]

namespace Walker

variable (walker : Walker)

/-- The innermost open node, or the page, shows more. -/
def add (shown : Shown) : Walker :=
  match walker.stack with
  | [] => { walker with root := walker.root ++ shown.children }
  | top :: below => { walker with stack := { top with node := top.node.add shown } :: below }

@[simp] theorem add_skipDepth (shown : Shown) :
    (walker.add shown).skipDepth = walker.skipDepth := by
  unfold add
  split <;> rfl

@[simp] theorem add_isEmpty (shown : Shown) :
    (walker.add shown).stack.isEmpty = walker.stack.isEmpty := by
  unfold add
  split
  next => rfl
  next top below stack_eq => rw [stack_eq, List.isEmpty_cons, List.isEmpty_cons]

theorem add_empty : walker.add {} = walker := by
  unfold add
  split
  next => rw [List.append_nil]
  next top below stack_eq => rw [SimNode.add_empty, ← stack_eq]

theorem add_append (one other : Shown) :
    (walker.add one).add other = walker.add (one ++ other) := by
  cases stack_eq : walker.stack with
  | nil => simp [add, stack_eq]
  | cons top below => simp [add, stack_eq, SimNode.add_append]

theorem add_push (node : SimNode) (attached : Bool) (shown : Shown) :
    (walker.push node attached).add shown = walker.push (node.add shown) attached := rfl

theorem append_eq_add (node : SimNode) :
    walker.append node = walker.add { children := [node] } := by
  cases stack_eq : walker.stack with
  | nil => simp [append, add, stack_eq]
  | cons top below => simp [append, add, stack_eq, SimNode.add]

theorem spliceShadow_eq_add (node : SimNode) (hosted : walker.stack.isEmpty = false) :
    walker.spliceShadow node =
      walker.add (Shown.spliced { text := node.text, children := node.children }) := by
  cases stack_eq : walker.stack with
  | nil =>
      rw [stack_eq] at hosted
      cases hosted
  | cons host below => simp [spliceShadow, add, stack_eq, SimNode.add, Shown.spliced]

theorem handleData_eq_add (data : String) (live : walker.skipDepth = 0) :
    walker.handleData data = walker.add { text := data } := by
  obtain ⟨root, stack, depth⟩ := walker
  obtain rfl : depth = 0 := live
  cases stack with
  | nil => simp [handleData, add]
  | cons top below => simp [handleData, add, SimNode.add]

/-! Tags of skipped elements only move the counter. -/

theorem startTag_of_skipping {tag : String} {attrs : Attributes}
    (skipping : walker.skipDepth ≠ 0) :
    walker.startTag tag attrs =
      { walker with
        skipDepth := walker.skipDepth + if tag ∈ skippedTags then 1 else 0 } := by
  unfold startTag
  split <;> simp

theorem endTag_of_skipping {tag : String} (skipping : walker.skipDepth ≠ 0) :
    walker.endTag tag =
      { walker with
        skipDepth := walker.skipDepth - if tag ∈ skippedTags then 1 else 0 } := by
  unfold endTag
  split <;> simp

/-- Tags of elements that are not skipped open a node and close it. -/
theorem startTag_of_shown {tag : String} (attrs : Attributes) (live : walker.skipDepth = 0)
    (kept : tag ∉ skippedTags) (notVoid : tag ∉ voidTags) :
    walker.startTag tag attrs =
      if isShadowTemplate tag attrs then
        walker.push { tag := shadowTag, attrs } walker.stack.isEmpty
      else walker.push { tag, attrs } true := by
  unfold startTag
  simp only [kept, live, notVoid, if_false, ne_eq, not_true_eq_false]

theorem startTag_of_void {tag : String} {attrs : Attributes} (live : walker.skipDepth = 0)
    (kept : tag ∉ skippedTags) (isVoid : tag ∈ voidTags) (hosted : Bool) :
    walker.startTag tag attrs = walker.add (Content.elementShown hosted tag attrs {}) := by
  have plain : isShadowTemplate tag attrs = false := by
    simp only [isShadowTemplate, Bool.and_eq_false_iff, decide_eq_false_iff_not]
    left
    rintro rfl
    revert isVoid
    decide
  simp only [startTag, Content.elementShown, kept, live, isVoid, plain, if_false, if_true,
    ne_eq, not_true_eq_false, Bool.false_eq_true, append_eq_add, SimNode.add_empty]

theorem startEndTag_of_void {tag : String} {attrs : Attributes} (isVoid : tag ∈ voidTags) :
    walker.startEndTag tag attrs = walker.startTag tag attrs := by
  have other : tag ∉ ["template", "script", "style"] := by
    intro member
    revert isVoid
    simp only [List.mem_cons, List.not_mem_nil, or_false] at member
    rcases member with rfl | rfl | rfl <;> decide
  unfold startEndTag
  simp only [other, isVoid, if_false, not_true_eq_false, false_and]

variable {lower : String → String}

@[simp] theorem feed_cons (event : HtmlEvent) (events : List HtmlEvent) :
    walker.feed lower (event :: events) = (walker.handle lower event).feed lower events := rfl

theorem feed_append (before after : List HtmlEvent) :
    walker.feed lower (before ++ after) = (walker.feed lower before).feed lower after :=
  List.foldl_append

theorem feed_element (tag : ElementTag lower) (attrs : Attributes) (inner rest : Content lower) :
    walker.feed lower (Content.element tag attrs inner rest).events =
      ((((walker.startTag (lower tag.name) attrs).feed lower inner.events).endTag
        (lower tag.name)).feed lower rest.events) := by
  rw [Content.events, feed_cons, feed_append, feed_cons]
  rfl

theorem handle_void (tag : VoidTag lower) (attrs : Attributes) (slash : Bool) :
    walker.handle lower
        (if slash then .startendtag tag.name attrs else .starttag tag.name attrs) =
      walker.startTag (lower tag.name) attrs := by
  cases slash with
  | false => rfl
  | true => exact startEndTag_of_void walker tag.isVoid

/-- While the walker skips, content only raises the counter by what stays unclosed. -/
theorem feed_of_skipping (content : Content lower) (walker : Walker)
    (skipping : walker.skipDepth ≠ 0) :
    walker.feed lower content.events =
      { walker with skipDepth := walker.skipDepth + content.unclosed } := by
  induction content generalizing walker with
  | nil => rfl
  | text data rest ih =>
      have ignored : walker.handle lower (.data data) = walker := if_pos skipping
      rw [Content.events, feed_cons, ignored, ih walker skipping, Content.unclosed]
  | void tag attrs slash rest ih =>
      rw [Content.events, feed_cons, handle_void, startTag_of_skipping walker skipping,
        ih _ (by dsimp only; omega), Content.unclosed]
      simp only [Nat.add_assoc]
  | element tag attrs inner rest ihInner ihRest =>
      rw [feed_element, startTag_of_skipping walker skipping, ihInner _ (by dsimp only; omega),
        endTag_of_skipping _ (by dsimp only; omega), ihRest _ (by dsimp only; split <;> omega),
        Content.unclosed]
      dsimp only
      congr 1
      split <;> omega

/-! Content without an unclosed skipped element is added as a whole. -/

theorem pop_push (node : SimNode) (attached : Bool) :
    (walker.push node attached).pop = if attached then walker.append node else walker := rfl

theorem endTag_push (node : SimNode) (attached : Bool) {tag : String}
    (live : walker.skipDepth = 0) (kept : tag ∉ skippedTags) :
    (walker.push node attached).endTag tag =
      if node.tag = tag then (walker.push node attached).pop
      else (walker.push node attached).closeUntil tag (walker.stack.length + 1) := by
  have opened : (walker.push node attached).skipDepth = 0 := live
  rw [endTag, if_neg kept, if_neg (not_not.mpr opened)]
  rfl

theorem endTag_push_node (node : SimNode) {tag : String} (live : walker.skipDepth = 0)
    (kept : tag ∉ skippedTags) (same : node.tag = tag) :
    (walker.push node true).endTag tag = walker.add { children := [node] } := by
  rw [endTag_push walker node true live kept, if_pos same, pop_push, if_pos rfl, append_eq_add]

theorem endTag_push_placeholder (node : SimNode) {tag : String} (live : walker.skipDepth = 0)
    (kept : tag ∉ skippedTags) (placeholder : node.tag = shadowTag) (other : tag ≠ shadowTag) :
    (walker.push node walker.stack.isEmpty).endTag tag =
      if !walker.stack.isEmpty then
        walker.add (Shown.spliced { text := node.text, children := node.children })
      else walker.add { children := [node] } := by
  have different : node.tag ≠ tag := by
    rw [placeholder]
    exact other.symm
  have closes : (walker.push node walker.stack.isEmpty).closeUntil tag
      (walker.stack.length + 1) =
        (walker.push node walker.stack.isEmpty).pop.spliceShadow node := if_pos placeholder
  rw [endTag_push walker node _ live kept, if_neg different, closes, pop_push]
  cases hosted : walker.stack.isEmpty with
  | true =>
      rw [List.isEmpty_iff] at hosted
      simp [append, add, spliceShadow, hosted]
  | false => exact spliceShadow_eq_add walker node hosted

theorem element_of_closed (tag : ElementTag lower) (attrs : Attributes) {inner : Content lower}
    (live : walker.skipDepth = 0) (closed : inner.unclosed = 0)
    (ih : ∀ walker : Walker, walker.skipDepth = 0 →
      walker.feed lower inner.events = walker.add (inner.shown !walker.stack.isEmpty)) :
    ((walker.startTag (lower tag.name) attrs).feed lower inner.events).endTag (lower tag.name) =
      walker.add (Content.elementShown (!walker.stack.isEmpty) (lower tag.name) attrs
        (inner.shown true)) := by
  by_cases kept : lower tag.name ∈ skippedTags
  · rw [Content.elementShown, if_pos kept, add_empty, startTag, if_pos kept,
      feed_of_skipping inner _ (Nat.succ_ne_zero _), closed, endTag, if_pos kept]
    rfl
  · rw [startTag_of_shown walker attrs live kept tag.notVoid, Content.elementShown, if_neg kept]
    split
    · rw [ih (walker.push _ _) live, add_push,
        endTag_push_placeholder walker _ live kept rfl tag.notPlaceholder, apply_ite walker.add]
      rfl
    · rw [ih (walker.push _ _) live, add_push, endTag_push_node walker _ live kept rfl]
      rfl

theorem feed_of_closed (content : Content lower) (walker : Walker) (live : walker.skipDepth = 0)
    (closed : content.unclosed = 0) :
    walker.feed lower content.events = walker.add (content.shown !walker.stack.isEmpty) := by
  induction content generalizing walker with
  | nil => exact (add_empty walker).symm
  | text data rest ih =>
      rw [Content.events, feed_cons, handle, handleData_eq_add walker data live,
        ih _ (by simpa using live) closed, add_isEmpty, add_append, Content.shown]
  | void tag attrs slash rest ih =>
      obtain ⟨kept, rest_closed⟩ := Content.unclosed_void_eq_zero closed
      rw [Content.events, feed_cons, handle_void, startTag_of_void walker live kept tag.isVoid
        (!walker.stack.isEmpty), ih _ (by simpa using live) rest_closed, add_isEmpty, add_append,
        Content.shown]
  | element tag attrs inner rest ihInner ihRest =>
      rw [Content.unclosed, Nat.add_eq_zero_iff] at closed
      rw [feed_element, element_of_closed walker tag attrs live closed.1
        (fun walker live => ihInner walker live closed.1), ihRest _ (by simpa using live) closed.2,
        add_isEmpty, add_append, Content.shown]

/-! Content with an unclosed skipped element is seen up to there. -/

theorem nodes_push (node : SimNode) (attached : Bool) :
    (walker.push node attached).nodes =
      rooted walker.root walker.stack (if attached then [node] else []) := by
  cases node
  simp [nodes, push, rooted]

theorem nodes_add_children (children : List SimNode) :
    (walker.add { children }).nodes = rooted walker.root walker.stack children := by
  cases stack_eq : walker.stack with
  | nil => simp [nodes, add, stack_eq, rooted]
  | cons top below => simp [nodes, add, stack_eq, rooted, SimNode.add]

theorem nodes_push_attached (node : SimNode) :
    (walker.push node true).nodes = (walker.add { children := [node] }).nodes := by
  rw [nodes_push, nodes_add_children, if_pos rfl]

theorem nodes_push_detached (node : SimNode) : (walker.push node false).nodes = walker.nodes :=
  nodes_push walker node false

/-- An open node whose content stays unclosed stays open. -/
theorem push_of_unclosed (node : SimNode) (attached : Bool) {tag : String}
    (kept : tag ∉ skippedTags) {inner : Content lower}
    (fed : ((walker.push node attached).feed lower inner.events).skipDepth ≠ 0 ∧
      ((walker.push node attached).feed lower inner.events).nodes =
        ((walker.push node attached).add ((inner.upToUnclosed true).shown true)).nodes) :
    (((walker.push node attached).feed lower inner.events).endTag tag).skipDepth ≠ 0 ∧
    (((walker.push node attached).feed lower inner.events).endTag tag).nodes =
      (walker.push (node.add ((inner.upToUnclosed true).shown true)) attached).nodes := by
  obtain ⟨skipping, same⟩ := fed
  rw [endTag, if_neg kept, if_pos skipping]
  exact ⟨skipping, same⟩

/-- What is left of an element whose content stays unclosed. -/
theorem element_of_unclosed (tag : ElementTag lower) (attrs : Attributes)
    {inner : Content lower} (live : walker.skipDepth = 0) (unclosed : inner.unclosed ≠ 0)
    (ih : ∀ walker : Walker, walker.skipDepth = 0 →
      (walker.feed lower inner.events).skipDepth ≠ 0 ∧
      (walker.feed lower inner.events).nodes =
        (walker.add ((inner.upToUnclosed !walker.stack.isEmpty).shown
          !walker.stack.isEmpty)).nodes) :
    let closed :=
      ((walker.startTag (lower tag.name) attrs).feed lower inner.events).endTag (lower tag.name)
    closed.skipDepth ≠ 0 ∧ closed.nodes =
      (walker.add (((Content.element tag attrs inner .nil).upToUnclosed
        !walker.stack.isEmpty).shown !walker.stack.isEmpty)).nodes := by
  intro closed
  rw [Content.upToUnclosed, if_neg unclosed]
  by_cases kept : lower tag.name ∈ skippedTags
  · have closed_eq : closed = { walker with skipDepth := inner.unclosed } := by
      simp only [closed, startTag, if_pos kept]
      rw [feed_of_skipping inner _ (Nat.succ_ne_zero _), endTag, if_pos kept]
      simp [live]
    rw [closed_eq, if_pos (.inl kept), Content.shown, add_empty]
    exact ⟨unclosed, rfl⟩
  · have opened := startTag_of_shown walker attrs live kept tag.notVoid
    simp only [closed, opened, kept, false_or]
    cases template : isShadowTemplate (lower tag.name) attrs with
    | true =>
        obtain ⟨skipping, same⟩ :=
          push_of_unclosed walker { tag := shadowTag, attrs } walker.stack.isEmpty kept
            (ih (walker.push _ _) live)
        refine ⟨skipping, same.trans ?_⟩
        cases hosted : walker.stack.isEmpty with
        | true =>
            rw [nodes_push_attached]
            simp [Content.shown, Content.elementShown, kept, template]
        | false =>
            rw [nodes_push_detached, if_pos ⟨rfl, rfl⟩, Content.shown, add_empty]
    | false =>
        obtain ⟨skipping, same⟩ :=
          push_of_unclosed walker { tag := lower tag.name, attrs } true kept
            (ih (walker.push _ _) live)
        refine ⟨skipping, same.trans ?_⟩
        rw [nodes_push_attached]
        simp [Content.shown, Content.elementShown, kept, template]

theorem feed_of_unclosed (content : Content lower) (walker : Walker)
    (live : walker.skipDepth = 0) (unclosed : content.unclosed ≠ 0) :
    (walker.feed lower content.events).skipDepth ≠ 0 ∧
    (walker.feed lower content.events).nodes =
      (walker.add ((content.upToUnclosed !walker.stack.isEmpty).shown
        !walker.stack.isEmpty)).nodes := by
  induction content generalizing walker with
  | nil => exact absurd rfl unclosed
  | text data rest ih =>
      have added := ih (walker.add { text := data }) (by simpa using live) unclosed
      rw [Content.events, feed_cons, handle, handleData_eq_add walker data live]
      rw [add_isEmpty, add_append] at added
      exact added
  | void tag attrs slash rest ih =>
      rw [Content.events, feed_cons, handle_void, Content.upToUnclosed]
      by_cases kept : lower tag.name ∈ skippedTags
      · rw [startTag, if_pos kept, feed_of_skipping rest _ (Nat.succ_ne_zero _), if_pos kept,
          Content.shown, add_empty]
        exact ⟨by dsimp only; omega, rfl⟩
      · rw [Content.unclosed, if_neg kept, Nat.zero_add] at unclosed
        rw [startTag_of_void walker live kept tag.isVoid (!walker.stack.isEmpty), if_neg kept]
        have added := ih (walker.add (Content.elementShown (!walker.stack.isEmpty)
          (lower tag.name) attrs {})) (by simpa using live) unclosed
        rw [add_isEmpty, add_append] at added
        exact added
  | element tag attrs inner rest ihInner ihRest =>
      rw [feed_element]
      by_cases closed : inner.unclosed = 0
      · rw [Content.unclosed, closed, Nat.zero_add] at unclosed
        rw [element_of_closed walker tag attrs live closed
          (fun walker live => feed_of_closed inner walker live closed), Content.upToUnclosed,
          if_pos closed]
        have added := ihRest (walker.add (Content.elementShown (!walker.stack.isEmpty)
          (lower tag.name) attrs (inner.shown true))) (by simpa using live) unclosed
        rw [add_isEmpty, add_append] at added
        exact added
      · obtain ⟨skipping, same⟩ := element_of_unclosed walker tag attrs live closed
          fun walker live => ihInner walker live closed
        rw [feed_of_skipping rest _ skipping]
        refine ⟨by dsimp only; omega, ?_⟩
        rw [Content.upToUnclosed, if_neg closed] at same ⊢
        exact same

/-- The walker sees a page up to its first skipped element without an end tag. -/
theorem nodes_feed (page : Content lower) :
    (feed {} lower page.events).nodes = page.seen.roots := by
  have nodes_add (shown : Shown) : (add {} shown).nodes = shown.children := by
    simp [add, nodes, rooted]
  by_cases closed : page.unclosed = 0
  · rw [feed_of_closed page {} rfl closed, nodes_add, Content.seen,
      Content.upToUnclosed_of_closed closed]
    rfl
  · rw [(feed_of_unclosed page {} rfl closed).2, nodes_add]
    rfl

end Walker

/-! ## Descriptors of a page -/

section Descriptors

variable (library : WalkerLibrary)

/-- A node is asked whether it is hidden from accessibility, by an attribute without value. -/
def bareAriaHidden (node : SimNode) : Bool :=
  node.tag ≠ shadowTag && (attr node.attrs "hidden").isNone &&
    attr? node.attrs "aria-hidden" = some none

/-- A visible usable element: `_usable`, where it answers. -/
def isUsable (node : SimNode) : Bool :=
  node.tag ≠ shadowTag && (attr node.attrs "hidden").isNone &&
    library.platform.lower (attrText node.attrs "aria-hidden") ≠ "true" &&
    usableUnlessHidden library node

theorem usable_eq (node : SimNode) :
    usable library node =
      if bareAriaHidden node then .error .attributeError else .ok (isUsable library node) := by
  unfold usable bareAriaHidden isUsable attrText attr
  by_cases placeholder : node.tag = shadowTag
  · simp [placeholder]
  · cases hidden : (attr? node.attrs "hidden").join with
    | some value => simp [placeholder]
    | none =>
        rcases attr? node.attrs "aria-hidden" with _ | _ | value
        · by_cases unhidden : library.platform.lower "" = "true" <;> simp [placeholder, unhidden]
        · simp [placeholder]
        · by_cases unhidden : library.platform.lower value = "true" <;>
            simp [placeholder, unhidden]

/-- The descriptors of the usable ones among some elements. -/
def describeAll (baseUrl : String) (idText labels : List (String × String))
    (elements : List Placed) : Except WalkError (List Descriptor) :=
  ((elements.filter (isUsable library ·.node)).mapM fun element =>
    describe library baseUrl element idText labels).map List.reduceOption

theorem describeUsable_of_clear (baseUrl : String) (idText labels : List (String × String))
    {placed : List Placed}
    (clear : ∀ element ∈ placed, bareAriaHidden element.node = false) :
    describeUsable library baseUrl idText labels placed =
      describeAll library baseUrl idText labels placed := by
  unfold describeAll
  induction placed with
  | nil => rfl
  | cons element rest ih =>
      obtain ⟨clear, rest_clear⟩ := List.forall_mem_cons.mp clear
      rw [describeUsable, usable_eq, clear, if_neg Bool.false_ne_true, ih rest_clear]
      cases used : isUsable library element.node with
      | false =>
          rw [List.filter_cons_of_neg (by simp [used])]
          rfl
      | true =>
          rw [List.filter_cons_of_pos (by simp [used]), List.mapM_cons]
          cases describe library baseUrl element idText labels with
          | error failure => rfl
          | ok desc =>
              cases (rest.filter (isUsable library ·.node)).mapM fun element =>
                describe library baseUrl element idText labels with
              | error failure => rfl
              | ok descs => cases desc <;> rfl

theorem clear_of_describeUsable (baseUrl : String) (idText labels : List (String × String))
    {placed : List Placed} {descs : List Descriptor}
    (described : describeUsable library baseUrl idText labels placed = .ok descs) :
    ∀ element ∈ placed, bareAriaHidden element.node = false := by
  induction placed generalizing descs with
  | nil => exact fun _ member => by cases member
  | cons element rest ih =>
      rw [describeUsable, usable_eq] at described
      cases bare : bareAriaHidden element.node with
      | true =>
          rw [bare] at described
          cases described
      | false =>
          rw [bare, if_neg Bool.false_ne_true] at described
          refine List.forall_mem_cons.mpr ⟨bare, ?_⟩
          cases used : isUsable library element.node with
          | false =>
              rw [used] at described
              exact ih described
          | true =>
              rw [used] at described
              cases own : describe library baseUrl element idText labels with
              | error failure =>
                  rw [own] at described
                  cases described
              | ok desc =>
                  cases others : describeUsable library baseUrl idText labels rest with
                  | error failure =>
                      rw [own, others] at described
                      cases described
                  | ok descs => exact ih others

namespace Content

variable {library} (page : Content library.platform.lower) (baseUrl : String)

/-- The elements of a page, outside the skipped ones, in document order. -/
def elements : List Placed := collect [] false 0 page.roots

/-- The descriptors of the visible usable elements of a page, outside the skipped ones. -/
def descriptors : Except WalkError (List Descriptor) :=
  describeAll library baseUrl (visibleTextIndex page.elements) (labelIndex page.elements)
    page.elements

/-- What the walker makes of a page. -/
def walked : Except WalkError (List Descriptor) :=
  (Walker.feed {} library.platform.lower page.events).descriptors library baseUrl

/-- The walker produces exactly the descriptors of the visible usable elements. -/
def ShowsExactly : Prop :=
  ∃ descs, page.walked baseUrl = .ok descs ∧ page.descriptors baseUrl = .ok descs

/-- No descriptor depends on what comes after the first `meta` or `link`. -/
def LosesNothing : Prop :=
  ∃ descs, page.seen.descriptors baseUrl = .ok descs ∧ page.descriptors baseUrl = .ok descs

theorem walked_ok_iff (descs : List Descriptor) :
    page.walked baseUrl = .ok descs ↔
      (∀ element ∈ page.seen.elements, bareAriaHidden element.node = false) ∧
      page.seen.descriptors baseUrl = .ok descs := by
  rw [walked, Walker.descriptors, Walker.nodes_feed]
  constructor
  · intro described
    have clear := clear_of_describeUsable library baseUrl _ _ described
    rw [describeUsable_of_clear library baseUrl _ _ clear] at described
    exact ⟨clear, described⟩
  · rintro ⟨clear, described⟩
    exact (describeUsable_of_clear library baseUrl _ _ clear).trans described

end Content

end Descriptors

namespace Demo

/-- A library for pages in lower case without URLs. -/
def plainLibrary : WalkerLibrary where
  platform := { Platform.plain with lower := id }
  net := { ipAddress := fun _ => none, validNetloc := fun _ => true, parseQsl := fun _ => none }
  urljoin := fun _ url => some url

/-- A page with the head of nearly every page, and a button. -/
def buttonPage : Content plainLibrary.platform.lower :=
  .element ⟨"html", by decide, by decide⟩ []
    (.element ⟨"head", by decide, by decide⟩ []
      (.void ⟨"meta", by decide⟩ [("charset", some "utf-8")] false .nil)
    (.element ⟨"body", by decide, by decide⟩ []
      (.element ⟨"button", by decide, by decide⟩ [] (.text "Go" .nil) .nil) .nil)) .nil

end Demo

end Era.Providers.AccessibilityWalker
