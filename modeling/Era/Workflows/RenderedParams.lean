import Mathlib.Data.List.Forall2
import Era.Core.Result
import Era.Lib.Template
import Era.Workflows.Rendering

/-!
# What rendering leaves

Rendering puts run parameters into the placeholders of a template, once.  A string in which no
placeholder is found is returned unchecked, so double braces that are no placeholder stay in it;
in a string with a placeholder they make the rendering fail.
-/

namespace Era.Workflows

open Era.Core Era.Security Era.Lib

/-! ## The pieces of a text -/

/-- The placeholder at the start of a text. -/
def holeAt (text : List Char) : Option (String × List Char) :=
  (placeholder? text).map fun found => (String.ofList found.1, found.2)

/-- Double braces. -/
def braces : List (List Char) := [['\x7b', '\x7b'], ['\x7d', '\x7d']]

/-- A text without double braces. -/
def PairFree (text : List Char) : Prop := ∀ pair ∈ braces, ¬pair <:+: text

/-- A text with double braces outside of its placeholders. -/
def Stray (text : List Char) : Prop :=
  ∃ pieces, Template.Parses holeAt text pieces ∧
    ∃ pair ∈ braces, pair.map Template.Piece.symbol <:+: pieces

theorem consumes_holeAt : Template.Consumes holeAt := by
  intro text name after found
  obtain ⟨⟨chars, rest⟩, matched, found_eq⟩ := Option.map_eq_some_iff.mp found
  cases found_eq
  unfold placeholder? at matched
  split at matched
  next inner =>
    dsimp only at matched
    split at matched
    next closing =>
      cases matched
      have shorter (chars : List Char) (drops : Char → Bool) :
          (chars.dropWhile drops).length ≤ chars.length :=
        (List.dropWhile_suffix drops).length_le
      have length_eq := congrArg List.length closing
      have first := shorter inner isPySpace
      have second := shorter (inner.dropWhile isPySpace) isIdentifierChar
      have third := shorter ((inner.dropWhile isPySpace).dropWhile isIdentifierChar) isPySpace
      simp only [List.length_cons] at length_eq ⊢
      omega
    next => cases matched
  next => cases matched

theorem hasPair_iff (char : Char) (text : List Char) :
    hasPair char text = true ↔ [char, char] <:+: text := by
  unfold hasPair
  rw [List.any_eq_true, List.infix_iff_prefix_suffix]
  simp only [List.mem_tails, List.isPrefixOf_iff_prefix]
  exact exists_congr fun _ => and_comm

theorem pairFree_iff (text : List Char) :
    PairFree text ↔ (hasPair '\x7b' text || hasPair '\x7d' text) = false := by
  rw [Bool.or_eq_false_iff, ← Bool.not_eq_true, ← Bool.not_eq_true, hasPair_iff, hasPair_iff]
  simp [PairFree, braces]

section Pieces

variable {text : List Char} {pieces : List (Template.Piece Char String)}

/-- A placeholder is found in a text if and only if one of its pieces is a hole. -/
theorem hasPlaceholder_iff (parses : Template.Parses holeAt text pieces) :
    hasPlaceholder text = true ↔ Template.names pieces ≠ [] := by
  unfold hasPlaceholder
  induction parses with
  | nil => decide
  | @hole text after name pieces found _ _ =>
      refine ⟨fun _ => nofun, fun _ => List.any_eq_true.mpr ⟨text, ?_, ?_⟩⟩
      · rw [List.mem_tails]
      · obtain ⟨_, matched, _⟩ := Option.map_eq_some_iff.mp found
        rw [matched, Option.isSome_some]
  | symbol absent _ ih =>
      rw [List.tails_cons, List.any_cons, Option.map_eq_none_iff.mp absent, Option.isSome_none,
        Bool.false_or, ih]
      rfl

end Pieces

/-! ## Filled texts -/

section Fills

variable (platform : Platform) (params : Params)

/-- The run value of a placeholder as text, which scalars other than `None` have. -/
def runText (name : String) : Option (List Char) :=
  match List.lookup name params with
  | none | some .none | some (.list _) | some (.dict _) => none
  | some (.int number) =>
      if (toString number.natAbs).length ≤ intMaxStrDigits then some (toString number).toList
      else none
  | some value => some (value.pyStr platform).toList

theorem lookup_ok_iff {path name found : String} :
    lookup platform params path name = .ok found ↔
      runText platform params name = some found.toList := by
  unfold lookup runText
  cases List.lookup name params with
  | none => simp [fail]
  | some value =>
      cases value with
      | none | list _ | dict _ => simp [fail]
      | int number =>
          dsimp only
          unfold intStr
          split <;> simp [String.toList_inj]
      | bool _ | float _ | str _ => simp [String.toList_inj]

variable {platform params}

/-- Substitution fills the pieces of a text. -/
theorem substitute_ok_iff {path : String} {rounds : Nat} {text result : List Char}
    {pieces : List (Template.Piece Char String)} (parses : Template.Parses holeAt text pieces)
    (enough : text.length ≤ rounds) :
    substitute (lookup platform params path) rounds text = .ok result ↔
      Template.fill (runText platform params) pieces = some result := by
  induction parses generalizing rounds result with
  | nil => cases rounds <;> simp [substitute]
  | @hole text after name pieces found _ ih =>
      have shorter := consumes_holeAt _ _ _ found
      obtain ⟨⟨chars, rest⟩, matched, found_eq⟩ := Option.map_eq_some_iff.mp found
      cases found_eq
      cases rounds with
      | zero => omega
      | succ rounds =>
          cases text with
          | nil => cases matched
          | cons char text =>
              have later (filled : List Char) := @ih rounds filled
                (by simp only [List.length_cons] at enough shorter ⊢; omega)
              rw [Template.fill_hole, substitute, matched]
              simp only [bind, bind_eq_ok_iff, later, lookup_ok_iff, pure, Except.pure,
                Except.ok.injEq]
              constructor
              · rintro ⟨value, value_eq, filled, fill_eq, rfl⟩
                exact ⟨value.toList, filled, value_eq, fill_eq, rfl⟩
              · rintro ⟨value, filled, value_eq, fill_eq, rfl⟩
                refine ⟨String.ofList value, ?_, filled, fill_eq, ?_⟩ <;> rw [String.toList_ofList]
                exact value_eq
  | symbol absent _ ih =>
      cases rounds with
      | zero => simp at enough
      | succ rounds =>
          have later (filled : List Char) := @ih rounds filled (by simpa using enough)
          rw [Template.fill_symbol, substitute, Option.map_eq_none_iff.mp absent]
          simp only [bind, bind_eq_ok_iff, later, pure, Except.pure, Except.ok.injEq]
          exact exists_congr fun _ => and_congr_right fun _ => eq_comm

variable (platform params)

/-- A text with its placeholders replaced by their run values. -/
def TextRendersTo (text result : String) : Prop :=
  ∃ pieces, Template.Parses holeAt text.toList pieces ∧
    Template.fill (runText platform params) pieces = some result.toList

variable {platform params}

/-- A string is rendered if its placeholders can be replaced, and if no double braces are left
where there was one. -/
theorem renderText_ok_iff {path text result : String} :
    renderText platform params false path text = .ok result ↔
      TextRendersTo platform params text result ∧
        (hasPlaceholder text.toList = true → PairFree result.toList) := by
  obtain ⟨pieces, parses⟩ := Template.exists_parses consumes_holeAt text.toList
  have fills_iff : TextRendersTo platform params text result ↔
      Template.fill (runText platform params) pieces = some result.toList := by
    constructor
    · rintro ⟨others, again, fills⟩
      rwa [parses.unique consumes_holeAt again]
    · exact fun fills => ⟨pieces, parses, fills⟩
  rw [fills_iff]
  unfold renderText
  dsimp only
  cases found : hasPlaceholder text.toList with
  | false =>
      have no_holes : Template.names pieces = [] := by
        by_contra holes
        rw [(hasPlaceholder_iff parses).mpr holes] at found
        cases found
      rw [parses.eq_map_of_names_nil no_holes, Template.fill_symbols]
      simp [String.toList_inj]
  | true =>
      obtain ⟨name, rest, names_eq⟩ :=
        List.exists_cons_of_ne_nil ((hasPlaceholder_iff parses).mp found)
      rw [Bool.not_true, if_neg (by decide), if_neg (by decide)]
      cases params with
      | nil =>
          refine ⟨nofun, fun ⟨fills, _⟩ => ?_⟩
          obtain ⟨_, value_eq⟩ :=
            Template.exists_of_fill fills name (names_eq ▸ List.mem_cons_self)
          cases value_eq
      | cons param params =>
          rw [List.isEmpty_cons, if_neg (by decide)]
          simp only [bind, bind_eq_ok_iff, substitute_ok_iff parses le_rfl]
          constructor
          · rintro ⟨filled, fill_eq, result_eq⟩
            split at result_eq
            next => cases result_eq
            next unpaired =>
              cases result_eq
              rw [String.toList_ofList]
              exact ⟨fill_eq, fun _ => (pairFree_iff _).mpr (Bool.eq_false_of_not_eq_true unpaired)⟩
          · rintro ⟨fill_eq, unpaired⟩
            refine ⟨result.toList, fill_eq, ?_⟩
            rw [if_neg (Bool.not_eq_true _ ▸ (pairFree_iff _).mp (unpaired trivial)),
              String.ofList_toList]
            rfl

end Fills

/-! ## Rendered values -/

section Values

variable (platform : Platform) (params : Params)

mutual

/-- A value with the placeholders of all of its strings replaced by their run values. -/
inductive RendersTo : Value → Value → Prop
  | none : RendersTo .none .none
  | bool (value : Bool) : RendersTo (.bool value) (.bool value)
  | int (value : Int) : RendersTo (.int value) (.int value)
  | float (value : PyFloat) : RendersTo (.float value) (.float value)
  | str {text result : String} (renders : TextRendersTo platform params text result) :
      RendersTo (.str text) (.str result)
  | list {items results : List Value} (renders : ItemsRenderTo items results) :
      RendersTo (.list items) (.list results)
  | dict {fields results : Params} (renders : FieldsRenderTo fields results) :
      RendersTo (.dict fields) (.dict results)

inductive ItemsRenderTo : List Value → List Value → Prop
  | nil : ItemsRenderTo [] []
  | cons {item result : Value} {rest others : List Value} (renders : RendersTo item result)
      (more : ItemsRenderTo rest others) : ItemsRenderTo (item :: rest) (result :: others)

inductive FieldsRenderTo : Params → Params → Prop
  | nil : FieldsRenderTo [] []
  | cons {key : String} {item result : Value} {rest others : Params}
      (renders : RendersTo item result) (more : FieldsRenderTo rest others) :
      FieldsRenderTo ((key, item) :: rest) ((key, result) :: others)

end

end Values

section Trees

variable {platform : Platform} {params : Params}

/-- A string and what becomes of it. -/
def LeafRendersTo (platform : Platform) (params : Params) (text result : String) : Prop :=
  TextRendersTo platform params text result ∧
    (hasPlaceholder text.toList = true → PairFree result.toList)

theorem LeafRendersTo.eq_of_literal {text result : String}
    (leaf : LeafRendersTo platform params text result)
    (literal : hasPlaceholder text.toList = false) : result = text := by
  obtain ⟨⟨pieces, parses, fills⟩, _⟩ := leaf
  have no_holes : Template.names pieces = [] := by
    by_contra holes
    rw [(hasPlaceholder_iff parses).mpr holes] at literal
    cases literal
  rw [parses.eq_map_of_names_nil no_holes, Template.fill_symbols] at fills
  exact (String.toList_inj.mp (Option.some.inj fills)).symm

/-- Double braces outside of the placeholders of a text make its rendering fail. -/
theorem not_leafRendersTo {text result : String} (found : hasPlaceholder text.toList = true)
    (stray : Stray text.toList) : ¬LeafRendersTo platform params text result := by
  rintro ⟨⟨pieces, parses, fills⟩, free⟩
  obtain ⟨others, again, pair, member, inside⟩ := stray
  rw [← parses.unique consumes_holeAt again] at inside
  exact free found pair member (Template.infix_fill inside fills)

mutual

theorem render_ok {path : String} {value rendered : Value}
    (ok : render platform params false path value = .ok rendered) :
    RendersTo platform params value rendered ∧ keysIn rendered = keysIn value ∧
      List.Forall₂ (LeafRendersTo platform params) (stringsIn value) (stringsIn rendered) := by
  cases value with
  | none =>
      cases ok
      exact ⟨.none, rfl, .nil⟩
  | bool value =>
      cases ok
      exact ⟨.bool value, rfl, .nil⟩
  | int value =>
      cases ok
      exact ⟨.int value, rfl, .nil⟩
  | float value =>
      cases ok
      exact ⟨.float value, rfl, .nil⟩
  | str text =>
      obtain ⟨result, text_ok, rfl⟩ := map_eq_ok_iff.mp ok
      have leaf := renderText_ok_iff.mp text_ok
      exact ⟨.str leaf.1, rfl, .cons leaf .nil⟩
  | list items =>
      obtain ⟨results, items_ok, rfl⟩ := map_eq_ok_iff.mp ok
      obtain ⟨renders, keys, strings⟩ := renderItems_ok items_ok
      exact ⟨.list renders, keys, strings⟩
  | dict fields =>
      obtain ⟨results, fields_ok, rfl⟩ := map_eq_ok_iff.mp ok
      obtain ⟨renders, keys, strings⟩ := renderFields_ok fields_ok
      exact ⟨.dict renders, keys, strings⟩

theorem renderItems_ok {path : String} {index : Nat} {items results : List Value}
    (ok : render.renderItems platform params false path index items = .ok results) :
    ItemsRenderTo platform params items results ∧
      keysIn.itemKeys results = keysIn.itemKeys items ∧
      List.Forall₂ (LeafRendersTo platform params) (stringsIn.itemStrings items)
        (stringsIn.itemStrings results) := by
  cases items with
  | nil =>
      cases ok
      exact ⟨.nil, rfl, .nil⟩
  | cons item rest =>
      unfold render.renderItems at ok
      simp only [bind, bind_eq_ok_iff] at ok
      obtain ⟨result, item_ok, others, rest_ok, results_eq⟩ := ok
      cases results_eq
      obtain ⟨renders, keys, strings⟩ := render_ok item_ok
      obtain ⟨more, more_keys, more_strings⟩ := renderItems_ok rest_ok
      refine ⟨.cons renders more, ?_, List.rel_append strings more_strings⟩
      rw [keysIn.itemKeys, keysIn.itemKeys, keys, more_keys]

theorem renderFields_ok {path : String} {fields results : Params}
    (ok : render.renderFields platform params false path fields = .ok results) :
    FieldsRenderTo platform params fields results ∧
      keysIn.fieldKeys results = keysIn.fieldKeys fields ∧
      List.Forall₂ (LeafRendersTo platform params) (stringsIn.fieldStrings fields)
        (stringsIn.fieldStrings results) := by
  cases fields with
  | nil =>
      cases ok
      exact ⟨.nil, rfl, .nil⟩
  | cons field rest =>
      obtain ⟨key, item⟩ := field
      unfold render.renderFields at ok
      simp only [bind, bind_eq_ok_iff] at ok
      obtain ⟨result, item_ok, others, rest_ok, results_eq⟩ := ok
      cases results_eq
      obtain ⟨renders, keys, strings⟩ := render_ok item_ok
      obtain ⟨more, more_keys, more_strings⟩ := renderFields_ok rest_ok
      refine ⟨.cons renders more, ?_, List.rel_append strings more_strings⟩
      rw [keysIn.fieldKeys, keysIn.fieldKeys, keys, more_keys]

end

mutual

/-- A value is rendered if each of its strings is. -/
theorem exists_render {value : Value} (path : String)
    (leaves : ∀ text ∈ stringsIn value, ∃ result, LeafRendersTo platform params text result) :
    ∃ rendered, render platform params false path value = .ok rendered := by
  cases value with
  | none | bool | int | float => exact ⟨_, rfl⟩
  | str text =>
      obtain ⟨result, leaf⟩ := leaves text (List.mem_singleton.mpr rfl)
      exact ⟨.str result, map_eq_ok_iff.mpr ⟨result, renderText_ok_iff.mpr leaf, rfl⟩⟩
  | list items =>
      obtain ⟨results, items_ok⟩ := exists_renderItems path 0 leaves
      exact ⟨.list results, map_eq_ok_iff.mpr ⟨results, items_ok, rfl⟩⟩
  | dict fields =>
      obtain ⟨results, fields_ok⟩ := exists_renderFields path leaves
      exact ⟨.dict results, map_eq_ok_iff.mpr ⟨results, fields_ok, rfl⟩⟩

theorem exists_renderItems {items : List Value} (path : String) (index : Nat)
    (leaves : ∀ text ∈ stringsIn.itemStrings items, ∃ result,
      LeafRendersTo platform params text result) :
    ∃ results, render.renderItems platform params false path index items = .ok results := by
  cases items with
  | nil => exact ⟨[], rfl⟩
  | cons item rest =>
      rw [stringsIn.itemStrings] at leaves
      obtain ⟨result, item_ok⟩ := exists_render (path ++ "[" ++ toString index ++ "]")
        fun text member => leaves text (List.mem_append_left _ member)
      obtain ⟨others, rest_ok⟩ := exists_renderItems path (index + 1)
        fun text member => leaves text (List.mem_append_right _ member)
      refine ⟨result :: others, ?_⟩
      rw [render.renderItems, item_ok, rest_ok]
      rfl

theorem exists_renderFields {fields : Params} (path : String)
    (leaves : ∀ text ∈ stringsIn.fieldStrings fields, ∃ result,
      LeafRendersTo platform params text result) :
    ∃ results, render.renderFields platform params false path fields = .ok results := by
  cases fields with
  | nil => exact ⟨[], rfl⟩
  | cons field rest =>
      obtain ⟨key, item⟩ := field
      rw [stringsIn.fieldStrings] at leaves
      obtain ⟨result, item_ok⟩ := exists_render (path ++ "." ++ key)
        fun text member => leaves text (List.mem_append_left _ member)
      obtain ⟨others, rest_ok⟩ := exists_renderFields path
        fun text member => leaves text (List.mem_append_right _ member)
      refine ⟨(key, result) :: others, ?_⟩
      rw [render.renderFields, item_ok, rest_ok]
      rfl

end

end Trees

/-! ## Clean results -/

/-- The strings of a template that are not checked: its keys, and those without placeholder. -/
def literals (template : Params) : List String :=
  keysIn (.dict template) ++
    (stringsIn (.dict template)).filter fun text => !hasPlaceholder text.toList

/-- Every placeholder is replaced, and no double braces are left in any string. -/
structure CleanlyRendered (platform : Platform) (params template rendered : Params) : Prop where
  replaced : FieldsRenderTo platform params template rendered
  pairFree : ∀ text ∈ keysIn (.dict rendered) ++ stringsIn (.dict rendered), PairFree text.toList

/-- Rendering with the parameters of a run fails or leaves a clean result. -/
def RendersCleanly (platform : Platform) (step : WorkflowStep) (params : Params) : Prop :=
  ∀ rendered, renderWorkflowParams platform step params false = .ok rendered →
    CleanlyRendered platform params step.params rendered

/-- No unchecked string has double braces, or a checked one has them outside of its
placeholders, so that rendering always fails. -/
def BracesGuarded (step : WorkflowStep) : Prop :=
  (∀ text ∈ literals step.params, PairFree text.toList) ∨
    ∃ text ∈ stringsIn (.dict step.params),
      hasPlaceholder text.toList = true ∧ Stray text.toList

theorem exists_of_forall₂ {α β : Type*} {related : α → β → Prop} {lefts : List α}
    {rights : List β} (all : List.Forall₂ related lefts rights) {right : β}
    (member : right ∈ rights) : ∃ left ∈ lefts, related left right := by
  induction all with
  | nil => cases member
  | cons first _ ih =>
      obtain rfl | later := List.mem_cons.mp member
      · exact ⟨_, List.mem_cons_self, first⟩
      · obtain ⟨left, found, holds⟩ := ih later
        exact ⟨left, List.mem_cons_of_mem _ found, holds⟩

section Clean

variable {platform : Platform} {params template rendered : Params}

/-- What is rendered from literals without double braces is clean. -/
theorem cleanlyRendered_of_literals {path : String}
    (free : ∀ text ∈ literals template, PairFree text.toList)
    (ok : render.renderFields platform params false path template = .ok rendered) :
    CleanlyRendered platform params template rendered := by
  obtain ⟨renders, keys, strings⟩ := renderFields_ok ok
  refine ⟨renders, fun text member => ?_⟩
  obtain key | leaf := List.mem_append.mp member
  · refine free text (List.mem_append_left _ ?_)
    rwa [keysIn, keys] at key
  · obtain ⟨source, from_template, renders_to⟩ := exists_of_forall₂ strings leaf
    cases found : hasPlaceholder source.toList with
    | true => exact renders_to.2 found
    | false =>
        rw [renders_to.eq_of_literal found]
        refine free source (List.mem_append_right _ (List.mem_filter.mpr ⟨from_template, ?_⟩))
        rw [found, Bool.not_false]

/-- Parameters that give one letter to every name. -/
def letters (names : List String) : Params :=
  names.map fun name => (name, .str (String.ofList ['x']))

theorem runText_letters {names : List String} {name : String} (given : name ∈ names) :
    runText platform (letters names) name = some ['x'] := by
  have found : List.lookup name (letters names) = some (.str (String.ofList ['x'])) := by
    unfold letters
    induction names with
    | nil => cases given
    | cons first rest ih =>
        rw [List.map_cons, List.lookup_cons]
        split
        next => rfl
        next other =>
          refine ih ((List.mem_cons.mp given).resolve_left fun same => ?_)
          rw [same, beq_self_eq_true] at other
          cases other
  unfold runText
  rw [found]
  simp [Value.pyStr]

/-- With a letter in every placeholder, a text has the double braces that it has outside of
them. -/
theorem leafRendersTo_letters {text : String} {names : List String}
    (given : ∀ pieces, Template.Parses holeAt text.toList pieces →
      ∀ name ∈ Template.names pieces, name ∈ names)
    (plain : ¬(hasPlaceholder text.toList = true ∧ Stray text.toList)) :
    ∃ result, LeafRendersTo platform (letters names) text result := by
  obtain ⟨pieces, parses⟩ := Template.exists_parses consumes_holeAt text.toList
  have fills := @Template.fill_const _ _ (runText platform (letters names)) pieces 'x'
    fun name member => runText_letters (given pieces parses name member)
  refine ⟨String.ofList _, ⟨pieces, parses, by rw [String.toList_ofList]; exact fills⟩, ?_⟩
  rw [String.toList_ofList]
  intro found pair member inside
  obtain ⟨own, within, pair_eq⟩ := List.infix_map_iff.mp inside
  refine plain ⟨found, pieces, parses, pair, member, ?_⟩
  have own_eq : pair.map Template.Piece.symbol = own := by
    rw [pair_eq, List.map_map]
    refine (List.map_congr_left fun piece in_own => ?_).trans (List.map_id own)
    cases piece with
    | symbol => rfl
    | hole name =>
        have letter : 'x' ∈ pair := pair_eq ▸ List.mem_map.mpr ⟨_, in_own, rfl⟩
        have no_letter : ∀ pair ∈ braces, 'x' ∉ pair := by decide
        exact absurd letter (no_letter pair member)
  rwa [own_eq]

/-- A template whose literals have double braces is rendered with them by some parameters,
unless it is never rendered. -/
theorem exists_render_letters
    (plain : ¬∃ text ∈ stringsIn (.dict template),
      hasPlaceholder text.toList = true ∧ Stray text.toList) (path : String) :
    ∃ params rendered, render.renderFields platform params false path template = .ok rendered := by
  choose pieces parses using fun text : String =>
    Template.exists_parses consumes_holeAt text.toList
  let names := (stringsIn (.dict template)).flatMap fun text => Template.names (pieces text)
  refine ⟨letters names, exists_renderFields path fun text member => ?_⟩
  refine leafRendersTo_letters (fun others again name named => ?_)
    (fun stray => plain ⟨text, member, stray⟩)
  rw [again.unique consumes_holeAt (parses text)] at named
  exact List.mem_flatMap.mpr ⟨text, member, named⟩

end Clean

/-- Rendering leaves clean results for all parameters of runs if and only if the braces of the
template are guarded. -/
theorem rendersCleanly_iff (platform : Platform) (step : WorkflowStep) :
    (∀ params, RendersCleanly platform step params) ↔ BracesGuarded step := by
  constructor
  · intro clean
    by_contra unguarded
    obtain ⟨unfree, plain⟩ := not_or.mp unguarded
    obtain ⟨params, rendered, ok⟩ :=
      @exists_render_letters platform step.params plain ("step." ++ step.id)
    obtain ⟨_, keys, strings⟩ := renderFields_ok ok
    refine unfree fun text member => ?_
    have free := (clean params rendered ok).pairFree
    obtain key | leaf := List.mem_append.mp member
    · refine free text (List.mem_append_left _ ?_)
      rwa [keysIn, keys]
    · obtain ⟨from_template, literal⟩ := List.mem_filter.mp leaf
      obtain ⟨result, found, renders_to⟩ := exists_of_forall₂ strings.flip from_template
      have renders_to : LeafRendersTo platform params text result := renders_to
      rw [← renders_to.eq_of_literal (by simpa using literal)]
      exact free result (List.mem_append_right _ found)
  · rintro (free | ⟨text, member, found, stray⟩) params rendered ok
    · exact cleanlyRendered_of_literals free ok
    · obtain ⟨_, _, strings⟩ := renderFields_ok ok
      obtain ⟨result, _, renders_to⟩ := exists_of_forall₂ strings.flip member
      exact absurd renders_to (not_leafRendersTo found stray)

namespace Demo

/-- A greeting whose placeholder has a blank in its name. -/
def greeting : WorkflowStep :=
  { id := "greet", action := "browser.fill"
    params := [("text", .str "Hello \x7b\x7bfirst name\x7d\x7d")] }

end Demo

/-- The greeting is rendered with its double braces. -/
theorem not_rendersCleanly :
    ¬RendersCleanly Platform.plain Demo.greeting [("name", .str "Alice")] := by
  intro clean
  have free := (clean Demo.greeting.params rfl).pairFree "Hello \x7b\x7bfirst name\x7d\x7d"
    (by decide)
  rw [pairFree_iff] at free
  exact absurd free (by decide)

end Era.Workflows
