import Mathlib.Data.List.Infix
import Mathlib.Tactic.TypeStar

/-!
# Templates with holes

A template is a text in which some places, the holes, stand for values.  Reading it from the
left splits it into pieces: a hole where one is found, and a single symbol elsewhere.  To fill a
template is to put the values into the holes of its pieces, so a value is never read again.
-/

namespace Era.Lib.Template

variable {Symbol Name : Type*}

inductive Piece (Symbol Name : Type*) where
  | symbol (symbol : Symbol)
  | hole (name : Name)

variable (hole? : List Symbol → Option (Name × List Symbol))

/-- The pieces of a text, where `hole?` finds a hole at its start and what follows. -/
inductive Parses : List Symbol → List (Piece Symbol Name) → Prop
  | nil : Parses [] []
  | hole {text after : List Symbol} {name : Name} {pieces : List (Piece Symbol Name)}
      (found : hole? text = some (name, after)) (more : Parses after pieces) :
      Parses text (.hole name :: pieces)
  | symbol {symbol : Symbol} {rest : List Symbol} {pieces : List (Piece Symbol Name)}
      (absent : hole? (symbol :: rest) = none) (more : Parses rest pieces) :
      Parses (symbol :: rest) (.symbol symbol :: pieces)

/-- Every hole consumes a part of the text. -/
def Consumes : Prop :=
  ∀ text name after, hole? text = some (name, after) → after.length < text.length

variable {hole?}

/-- By induction on the length of the text. -/
theorem exists_parses (consumes : Consumes hole?) (text : List Symbol) :
    ∃ pieces, Parses hole? text pieces := by
  induction length_eq : text.length using Nat.strong_induction_on generalizing text with
  | _ length ih =>
      cases found : hole? text with
      | some hole =>
          obtain ⟨name, after⟩ := hole
          obtain ⟨pieces, more⟩ := ih _ (length_eq ▸ consumes _ _ _ found) after rfl
          exact ⟨_, .hole found more⟩
      | none =>
          cases text with
          | nil => exact ⟨[], .nil⟩
          | cons symbol rest =>
              obtain ⟨pieces, more⟩ := ih _ (by simp [← length_eq]) rest rfl
              exact ⟨_, .symbol found more⟩

theorem Parses.unique (consumes : Consumes hole?) {text : List Symbol}
    {pieces others : List (Piece Symbol Name)} (parses : Parses hole? text pieces)
    (other : Parses hole? text others) : pieces = others := by
  induction parses generalizing others with
  | nil =>
      cases other with
      | nil => rfl
      | hole found _ => cases consumes _ _ _ found
  | hole found _ ih =>
      cases other with
      | nil => cases consumes _ _ _ found
      | hole again more =>
          rw [found] at again
          cases again
          rw [ih more]
      | symbol absent _ =>
          rw [found] at absent
          cases absent
  | symbol absent _ ih =>
      cases other with
      | hole found _ =>
          rw [absent] at found
          cases found
      | symbol _ more => rw [ih more]

/-! ## Filling -/

/-- The names of the holes. -/
def names : List (Piece Symbol Name) → List Name
  | [] => []
  | .symbol _ :: rest => names rest
  | .hole name :: rest => name :: names rest

/-- The text with a value for each hole, if there is one for each. -/
def fill (value : Name → Option (List Symbol)) :
    List (Piece Symbol Name) → Option (List Symbol)
  | [] => some []
  | .symbol symbol :: rest => (fill value rest).map (symbol :: ·)
  | .hole name :: rest => do
      let found ← value name
      let filled ← fill value rest
      return found ++ filled

/-- A text without holes is the list of its pieces. -/
theorem Parses.eq_map_of_names_nil {text : List Symbol} {pieces : List (Piece Symbol Name)}
    (parses : Parses hole? text pieces) (no_holes : names pieces = []) :
    pieces = text.map Piece.symbol := by
  induction parses with
  | nil => rfl
  | hole => cases no_holes
  | symbol _ _ ih => rw [List.map_cons, ← ih no_holes]

section Fill

variable {value : Name → Option (List Symbol)} {text filled : List Symbol}
variable {pieces : List (Piece Symbol Name)}

@[simp] theorem fill_nil : fill value ([] : List (Piece Symbol Name)) = some [] := rfl

theorem fill_symbol {symbol : Symbol} :
    fill value (.symbol symbol :: pieces) = some filled ↔
      ∃ rest, fill value pieces = some rest ∧ filled = symbol :: rest := by
  rw [fill, Option.map_eq_some_iff]
  exact exists_congr fun rest => and_congr_right fun _ => eq_comm

theorem fill_hole {name : Name} :
    fill value (.hole name :: pieces) = some filled ↔
      ∃ found rest, value name = some found ∧ fill value pieces = some rest ∧
        filled = found ++ rest := by
  rw [fill]
  cases value name <;> cases fill value pieces <;> simp [eq_comm]

/-- A filled template has a value for each of its holes. -/
theorem exists_of_fill (filled_eq : fill value pieces = some filled) :
    ∀ name ∈ names pieces, ∃ found, value name = some found := by
  induction pieces generalizing filled with
  | nil => exact nofun
  | cons piece rest ih =>
      cases piece with
      | symbol symbol =>
          obtain ⟨_, rest_eq, _⟩ := fill_symbol.mp filled_eq
          exact ih rest_eq
      | hole name =>
          obtain ⟨found, _, value_eq, rest_eq, _⟩ := fill_hole.mp filled_eq
          intro other member
          obtain rfl | later := List.mem_cons.mp member
          · exact ⟨found, value_eq⟩
          · exact ih rest_eq other later

theorem fill_append {others : List (Piece Symbol Name)} :
    fill value (pieces ++ others) = some filled ↔
      ∃ front back, fill value pieces = some front ∧ fill value others = some back ∧
        filled = front ++ back := by
  induction pieces generalizing filled with
  | nil => simp
  | cons piece rest ih =>
      cases piece with
      | symbol symbol =>
          simp only [List.cons_append, fill_symbol, ih]
          constructor
          · rintro ⟨_, ⟨front, back, front_eq, back_eq, rfl⟩, rfl⟩
            exact ⟨symbol :: front, back, ⟨front, front_eq, rfl⟩, back_eq, rfl⟩
          · rintro ⟨_, back, ⟨front, front_eq, rfl⟩, back_eq, rfl⟩
            exact ⟨front ++ back, ⟨front, back, front_eq, back_eq, rfl⟩, rfl⟩
      | hole name =>
          simp only [List.cons_append, fill_hole, ih]
          constructor
          · rintro ⟨found, _, value_eq, ⟨front, back, front_eq, back_eq, rfl⟩, rfl⟩
            exact ⟨found ++ front, back, ⟨found, front, value_eq, front_eq, rfl⟩, back_eq,
              (List.append_assoc _ _ _).symm⟩
          · rintro ⟨_, back, ⟨found, front, value_eq, front_eq, rfl⟩, back_eq, rfl⟩
            exact ⟨found, front ++ back, value_eq, ⟨front, back, front_eq, back_eq, rfl⟩,
              List.append_assoc _ _ _⟩

theorem fill_symbols (symbols : List Symbol) :
    fill value (symbols.map Piece.symbol) = some symbols := by
  induction symbols with
  | nil => rfl
  | cons symbol rest ih => exact fill_symbol.mpr ⟨rest, ih, rfl⟩

/-- Symbols next to each other stay so, whatever the values. -/
theorem infix_fill {symbols : List Symbol}
    (inside : symbols.map Piece.symbol <:+: pieces) (filled_eq : fill value pieces = some filled) :
    symbols <:+: filled := by
  obtain ⟨before, after, rfl⟩ := inside
  obtain ⟨_, back, front_eq, _, rfl⟩ := fill_append.mp filled_eq
  obtain ⟨front, middle, _, middle_eq, rfl⟩ := fill_append.mp front_eq
  rw [fill_symbols] at middle_eq
  obtain rfl := Option.some.inj middle_eq
  exact ⟨front, back, rfl⟩

/-- If every value is one symbol, a filled text has a symbol for each piece. -/
theorem fill_const {symbol : Symbol} (const : ∀ name ∈ names pieces, value name = some [symbol]) :
    fill value pieces = some (pieces.map fun
      | .symbol own => own
      | .hole _ => symbol) := by
  induction pieces with
  | nil => rfl
  | cons piece rest ih =>
      cases piece with
      | symbol own => exact fill_symbol.mpr ⟨_, ih const, rfl⟩
      | hole name =>
          exact fill_hole.mpr ⟨_, _, const name List.mem_cons_self,
            ih fun other member => const other (List.mem_cons_of_mem _ member), rfl⟩

end Fill

end Era.Lib.Template
