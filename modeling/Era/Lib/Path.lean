import Era.Lib.Machine

/-!
# The path of a system that is left alone

A system whose next input is determined by its state follows one path.  A path is built from
its pieces, it ends where the system no longer moves, and two of its states lie one after the
other.
-/

namespace Era.Lib

universe u v w

variable {State : Type u} {Event : Type v}

/-- The path from one state to another, with the events on it.  All states that it leaves have
a property. -/
inductive Path (move : State → State × List Event) (leaves : State → Prop) :
    State → List Event → State → Prop where
  | here (state : State) : Path move leaves state [] state
  | step {state finish : State} {events : List Event} (left : leaves state)
      (rest : Path move leaves (move state).1 events finish) :
      Path move leaves state ((move state).2 ++ events) finish

namespace Path

variable {move : State → State × List Event} {leaves : State → Prop}
variable {start middle finish : State} {events later : List Event}

theorem one (left : leaves start) : Path move leaves start (move start).2 (move start).1 := by
  have path := step left (here (move start).1)
  rwa [List.append_nil] at path

theorem trans (first : Path move leaves start events middle)
    (second : Path move leaves middle later finish) :
    Path move leaves start (events ++ later) finish := by
  induction first with
  | here => exact second
  | step left rest ih =>
      rw [List.append_assoc]
      exact step left (ih second)

/-- A system that does not move stays where it is. -/
theorem eq_of_still (still : move start = (start, []))
    (path : Path move leaves start events finish) : finish = start ∧ events = [] := by
  generalize begin_eq : start = begin at path
  induction path with
  | here => exact ⟨rfl, rfl⟩
  | step left rest ih =>
      subst begin_eq
      rw [still] at ih
      obtain ⟨finish_eq, events_eq⟩ := ih rfl
      rw [still, events_eq]
      exact ⟨finish_eq, rfl⟩

/-- A state without the property lies behind every path whose states have it. -/
theorem past {other : State → Prop} {further : List Event} {far : State}
    (path : Path move leaves start events finish)
    (beyond : Path move other start further far) (not_left : ¬leaves far) :
    ∃ between, further = events ++ between ∧ Path move other finish between far := by
  induction path generalizing further with
  | here => exact ⟨further, rfl, beyond⟩
  | step left rest ih =>
      cases beyond with
      | here => exact absurd left not_left
      | step left_too beyond_rest =>
          obtain ⟨between, further_eq, path_between⟩ := ih beyond_rest
          exact ⟨between, by rw [further_eq, List.append_assoc], path_between⟩

theorem mono {weaker : State → Prop} (path : Path move leaves start events finish)
    (weaken : ∀ state, leaves state → weaker state) :
    Path move weaker start events finish := by
  induction path with
  | here state => exact .here state
  | step left rest ih => exact .step (weaken _ left) ih

/-- A path is followed by every system in which it can be embedded. -/
theorem map {Other : Type w} {otherMove : Other → Other × List Event} {otherLeaves : Other → Prop}
    {embed : State → Other}
    (commutes : ∀ state, otherMove (embed state) = (embed (move state).1, (move state).2))
    (embedded : ∀ state, leaves state → otherLeaves (embed state))
    (path : Path move leaves start events finish) :
    Path otherMove otherLeaves (embed start) events (embed finish) := by
  induction path with
  | here state => exact .here (embed state)
  | @step state finish events left rest ih =>
      have moved := commutes state
      have path := @Path.step Other Event otherMove otherLeaves (embed state) (embed finish) events
        (embedded state left) (by rw [moved]; exact ih)
      rw [moved] at path
      exact path

/-- A path in a system in which another is embedded is one of the other. -/
theorem pull {Other : Type w} {otherMove : Other → Other × List Event} {embed : State → Other}
    {far : Other}
    (commutes : ∀ state, otherMove (embed state) = (embed (move state).1, (move state).2))
    (path : Path otherMove (fun _ => True) (embed start) events far) :
    ∃ finish, far = embed finish ∧ Path move (fun _ => True) start events finish := by
  generalize begin_eq : embed start = begin at path
  induction path generalizing start with
  | here state => exact ⟨start, begin_eq.symm, .here start⟩
  | step left rest ih =>
      subst begin_eq
      rw [commutes] at ih
      obtain ⟨finish, far_eq, pulled⟩ := ih rfl
      rw [commutes]
      exact ⟨finish, far_eq, .step True.intro pulled⟩

end Path

namespace Machine

variable {Input Output : Type*} (machine : Machine State Input Output)

/-- The next inputs, if they are chosen by the state. -/
def chosen (choose : State → Input) : Nat → State → List Input
  | 0, _ => []
  | moves + 1, state =>
      choose state :: chosen choose moves (machine.step state (choose state)).1

variable {machine} {choose : State → Input} {shows : Output → List Event}

/-- The move of a machine whose inputs are chosen. -/
def alone (machine : Machine State Input Output) (choose : State → Input)
    (shows : Output → List Event) (state : State) : State × List Event :=
  ((machine.step state (choose state)).1, shows (machine.step state (choose state)).2)

theorem path_chosen (moves : Nat) (start : State) :
    Path (machine.alone choose shows) (fun _ => True) start
      (machine.trace shows start (machine.chosen choose moves start))
      (machine.stateAfter start (machine.chosen choose moves start)) := by
  induction moves generalizing start with
  | zero => exact .here start
  | succ moves ih => exact .step True.intro (ih _)

/-- Every path of the machine is a run on chosen inputs. -/
theorem exists_chosen {leaves : State → Prop} {start finish : State} {events : List Event}
    (path : Path (machine.alone choose shows) leaves start events finish) :
    ∃ moves, machine.trace shows start (machine.chosen choose moves start) = events ∧
      machine.stateAfter start (machine.chosen choose moves start) = finish := by
  induction path with
  | here state => exact ⟨0, rfl, rfl⟩
  | step left rest ih =>
      obtain ⟨moves, events_eq, finish_eq⟩ := ih
      exact ⟨moves + 1, by rw [← events_eq]; rfl, finish_eq⟩

end Machine

end Era.Lib
