import Era.Lib.Path
import Era.Workflows.Rest

/-!
# The reconciliation of waiting steps

At the head of its loop `_advance` turns to the steps that wait for a confirmation, one after
the other.  Left alone, a call gets through all of them unless one of them stops it.
-/

namespace Era.Workflows

open Era.Core Era.Lib Era.Services

/-! ## One waiting step -/

/-- What `_handle_waiting_step` returns; a step that fails has failed the run. -/
inductive WaitingOutcome where
  | stillWaiting
  | next
  | deniedSkip
  | deniedStop
  | failed (message : String)

/-- Whether the loop is left. -/
def WaitingOutcome.stops : WaitingOutcome → Bool
  | .deniedStop | .failed _ => true
  | .stillWaiting | .next | .deniedSkip => false

/-- Whether the row of the step is changed. -/
def WaitingOutcome.changes : WaitingOutcome → Bool
  | .next | .deniedSkip => true
  | .stillWaiting | .deniedStop | .failed _ => false

/-- The confirmation that the step of a row waits for. -/
def confirmationAt (rows : List WorkflowStepRun) (index : Nat) : Option String :=
  (rows[index]?.bind WorkflowStepRun.confirmationId).filter (· != "")

/-- `_handle_waiting_step` in one piece. -/
def handleWaitingStep (service : WorkflowService) (confirmations : String → Option Status)
    (run : WorkflowRun) (rows : List WorkflowStepRun) (reading : Reading) (index : Nat) :
    WaitingOutcome :=
  match confirmationAt rows index with
  | none => .failed "waiting step has no confirmation record"
  | some confirmationId =>
      match confirmations confirmationId with
      | none => .failed "confirmation record is missing"
      | some .pending => .stillWaiting
      | some .used =>
          match dispatchOutcome reading.outcomes with
          | some .executed =>
              if (postCondition service run reading).1 then .next
              else .failed "approved step failed post-condition revalidation"
          | some outcome =>
              .failed ("approved step dispatch did not succeed (outcome=" ++ outcome.value ++ ")")
          | none => .failed "approved step has no recorded dispatch outcome"
      | some .denied =>
          match reading.stepDef.map WorkflowStep.onDenied with
          | some .skip => .deniedSkip
          | _ => .deniedStop
      | some .expired => .failed "confirmation expired"

/-- What becomes of the row. -/
def WaitingOutcome.mark (confirmationId : Option String) :
    WaitingOutcome → WorkflowStepRun → WorkflowStepRun
  | .next => settleStep confirmationId
  | .deniedSkip => skipStep
  | .stillWaiting | .deniedStop | .failed _ => id

/-- What becomes of the rows of the steps. -/
def Store.marked (store : Store) (rows : List WorkflowStepRun) (index : Nat)
    (outcome : WaitingOutcome) : Store :=
  { store with
    steps := store.steps.modify index
      (outcome.mark (rows[index]?.bind WorkflowStepRun.confirmationId)) }

/-! ## A call that is left alone -/

/-- What a call finds around it when it reads for the first time, and for each waiting step. -/
structure Surroundings where
  first : Reading
  step : Nat → Reading

/-- What a call reads at its stage. -/
def Surroundings.reading (surroundings : Surroundings) (driver : Driver) : Reading :=
  match driver.stage with
  | .reconcile (index :: _) _ | .outcome index _ | .revalidate index _ => surroundings.step index
  | _ => surroundings.first

/-- An event that neither dispatches a step nor releases a slot nor ends the call. -/
def EngineEvent.isQuiet : EngineEvent → Bool
  | .inspected => true
  | _ => false

section Alone

variable (service : WorkflowService) (definition : WorkflowDefinition)
variable (surroundings : Surroundings)

/-- The next transaction of a call that is alone on its run. -/
def driveAlone (state : Store × Driver) : (Store × Driver) × List EngineEvent :=
  let move := drive service definition state.1 state.2 (surroundings.reading state.2)
  ((move.store, move.driver), move.events)

/-- The stages between two heads of the loop, or between a head and the end of a call. -/
def Stage.isBetween : Stage → Bool
  | .head | .off => false
  | _ => true

/-- The way of a call that is alone on its run, up to the next head of its loop or its end. -/
abbrev Way :=
  Path (driveAlone service definition surroundings) fun state => state.2.stage.isBetween = true

variable {service definition surroundings}
variable {store : Store} {driver : Driver}

theorem way_one {after : Move} (between : driver.stage.isBetween = true)
    (moved : drive service definition store driver (surroundings.reading driver) = after) :
    Way service definition surroundings (store, driver) after.events
      (after.store, after.driver) := by
  subst moved
  exact Path.one between

/-- A move without events. -/
theorem way_silent {after : Store} {next : Driver} {events : List EngineEvent}
    {finish : Store × Driver} (between : driver.stage.isBetween = true)
    (moved : drive service definition store driver (surroundings.reading driver) =
      { store := after, driver := next })
    (rest : Way service definition surroundings (after, next) events finish) :
    Way service definition surroundings (store, driver) events finish :=
  (way_one between moved).trans rest

theorem Store.marked_id (store : Store) (rows : List WorkflowStepRun) (index : Nat) :
    store.marked rows index .stillWaiting = store := by
  unfold Store.marked WaitingOutcome.mark
  rw [List.modify_id]

/-- The post-condition of an approved step that has been executed is checked. -/
theorem way_revalidate {index : Nat} {rest : List Nat}
    (at_revalidate : driver.stage = .revalidate index rest) :
    ∃ events, events.all EngineEvent.isQuiet = true ∧
      ((postCondition service driver.run (surroundings.step index)).1 = true →
        Way service definition surroundings (store, driver) events
          (store.marked driver.rows index .next, driver.goto (.reconcile rest true))) ∧
      ((postCondition service driver.run (surroundings.step index)).1 = false →
        Way service definition surroundings (store, driver) events
          (store, driver.goto (.persist
            (.failed "approved step failed post-condition revalidation")))) := by
  have moved : drive service definition store driver (surroundings.reading driver) =
      checkPostCondition service store driver (surroundings.step index) index rest := by
    unfold drive Surroundings.reading
    rw [at_revalidate]
  unfold checkPostCondition at moved
  dsimp only at moved
  have checks := way_one (by rw [at_revalidate]; rfl) moved
  dsimp only at checks
  have quiet : (if (postCondition service driver.run (surroundings.step index)).2 then
      [EngineEvent.inspected] else []).all EngineEvent.isQuiet = true := by
    split <;> rfl
  refine ⟨_, quiet, fun holds => ?_, fun violated => ?_⟩
  · rw [holds] at checks
    have settled : drive service definition store (driver.goto (.settle index rest))
        (surroundings.reading (driver.goto (.settle index rest))) =
          { store := store.marked driver.rows index .next
            driver := (driver.goto (.settle index rest)).goto (.reconcile rest true) } := rfl
    have way := checks.trans (way_one rfl settled)
    rwa [List.append_nil] at way
  · rw [violated] at checks
    exact checks

/-- `_handle_waiting_step` takes a call to the next waiting step, out of its loop, or to the
failure of its run. -/
theorem way_handle {index : Nat} {rest : List Nat} {changed : Bool}
    (at_reconcile : driver.stage = .reconcile (index :: rest) changed) :
    ∃ events, events.all EngineEvent.isQuiet = true ∧
      match handleWaitingStep service store.confirmations driver.run driver.rows
          (surroundings.step index) index with
      | .failed message =>
          Way service definition surroundings (store, driver) events
            (store, driver.goto (.persist (.failed message)))
      | .deniedStop =>
          Way service definition surroundings (store, driver) (events ++ [.ended .returned])
            (store, driver.stop)
      | outcome =>
          Way service definition surroundings (store, driver) events
            (store.marked driver.rows index outcome,
              driver.goto (.reconcile rest (changed || outcome.changes))) := by
  have between : driver.stage.isBetween = true := by
    rw [at_reconcile]
    rfl
  have moved : drive service definition store driver (surroundings.reading driver) =
      reconcile store driver (surroundings.step index) index rest changed := by
    unfold drive Surroundings.reading
    rw [at_reconcile]
  unfold reconcile at moved
  unfold handleWaitingStep confirmationAt
  dsimp only at moved ⊢
  cases named : (driver.rows[index]?.bind WorkflowStepRun.confirmationId).filter (· != "") with
  | none =>
      rw [named] at moved
      exact ⟨[], rfl, way_one between moved⟩
  | some confirmationId =>
      rw [named] at moved
      dsimp only at moved ⊢
      cases decided : store.confirmations confirmationId with
      | none =>
          rw [decided] at moved
          exact ⟨[], rfl, way_one between moved⟩
      | some status =>
          rw [decided] at moved
          cases status with
          | pending =>
              refine ⟨[], rfl, ?_⟩
              dsimp only
              rw [Store.marked_id, WaitingOutcome.changes, Bool.or_false]
              exact way_one between moved
          | used =>
              have looked : drive service definition store (driver.goto (.outcome index rest))
                  (surroundings.reading (driver.goto (.outcome index rest))) =
                    readOutcome store (driver.goto (.outcome index rest))
                      (surroundings.step index) index rest := rfl
              unfold readOutcome at looked
              dsimp only
              cases found : dispatchOutcome (surroundings.step index).outcomes with
              | none =>
                  rw [found] at looked
                  exact ⟨[], rfl, way_silent between moved (way_one rfl looked)⟩
              | some outcome =>
                  rw [found] at looked
                  cases outcome with
                  | executed =>
                      obtain ⟨events, quiet, settles, fails⟩ :=
                        @way_revalidate service definition surroundings store
                          (driver.goto (.revalidate index rest)) index rest rfl
                      have revalidates {finish : Store × Driver}
                          (way : Way service definition surroundings
                            (store, driver.goto (.revalidate index rest)) events finish) :
                          Way service definition surroundings (store, driver) events finish :=
                        way_silent between moved (way_silent rfl looked way)
                      refine ⟨events, quiet, ?_⟩
                      dsimp only
                      by_cases holds :
                          (postCondition service driver.run (surroundings.step index)).1 = true
                      · rw [if_pos holds]
                        dsimp only
                        rw [show (changed || WaitingOutcome.next.changes) = true from
                          Bool.or_true changed]
                        exact revalidates (settles holds)
                      · rw [if_neg holds]
                        exact revalidates (fails (Bool.eq_false_of_not_eq_true holds))
                  | _ => exact ⟨[], rfl, way_silent between moved (way_one rfl looked)⟩
          | denied =>
              dsimp only at moved ⊢
              cases found : (surroundings.step index).stepDef.map WorkflowStep.onDenied with
              | none =>
                  rw [found] at moved
                  exact ⟨[], rfl, way_one between moved⟩
              | some onDenied =>
                  rw [found] at moved
                  cases onDenied with
                  | stop => exact ⟨[], rfl, way_one between moved⟩
                  | skip =>
                      refine ⟨[], rfl, ?_⟩
                      dsimp only
                      rw [show (changed || WaitingOutcome.deniedSkip.changes) = true from
                        Bool.or_true changed]
                      exact way_silent between moved (way_one rfl rfl)
          | expired => exact ⟨[], rfl, way_one between moved⟩

/-! ## All waiting steps -/

/-- What `_handle_waiting_step` returns for a step, by what a call has read and finds. -/
def Surroundings.handled (service : WorkflowService) (surroundings : Surroundings) (store : Store)
    (driver : Driver) (index : Nat) : WaitingOutcome :=
  handleWaitingStep service store.confirmations driver.run driver.rows (surroundings.step index)
    index

/-- The rows after a pass over waiting steps. -/
def Store.markedAll (store : Store) (rows : List WorkflowStepRun)
    (handled : Nat → WaitingOutcome) (waiting : List Nat) : Store :=
  waiting.foldl (fun store index => store.marked rows index (handled index)) store

theorem Driver.goto_self {driver : Driver} {stage : Stage} (at_stage : driver.stage = stage) :
    driver.goto stage = driver := by
  subst at_stage
  rfl

theorem markedAll_run (store : Store) (rows : List WorkflowStepRun)
    (handled : Nat → WaitingOutcome) (waiting : List Nat) :
    (store.markedAll rows handled waiting).run = store.run := by
  unfold Store.markedAll
  induction waiting generalizing store with
  | nil => rfl
  | cons index rest ih => exact ih (store.marked rows index (handled index))

theorem markedAll_of_not_mem (store : Store) (rows : List WorkflowStepRun)
    (handled : Nat → WaitingOutcome) {waiting : List Nat} {index : Nat}
    (other : index ∉ waiting) :
    (store.markedAll rows handled waiting).steps[index]? = store.steps[index]? := by
  unfold Store.markedAll
  induction waiting generalizing store with
  | nil => rfl
  | cons first rest ih =>
      rw [List.mem_cons, not_or] at other
      rw [List.foldl_cons, ih _ other.2]
      exact List.getElem?_modify_ne _ _ (Ne.symm other.1)

/-- A pass marks the row of each waiting step by what has become of it. -/
theorem markedAll_of_mem (store : Store) (rows : List WorkflowStepRun)
    (handled : Nat → WaitingOutcome) {waiting : List Nat} (distinct : waiting.Nodup) {index : Nat}
    (member : index ∈ waiting) :
    (store.markedAll rows handled waiting).steps[index]? =
      store.steps[index]?.map
        ((handled index).mark (rows[index]?.bind WorkflowStepRun.confirmationId)) := by
  induction waiting generalizing store with
  | nil => cases member
  | cons first rest ih =>
      obtain ⟨fresh, distinct_rest⟩ := List.nodup_cons.mp distinct
      unfold Store.markedAll at ih ⊢
      rw [List.foldl_cons]
      obtain rfl | in_rest := List.mem_cons.mp member
      · have untouched :=
          markedAll_of_not_mem (store.marked rows index (handled index)) rows handled fresh
        unfold Store.markedAll at untouched
        rw [untouched, Store.marked, List.getElem?_modify_eq]
        rfl
      · have different : first ≠ index := by
          rintro rfl
          exact fresh in_rest
        rw [ih _ distinct_rest in_rest, Store.marked, List.getElem?_modify_ne _ _ different]

variable (service definition surroundings) in
/-- A call gets through waiting steps up to the first that stops it. -/
def Passes (store : Store) (driver : Driver) (waiting : List Nat) (changed : Bool) : Prop :=
  ∃ events, events.all EngineEvent.isQuiet = true ∧
    match (waiting.map (surroundings.handled service store driver)).find? WaitingOutcome.stops with
    | none =>
        Way service definition surroundings (store, driver) events
          (store.markedAll driver.rows (surroundings.handled service store driver) waiting,
            driver.goto (.reconcile [] (changed ||
              waiting.any fun index => (surroundings.handled service store driver index).changes)))
    | some (.failed message) => ∃ after, after.run = store.run ∧
        Way service definition surroundings (store, driver) events
          (after, driver.goto (.persist (.failed message)))
    | some _ => ∃ after, after.run = store.run ∧
        Way service definition surroundings (store, driver) (events ++ [.ended .returned])
          (after, driver.stop)

theorem Passes.cons {index : Nat} {rest : List Nat} {changed : Bool} {events : List EngineEvent}
    (going : (surroundings.handled service store driver index).stops = false)
    (quiet : events.all EngineEvent.isQuiet = true)
    (way : Way service definition surroundings (store, driver) events
      (store.marked driver.rows index (surroundings.handled service store driver index),
        driver.goto (.reconcile rest
          (changed || (surroundings.handled service store driver index).changes))))
    (passes : Passes service definition surroundings
      (store.marked driver.rows index (surroundings.handled service store driver index))
      (driver.goto (.reconcile rest
        (changed || (surroundings.handled service store driver index).changes))) rest
      (changed || (surroundings.handled service store driver index).changes)) :
    Passes service definition surroundings store driver (index :: rest) changed := by
  obtain ⟨later, later_quiet, later_way⟩ := passes
  have same : surroundings.handled service
      (store.marked driver.rows index (surroundings.handled service store driver index))
      (driver.goto (.reconcile rest
        (changed || (surroundings.handled service store driver index).changes))) =
      surroundings.handled service store driver := rfl
  rw [same] at later_way
  refine ⟨events ++ later, by rw [List.all_append, quiet, later_quiet]; rfl, ?_⟩
  rw [List.map_cons, List.find?_cons_of_neg (by rw [going]; nofun)]
  cases stopped : (rest.map (surroundings.handled service store driver)).find?
      WaitingOutcome.stops with
  | none =>
      rw [stopped] at later_way
      dsimp only
      rw [List.any_cons, ← Bool.or_assoc]
      exact way.trans later_way
  | some outcome =>
      rw [stopped] at later_way
      cases outcome with
      | failed message =>
          obtain ⟨after, run_eq, later_way⟩ := later_way
          exact ⟨after, run_eq, way.trans later_way⟩
      | _ =>
          obtain ⟨after, run_eq, later_way⟩ := later_way
          dsimp only
          rw [List.append_assoc]
          exact ⟨after, run_eq, way.trans later_way⟩

theorem way_pass {waiting : List Nat} {changed : Bool}
    (at_reconcile : driver.stage = .reconcile waiting changed) :
    Passes service definition surroundings store driver waiting changed := by
  induction waiting generalizing store driver changed with
  | nil =>
      refine ⟨[], rfl, ?_⟩
      dsimp only [List.map_nil, List.find?_nil, List.any_nil]
      rw [Bool.or_false, Driver.goto_self at_reconcile]
      exact .here _
  | cons index rest ih =>
      obtain ⟨events, quiet, way⟩ := @way_handle service definition surroundings store driver index
        rest changed at_reconcile
      have handled_eq : handleWaitingStep service store.confirmations driver.run driver.rows
          (surroundings.step index) index = surroundings.handled service store driver index := rfl
      rw [handled_eq] at way
      cases outcome : surroundings.handled service store driver index with
      | failed message =>
          rw [outcome] at way
          refine ⟨events, quiet, ?_⟩
          rw [List.map_cons, List.find?_cons_of_pos (by rw [outcome]; rfl), outcome]
          exact ⟨store, rfl, way⟩
      | deniedStop =>
          rw [outcome] at way
          refine ⟨events, quiet, ?_⟩
          rw [List.map_cons, List.find?_cons_of_pos (by rw [outcome]; rfl), outcome]
          exact ⟨store, rfl, way⟩
      | stillWaiting | next | deniedSkip =>
          rw [outcome] at way
          apply Passes.cons (by rw [outcome]; rfl) quiet
          · rw [outcome]
            exact way
          · exact ih rfl

end Alone

end Era.Workflows
