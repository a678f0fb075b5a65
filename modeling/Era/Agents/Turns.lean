import Era.Agents.Loop
import Era.Services.System

/-!
# What a turn of a task comes to

An iteration with a ready task comes to an end of that task's turn.  The calls that are passed to
the execution service in it are those that are reached.
-/

namespace Era.Agents

open Era.Core Era.Lib Era.Services

/-! ## The calls of a turn -/

/-- A call is executed when it is its turn. -/
def CallAnswer.Executes (answer : CallAnswer) : Prop :=
  ∃ observation, answer.settle = .observed observation ∧ observation.status = .executed

section Calls

variable (loop : AgentLoop)

/-- The calls that a turn comes to; none where the brain fails or the gate rejects the first. -/
def AgentLoop.dispatchable (iteration : Iteration) : List (Action × CallAnswer) :=
  match iteration.proposed with
  | .error _ => []
  | .ok proposed =>
      match proposed.filter fun call => call.1.actionType ≠ "" with
      | [] => []
      | first :: rest => if (loop.gateReject first.1).isSome then [] else first :: rest

/-- The task that an iteration turns to, and the budget with which it comes to its calls. -/
def AgentLoop.turn? (state : LoopState) (iteration : Iteration) : Option (Task × AgentBudget) :=
  match state.phase, state.budget.check loop.platform iteration.reading,
      state.manager.nextReady with
  | .driving, none, some task =>
      some (task, state.budget.recordIteration.recordLlmCalls loop.platform iteration.llmCalls)
  | _, _, _ => none

/-- The state in which a turn comes to its calls. -/
def LoopState.turned (state : LoopState) (task : Task) (budget : AgentBudget) : LoopState :=
  { state with manager := state.manager.put task.markRunning, budget }

/-- A call is reached: those before it are executed, and the budget allows it. -/
def Reaches : AgentBudget → List (Action × CallAnswer) → Action × CallAnswer → Prop
  | _, [], _ => False
  | budget, first :: rest, call =>
      budget.canToolCall loop.platform first.2.reading = none ∧
        (call = first ∨ first.2.Executes ∧ Reaches budget.recordToolCall rest call)

end Calls

section Requests

variable {loop : AgentLoop}

theorem requested_mem_events {answer : CallAnswer} {task other : Task} {call proposed : Action} :
    .requested other call ∈ answer.events task proposed ↔ other = task ∧ call = proposed := by
  unfold CallAnswer.events
  split
  · split <;> simp
  · simp

/-- The calls of a task that are passed to the execution service are those that are reached. -/
theorem requested_mem_dispatchCalls {task other : Task} {call : Action} {budget : AgentBudget}
    {last : Option Observation} {calls : List (Action × CallAnswer)} :
    .requested other call ∈ (dispatchCalls loop task budget last calls).events ↔
      other = task ∧ ∃ answer, Reaches loop budget calls (call, answer) := by
  induction calls generalizing budget last with
  | nil => simp [dispatchCalls, Reaches]
  | cons first rest ih =>
      obtain ⟨proposed, answer⟩ := first
      unfold dispatchCalls Reaches CallAnswer.Executes
      cases guard : budget.canToolCall loop.platform answer.reading with
      | some reason => simp
      | none =>
          cases settled : answer.settle with
          | paused confirmationId => simp [requested_mem_events]
          | denied => simp [requested_mem_events]
          | observed observation =>
              by_cases executed : observation.status = .executed
              · simp only [executed, if_true, List.mem_append, requested_mem_events, ih]
                constructor
                · rintro (⟨same, first⟩ | ⟨same, later, reached⟩)
                  · exact ⟨same, answer, trivial, .inl (by rw [first])⟩
                  · exact ⟨same, later, trivial, .inr ⟨⟨observation, rfl, executed⟩, reached⟩⟩
                · rintro ⟨same, later, -, first | ⟨-, reached⟩⟩
                  · exact .inl ⟨same, congrArg Prod.fst first⟩
                  · exact .inr ⟨same, later, reached⟩
              · simp [requested_mem_events, executed]

end Requests

/-! ## What a turn counts -/

namespace LoopEvent

def isStarted : LoopEvent → Bool
  | .started _ => true
  | _ => false

def isRequested : LoopEvent → Bool
  | .requested _ _ => true
  | _ => false

def isModelCalled : LoopEvent → Bool
  | .modelCalled => true
  | _ => false

def isReplanned : LoopEvent → Bool
  | .replanned _ _ => true
  | _ => false

end LoopEvent

section Counting

variable {loop : AgentLoop}

/-- A call shows one request, and nothing that is counted besides. -/
theorem countP_events (answer : CallAnswer) (task : Task) (call : Action) :
    (answer.events task call).countP LoopEvent.isRequested = 1 ∧
      (answer.events task call).countP LoopEvent.isStarted = 0 ∧
      (answer.events task call).countP LoopEvent.isModelCalled = 0 ∧
      (answer.events task call).countP LoopEvent.isReplanned = 0 := by
  unfold CallAnswer.events
  split
  · split <;> exact ⟨rfl, rfl, rfl, rfl⟩
  · exact ⟨rfl, rfl, rfl, rfl⟩

/-- The calls of a task show nothing but calls. -/
theorem countP_dispatchCalls (task : Task) (budget : AgentBudget) (last : Option Observation)
    (calls : List (Action × CallAnswer)) :
    let events := (dispatchCalls loop task budget last calls).events
    events.countP LoopEvent.isStarted = 0 ∧ events.countP LoopEvent.isModelCalled = 0 ∧
      events.countP LoopEvent.isReplanned = 0 := by
  induction calls generalizing budget last with
  | nil => exact ⟨rfl, rfl, rfl⟩
  | cons first rest ih =>
      obtain ⟨call, answer⟩ := first
      obtain ⟨-, own⟩ := countP_events answer task call
      unfold dispatchCalls
      dsimp only
      split
      · exact ⟨rfl, rfl, rfl⟩
      · split
        · exact own
        · exact own
        · split
          next observation _ _ =>
            obtain ⟨started, modelCalled, replanned⟩ := ih budget.recordToolCall (some observation)
            simp only [List.countP_append, own, started, modelCalled, replanned, and_self]
          · exact own

/-- The calls of a task count against the cap on calls only, each once. -/
theorem dispatchCalls_budget (task : Task) (budget : AgentBudget) (last : Option Observation)
    (calls : List (Action × CallAnswer)) :
    (dispatchCalls loop task budget last calls).budget =
      { budget with
        toolCalls := budget.toolCalls +
          (dispatchCalls loop task budget last calls).events.countP LoopEvent.isRequested } := by
  induction calls generalizing budget last with
  | nil => rfl
  | cons first rest ih =>
      obtain ⟨call, answer⟩ := first
      have once := (countP_events answer task call).1
      unfold dispatchCalls
      dsimp only
      split
      · rfl
      · split
        · rw [once]; rfl
        · rw [once]; rfl
        · split
          next observation _ _ =>
            rw [ih, List.countP_append, once]
            simp [AgentBudget.recordToolCall, Nat.add_assoc]
          · rw [once]; rfl

/-- The calls of a task stay within the cap on calls. -/
theorem dispatchCalls_within {task : Task} {budget : AgentBudget} {last : Option Observation}
    {calls : List (Action × CallAnswer)}
    (within : (budget.toolCalls : ℤ) ≤ max budget.maxToolCalls 0) :
    ((dispatchCalls loop task budget last calls).budget.toolCalls : ℤ) ≤
      max budget.maxToolCalls 0 := by
  induction calls generalizing budget last with
  | nil => exact within
  | cons first rest ih =>
      obtain ⟨call, answer⟩ := first
      unfold dispatchCalls
      dsimp only
      split
      · exact within
      next passed =>
        have below := AgentBudget.canToolCall_none passed
        have counted : ((budget.recordToolCall.toolCalls : ℕ) : ℤ) ≤ max budget.maxToolCalls 0 := by
          unfold AgentBudget.recordToolCall
          dsimp only
          omega
        split
        · exact counted
        · exact counted
        · split
          · exact @ih budget.recordToolCall _ counted
          · exact counted

end Counting

/-! ## How a turn ends -/

inductive TurnEnd where
  | stopped (reason : String)
  | raised (exception : String)
  | paused (confirmationId : String)
  | failed (error : String)
  | retried (note : String)
  | replanned (error : String) (repairs : List Task)
  | completed (last : Option Observation)

/-- The state that an end of a turn leaves. -/
def TurnEnd.apply (state : LoopState) (task : Task) : TurnEnd → LoopState
  | .stopped reason => state.finish .budgetExceeded ["run stopped: " ++ reason]
  | .raised exception => { state with phase := .raised exception }
  | .paused confirmationId =>
      (state.put (task.pauseForUser confirmationId)).finish .waitingForUser
        ["run paused for user approval"]
  | .failed error => state.put (task.fail error)
  | .retried note => state.put (task.retry note)
  | .replanned error repairs =>
      { state.put (task.fail error) with
        manager := repairs.foldl TaskManager.add (state.put (task.fail error)).manager
        replans := state.replans + 1 }
  | .completed _ => state.put task.complete

/-- The events of an end of a turn, after those of its calls. -/
def TurnEnd.events (task : Task) : TurnEnd → List LoopEvent
  | .replanned _ repairs => [.replanned task repairs]
  | .completed last => [.completed task last]
  | .stopped _ | .raised _ | .paused _ | .failed _ | .retried _ => []

/-- What an end of a turn makes of its task. -/
def TurnEnd.ended (task : Task) : TurnEnd → Task
  | .stopped _ | .raised _ => task
  | .paused confirmationId => task.pauseForUser confirmationId
  | .failed error | .replanned error _ => task.fail error
  | .retried note => task.retry note
  | .completed _ => task.complete

theorem TurnEnd.countP_events (ending : TurnEnd) (task : Task) :
    (ending.events task).countP LoopEvent.isStarted = 0 ∧
      (ending.events task).countP LoopEvent.isRequested = 0 ∧
      (ending.events task).countP LoopEvent.isModelCalled = 0 := by
  cases ending <;> exact ⟨rfl, rfl, rfl⟩

section Ends

variable (loop : AgentLoop)

/-- The calls of a turn are observed, and judged. -/
def Judged (budget : AgentBudget) (task : Task) (iteration : Iteration)
    (last : Option Observation) (ok : Bool) : Prop :=
  loop.dispatchable iteration ≠ [] ∧
    (dispatchCalls loop task budget none (loop.dispatchable iteration)).ending = .observed last ∧
    ∃ verdict, loop.verifier.verify iteration.workspace task.verify last = .ok verdict ∧
      verdict.ok = ok

/-- The loop tries a task again when its calls are judged not to have done it. -/
def Repeats (task : Task) : Prop :=
  task.retryAllowed = true ∧ loop.automaticRetryAllowed task.actionType = true

/-- What an end of a turn says about the turn. -/
def TurnEnd.Follows (state : LoopState) (task : Task) (iteration : Iteration) : TurnEnd → Prop
  | .stopped reason =>
      (dispatchCalls loop task state.budget none (loop.dispatchable iteration)).ending =
        .overBudget reason
  | .raised exception =>
      ∃ last, (dispatchCalls loop task state.budget none (loop.dispatchable iteration)).ending =
          .observed last ∧
        loop.verifier.verify iteration.workspace task.verify last = .error exception
  | .paused confirmationId =>
      (dispatchCalls loop task state.budget none (loop.dispatchable iteration)).ending =
        .paused confirmationId
  | .failed _ =>
      loop.dispatchable iteration = [] ∨
        (dispatchCalls loop task state.budget none (loop.dispatchable iteration)).ending =
          .denied ∨
        ∃ last, Judged loop state.budget task iteration last false ∧ ¬Repeats loop task ∧
          ¬(state.replans < loop.maxReplans ∧ iteration.repairs ≠ [])
  | .retried _ =>
      task.retryAllowed = true ∧
        (loop.dispatchable iteration = [] ∨
          ∃ last, Judged loop state.budget task iteration last false ∧ Repeats loop task)
  | .replanned _ repairs =>
      state.replans < loop.maxReplans ∧ repairs = iteration.repairs ∧ repairs ≠ [] ∧
        ∃ last, Judged loop state.budget task iteration last false ∧ ¬Repeats loop task
  | .completed last => Judged loop state.budget task iteration last true

end Ends

section Cases

variable {loop : AgentLoop}

theorem Judged.unique {budget : AgentBudget} {task : Task} {iteration : Iteration}
    {last other : Option Observation} {ok accepts : Bool}
    (judged : Judged loop budget task iteration last ok)
    (again : Judged loop budget task iteration other accepts) : last = other ∧ ok = accepts := by
  obtain ⟨-, observed, verdict, verified, rfl⟩ := judged
  obtain ⟨-, observed', verdict', verified', rfl⟩ := again
  obtain rfl := CallsEnd.observed.inj (observed.symm.trans observed')
  obtain rfl := Except.ok.inj (verified.symm.trans verified')
  exact ⟨rfl, rfl⟩

/-- A turn that is judged was neither cut short nor paused nor denied. -/
theorem TurnEnd.Follows.cases_of_judged {ending : TurnEnd} {state : LoopState} {task : Task}
    {iteration : Iteration} {last : Option Observation} {ok : Bool}
    (follows : ending.Follows loop state task iteration)
    (judged : Judged loop state.budget task iteration last ok) :
    (∃ error, ending = .failed error ∧ ok = false ∧ ¬Repeats loop task ∧
        ¬(state.replans < loop.maxReplans ∧ iteration.repairs ≠ [])) ∨
      (∃ note, ending = .retried note ∧ ok = false ∧ Repeats loop task) ∨
      (∃ error repairs, ending = .replanned error repairs ∧ ok = false ∧ ¬Repeats loop task ∧
        state.replans < loop.maxReplans ∧ iteration.repairs ≠ []) ∨
      ending = .completed last ∧ ok = true := by
  obtain ⟨some, observed, verdict, verified, -⟩ := id judged
  cases ending with
  | stopped reason => cases observed.symm.trans follows
  | paused confirmationId => cases observed.symm.trans follows
  | raised exception =>
      obtain ⟨other, observed', raised⟩ := follows
      obtain rfl := CallsEnd.observed.inj (observed.symm.trans observed')
      cases verified.symm.trans raised
  | failed error =>
      obtain nothing | denied | ⟨other, refused, ends, no_replan⟩ := follows
      · exact absurd nothing some
      · cases observed.symm.trans denied
      · exact .inl ⟨error, rfl, (judged.unique refused).2, ends, no_replan⟩
  | retried note =>
      obtain ⟨-, nothing | ⟨other, refused, repeats⟩⟩ := follows
      · exact absurd nothing some
      · exact .inr (.inl ⟨note, rfl, (judged.unique refused).2, repeats⟩)
  | replanned error repairs =>
      obtain ⟨replans, rfl, repairs, other, refused, ends⟩ := follows
      exact .inr (.inr (.inl ⟨error, _, rfl, (judged.unique refused).2, ends, replans, repairs⟩))
  | completed other =>
      obtain ⟨same, accepted⟩ := judged.unique follows
      exact .inr (.inr (.inr ⟨by rw [same], accepted⟩))

theorem completed_of_judged {ending : TurnEnd} {state : LoopState} {task : Task}
    {iteration : Iteration} {last : Option Observation}
    (follows : ending.Follows loop state task iteration)
    (judged : Judged loop state.budget task iteration last true) : ending = .completed last := by
  obtain ⟨_, -, refused, -⟩ | ⟨_, -, refused, -⟩ | ⟨_, _, -, refused, -⟩ | ⟨completed, -⟩ :=
    follows.cases_of_judged judged
  · cases refused
  · cases refused
  · cases refused
  · exact completed

theorem budget_apply (ending : TurnEnd) (state : LoopState) (task : Task) :
    (ending.apply state task).budget = state.budget := by
  cases ending <;> rfl

/-- The end of a turn is what becomes of its task. -/
theorem get_apply_self (ending : TurnEnd) {state : LoopState} {task : Task}
    (found : state.manager.get task.id = some task) :
    (ending.apply state task).manager.get task.id = some (ending.ended task) := by
  cases ending with
  | stopped reason => exact found
  | raised exception => exact found
  | paused confirmationId =>
      exact @TaskManager.get_put_self _ (task.pauseForUser confirmationId) task found
  | failed error => exact @TaskManager.get_put_self _ (task.fail error) task found
  | retried note =>
      have put := @TaskManager.get_put_self state.manager (task.retry note) task
        (by rw [Task.id_retry]; exact found)
      rw [Task.id_retry] at put
      exact put
  | replanned error repairs =>
      exact TaskManager.get_addAll_of_some
        (@TaskManager.get_put_self _ (task.fail error) task found)
  | completed last => exact @TaskManager.get_put_self _ task.complete task found

/-- The end of a turn leaves the other tasks alone. -/
theorem get_apply_ne (ending : TurnEnd) {state : LoopState} {task other : Task} {id : String}
    (different : id ≠ task.id) (found : state.manager.get id = some other) :
    (ending.apply state task).manager.get id = some other := by
  have put : ∀ changed : Task, changed.id = task.id →
      (state.manager.put changed).get id = some other := by
    intro changed same
    rw [TaskManager.get_put_ne (same ▸ different)]
    exact found
  cases ending with
  | stopped reason => exact found
  | raised exception => exact found
  | paused confirmationId => exact put (task.pauseForUser confirmationId) rfl
  | failed error => exact put (task.fail error) rfl
  | retried note => exact put (task.retry note) (task.id_retry note)
  | replanned error repairs =>
      exact TaskManager.get_addAll_of_some (put (task.fail error) rfl)
  | completed last => exact put task.complete rfl

theorem settle_cases (state : LoopState) (task : Task) (iteration : Iteration)
    (last : Option Observation) :
    ∃ ending : TurnEnd,
      loop.settle state task iteration last = (ending.apply state task, ending.events task) ∧
      ∀ before : LoopState, before.replans = state.replans → loop.dispatchable iteration ≠ [] →
        (dispatchCalls loop task before.budget none (loop.dispatchable iteration)).ending =
          .observed last →
        ending.Follows loop before task iteration := by
  unfold AgentLoop.settle
  split
  next exception raised =>
    exact ⟨.raised exception, rfl, fun _ _ _ observed => ⟨last, observed, raised⟩⟩
  next verdict judged =>
    split
    next accepted =>
      exact ⟨.completed last, rfl, fun _ _ some observed =>
        ⟨some, observed, verdict, judged, accepted⟩⟩
    next refused =>
      rw [Bool.not_eq_true] at refused
      split
      next repeats =>
        rw [Bool.and_eq_true] at repeats
        exact ⟨.retried verdict.reason, rfl, fun _ _ some observed =>
          ⟨repeats.1, .inr ⟨last, ⟨some, observed, verdict, judged, refused⟩, repeats⟩⟩⟩
      next ends =>
        rw [Bool.and_eq_true] at ends
        unfold AgentLoop.replan
        split
        next replans =>
          simp only [Bool.and_eq_true, Bool.not_eq_eq_eq_not, Bool.not_true, decide_eq_true_eq,
            List.isEmpty_eq_false_iff] at replans
          exact ⟨.replanned _ iteration.repairs, rfl, fun before same some observed =>
            ⟨same ▸ replans.1, rfl, replans.2, last, ⟨some, observed, verdict, judged, refused⟩,
              ends⟩⟩
        next no_replan =>
          simp only [Bool.and_eq_true, Bool.not_eq_eq_eq_not, Bool.not_true, decide_eq_true_eq,
            List.isEmpty_eq_false_iff] at no_replan
          exact ⟨.failed _, rfl, fun before same some observed =>
            .inr (.inr ⟨last, ⟨some, observed, verdict, judged, refused⟩, ends,
              same ▸ no_replan⟩)⟩

/-- Every turn ends in one of the seven ways. -/
theorem proceed_cases (state : LoopState) (task : Task) (iteration : Iteration) :
    ∃ ending : TurnEnd, ending.Follows loop state task iteration ∧
      loop.proceed state task iteration =
        let dispatched := dispatchCalls loop task state.budget none (loop.dispatchable iteration)
        (ending.apply { state with budget := dispatched.budget } task,
          dispatched.events ++ ending.events task) := by
  unfold AgentLoop.proceed
  split
  next error failed =>
    have nothing : loop.dispatchable iteration = [] := by
      unfold AgentLoop.dispatchable
      rw [failed]
    rw [nothing]
    unfold LoopState.settleFailure
    split
    next allowed => exact ⟨.retried error, ⟨allowed, .inl nothing⟩, rfl⟩
    · exact ⟨.failed error, .inl nothing, rfl⟩
  next proposed answered =>
    split
    next empty =>
      have nothing : loop.dispatchable iteration = [] := by
        unfold AgentLoop.dispatchable
        rw [answered]
        dsimp only
        rw [empty]
      rw [nothing]
      exact ⟨.failed "brain proposed no tool call", .inl nothing, rfl⟩
    next first rest calls =>
      split
      next reason rejected =>
        have nothing : loop.dispatchable iteration = [] := by
          unfold AgentLoop.dispatchable
          rw [answered]
          dsimp only
          rw [calls]
          simp [rejected]
        rw [nothing]
        exact ⟨.failed reason, .inl nothing, rfl⟩
      next passed =>
        have dispatches : loop.dispatchable iteration = first :: rest := by
          unfold AgentLoop.dispatchable
          rw [answered]
          dsimp only
          rw [calls]
          simp [passed]
        rw [← dispatches]
        unfold AgentLoop.callTask
        dsimp only
        split
        next reason exceeded =>
          exact ⟨.stopped reason, exceeded, by simp [TurnEnd.events, TurnEnd.apply]⟩
        next confirmationId paused =>
          exact ⟨.paused confirmationId, paused, by simp [TurnEnd.events, TurnEnd.apply]⟩
        next denied =>
          exact ⟨.failed "operator denied the pending confirmation", .inr (.inl denied),
            by simp [TurnEnd.events, TurnEnd.apply]⟩
        next last observed =>
          obtain ⟨ending, settled, follows⟩ := @settle_cases loop
            { state with budget :=
                (dispatchCalls loop task state.budget none (loop.dispatchable iteration)).budget }
            task iteration last
          have some : loop.dispatchable iteration ≠ [] := dispatches ▸ List.cons_ne_nil first rest
          exact ⟨ending, follows state rfl some observed, by rw [settled]⟩

/-- A turn makes its task completed only where it ends so. -/
theorem completed_of_ended {ending : TurnEnd} {state : LoopState} {task : Task}
    {iteration : Iteration} (follows : ending.Follows loop state task iteration)
    (earlier : task.status ≠ .completed) (later : (ending.ended task).status = .completed) :
    ∃ last, ending = .completed last := by
  cases ending with
  | stopped reason => exact absurd later earlier
  | raised exception => exact absurd later earlier
  | paused confirmationId => cases later
  | failed error => cases later
  | retried note => cases later.symm.trans (task.status_retry note follows.1)
  | replanned error repairs => cases later
  | completed last => exact ⟨last, rfl⟩

/-- A turn makes its task failed only where it ends so. -/
theorem failed_of_ended {ending : TurnEnd} {state : LoopState} {task : Task}
    {iteration : Iteration} (follows : ending.Follows loop state task iteration)
    (earlier : task.status ≠ .failed) (later : (ending.ended task).status = .failed) :
    ∃ error, ending = .failed error ∨ ∃ repairs, ending = .replanned error repairs := by
  cases ending with
  | stopped reason => exact absurd later earlier
  | raised exception => exact absurd later earlier
  | paused confirmationId => cases later
  | failed error => exact ⟨error, .inl rfl⟩
  | retried note => cases later.symm.trans (task.status_retry note follows.1)
  | replanned error repairs => exact ⟨error, .inr ⟨repairs, rfl⟩⟩
  | completed last => cases later

/-- The tasks that are tracked after a turn: new ones come with repairs only. -/
theorem ids_apply (ending : TurnEnd) (state : LoopState) (task : Task) :
    (ending.apply state task).manager.tasks.map Task.id = state.manager.tasks.map Task.id ↔
      ∀ error repairs, ending = .replanned error repairs →
        ∀ repair ∈ repairs, (state.manager.get repair.id).isSome = true := by
  cases ending with
  | replanned error repairs =>
      have failed := @TaskManager.ids_put state.manager (task.fail error)
      have replanned := @TaskManager.ids_addAll (state.manager.put (task.fail error)) repairs
      rw [failed] at replanned
      simp only [TaskManager.isSome_get_put] at replanned
      constructor
      · rintro same _ _ ended
        cases ended
        exact replanned.mp same
      · exact fun known => replanned.mpr (known error repairs rfl)
  | stopped reason => exact ⟨fun _ _ _ => nofun, fun _ => rfl⟩
  | raised exception => exact ⟨fun _ _ _ => nofun, fun _ => rfl⟩
  | paused confirmationId => exact ⟨fun _ _ _ => nofun, fun _ => TaskManager.ids_put _⟩
  | failed error => exact ⟨fun _ _ _ => nofun, fun _ => TaskManager.ids_put _⟩
  | retried note => exact ⟨fun _ _ _ => nofun, fun _ => TaskManager.ids_put _⟩
  | completed last => exact ⟨fun _ _ _ => nofun, fun _ => TaskManager.ids_put _⟩

/-- The tasks that the end of a turn leaves. -/
theorem mem_apply {ending : TurnEnd} {state : LoopState} {task other : Task}
    (found : state.manager.get task.id = some task)
    (member : other ∈ (ending.apply state task).manager.tasks) :
    other = ending.ended task ∨ other ∈ state.manager.tasks ∧ other.id ≠ task.id ∨
      ∃ error repairs, ending = .replanned error repairs ∧ other ∈ repairs := by
  have kept : other ∈ state.manager.tasks →
      other = task ∨ other ∈ state.manager.tasks ∧ other.id ≠ task.id := by
    intro tracked
    by_cases same : other.id = task.id
    · have own := same ▸ TaskManager.get_of_mem tracked
      exact .inl (Option.some.inj (own.symm.trans found))
    · exact .inr ⟨tracked, same⟩
  have put : ∀ changed : Task, changed.id = task.id →
      other ∈ (state.manager.put changed).tasks →
      other = changed ∨ other ∈ state.manager.tasks ∧ other.id ≠ task.id :=
    fun changed same tracked => same ▸ TaskManager.mem_put tracked
  cases ending with
  | stopped reason => exact (kept member).imp_right .inl
  | raised exception => exact (kept member).imp_right .inl
  | paused confirmationId =>
      exact (put (task.pauseForUser confirmationId) rfl member).imp_right .inl
  | failed error => exact (put (task.fail error) rfl member).imp_right .inl
  | retried note => exact (put (task.retry note) (task.id_retry note) member).imp_right .inl
  | replanned error repairs =>
      obtain earlier | new := TaskManager.mem_addAll member
      · exact (put (task.fail error) rfl earlier).imp_right .inl
      · exact .inr (.inr ⟨error, repairs, rfl, new⟩)
  | completed last => exact (put task.complete rfl member).imp_right .inl

/-- What a turn needs. -/
theorem turn?_eq_some {state : LoopState} {iteration : Iteration} {task : Task}
    {budget : AgentBudget} :
    loop.turn? state iteration = some (task, budget) ↔
      state.phase = .driving ∧ state.budget.check loop.platform iteration.reading = none ∧
        state.manager.nextReady = some task ∧
        budget =
          state.budget.recordIteration.recordLlmCalls loop.platform iteration.llmCalls := by
  unfold AgentLoop.turn?
  constructor
  · intro found
    split at found
    next driving within ready =>
      cases found
      exact ⟨driving, within, ready, rfl⟩
    · cases found
  · rintro ⟨driving, within, ready, rfl⟩
    rw [driving, within, ready]

/-- The task of a turn is tracked, and it is pending. -/
theorem tracked_of_turn {state : LoopState} {iteration : Iteration} {task : Task}
    {budget : AgentBudget} (turn : loop.turn? state iteration = some (task, budget)) :
    task.status = .pending ∧ state.manager.get task.id = some task ∧
      ∀ counted, (state.turned task counted).manager.get task.id = some task.markRunning := by
  obtain ⟨-, -, ready, -⟩ := turn?_eq_some.mp turn
  obtain ⟨member, pending, -⟩ := TaskManager.nextReady_some ready
  have found := TaskManager.get_of_mem member
  exact ⟨pending, found, fun _ => @TaskManager.get_put_self _ task.markRunning task found⟩

/-- A step with a turn: its calls, and the end that they come to. -/
theorem loopStep_turn {state : LoopState} {iteration : Iteration} {task : Task}
    {budget : AgentBudget} (turn : loop.turn? state iteration = some (task, budget)) :
    ∃ ending : TurnEnd,
      ending.Follows loop (state.turned task budget) task.markRunning iteration ∧
      loopStep loop state (.iterate iteration) =
        let dispatched :=
          dispatchCalls loop task.markRunning budget none (loop.dispatchable iteration)
        (ending.apply (state.turned task dispatched.budget) task.markRunning,
          .started task ::
            (List.replicate (budget.llmCalls - state.budget.llmCalls) .modelCalled ++
              (dispatched.events ++ ending.events task.markRunning))) := by
  obtain ⟨driving, within, ready, rfl⟩ := turn?_eq_some.mp turn
  obtain ⟨ending, follows, proceeded⟩ := @proceed_cases loop
    (state.turned task
      (state.budget.recordIteration.recordLlmCalls loop.platform iteration.llmCalls))
    task.markRunning iteration
  refine ⟨ending, follows, ?_⟩
  unfold loopStep
  dsimp only
  rw [driving]
  unfold AgentLoop.iterate
  dsimp only
  rw [within, ready]
  unfold AgentLoop.runTask
  dsimp only
  unfold LoopState.turned at proceeded
  rw [proceeded]
  rfl

/-- What a turn makes of the tasks. -/
theorem get_turn {state : LoopState} {iteration : Iteration} {task : Task}
    {budget : AgentBudget} (turn : loop.turn? state iteration = some (task, budget)) :
    ∃ ending : TurnEnd,
      ending.Follows loop (state.turned task budget) task.markRunning iteration ∧
      (loopStep loop state (.iterate iteration)).1.manager.get task.id =
        some (ending.ended task.markRunning) ∧
      ∀ id other, id ≠ task.id → state.manager.get id = some other →
        (loopStep loop state (.iterate iteration)).1.manager.get id = some other := by
  obtain ⟨-, -, running⟩ := tracked_of_turn turn
  obtain ⟨ending, follows, stepped⟩ := loopStep_turn turn
  refine ⟨ending, follows, ?_, ?_⟩
  · rw [stepped]
    exact get_apply_self ending (running _)
  · intro id other different found
    rw [stepped]
    have kept := (@TaskManager.get_put_ne state.manager task.markRunning id different).trans found
    exact @get_apply_ne ending (state.turned task _) task.markRunning other id different kept

/-- An iteration without a turn shows nothing: the run is over or ends, or tasks are skipped. -/
theorem loopStep_idle {state : LoopState} {iteration : Iteration}
    (idle : loop.turn? state iteration = none) :
    state.phase ≠ .driving ∧ loopStep loop state (.iterate iteration) = (state, []) ∨
    state.phase = .driving ∧
      ((∃ reason, loopStep loop state (.iterate iteration) =
          (state.finish .budgetExceeded ["run stopped: " ++ reason], [])) ∨
        state.manager.nextReady = none ∧ state.manager.hasPending = true ∧
          loopStep loop state (.iterate iteration) = (state.skipBlocked, []) ∨
        state.manager.nextReady = none ∧ state.manager.hasPending = false ∧
          loopStep loop state (.iterate iteration) = (state.finish .completed [], [])) := by
  unfold AgentLoop.turn? at idle
  unfold loopStep AgentLoop.iterate
  cases driving : state.phase with
  | ended record => exact .inl ⟨nofun, rfl⟩
  | raised exception => exact .inl ⟨nofun, rfl⟩
  | driving =>
      refine .inr ⟨rfl, ?_⟩
      dsimp only
      cases within : state.budget.check loop.platform iteration.reading with
      | some reason => exact .inl ⟨reason, rfl⟩
      | none =>
          refine .inr ?_
          cases ready : state.manager.nextReady with
          | some task =>
              rw [driving, within, ready] at idle
              cases idle
          | none =>
              dsimp only
              cases pending : state.manager.hasPending with
              | true => exact .inl ⟨rfl, rfl, rfl⟩
              | false => exact .inr ⟨rfl, rfl, rfl⟩

theorem events_idle {state : LoopState} {iteration : Iteration}
    (idle : loop.turn? state iteration = none) :
    (loopStep loop state (.iterate iteration)).2 = [] := by
  obtain ⟨-, stepped⟩ | ⟨-, ⟨reason, stepped⟩ | ⟨-, -, stepped⟩ | ⟨-, -, stepped⟩⟩ :=
    loopStep_idle idle <;> rw [stepped]

/-- A resumption shows nothing. -/
theorem loopStep_resume (state : LoopState) (resolutions : List ApprovalResolution) :
    loopStep loop state (.resume resolutions) = (state, []) ∨
      ∃ record, state.phase = .ended record ∧ record.status = .waitingForUser ∧
        loopStep loop state (.resume resolutions) = (resumeFrom state record resolutions, []) := by
  unfold loopStep
  cases phase : state.phase with
  | driving => exact .inl rfl
  | raised exception => exact .inl rfl
  | ended record =>
      dsimp only
      split
      next waits =>
        simp only [Bool.and_eq_true, decide_eq_true_eq] at waits
        exact .inr ⟨record, rfl, waits.1, rfl⟩
      · exact .inl rfl

end Cases

namespace Demo

def loop : AgentLoop :=
  { platform := Services.Demo.platform
    catalog := { specs := [
      { actionType := "browser.navigate", riskLevel := .safe, capabilityDomain := "browser" },
      { actionType := "browser.fill", riskLevel := .mutating, capabilityDomain := "browser" },
      { actionType := "fs.write", riskLevel := .mutating, capabilityDomain := "file" }] }
    registry := { providers := [
      { id := "browser", actionTypes := ["browser.navigate", "browser.fill"]
        nonRetryableActionTypes := ["browser.fill"] },
      { id := "local_files", actionTypes := ["fs.write"] }] }
    verifier := {
      platform := Services.Demo.platform
      decode := fun _ => ""
      parseHtml := fun _ => {} } }

def answer (status : ExecutionStatus) : CallAnswer :=
  { response := { status, decision := .allow } }

end Demo

end Era.Agents
