import Era.Agents.Turns

/-!
# The two routes of an approval

A call that has to be confirmed is approved inline, and the turn goes on with its response, or
the run is paused and later resumed with what the audit log says of the approval.
-/

namespace Era.Agents

open Era.Core Era.Lib Era.Services

/-- The calls that the loop keeps of a proposal. -/
def kept (calls : List (Action × CallAnswer)) : List (Action × CallAnswer) :=
  calls.filter fun call => call.1.actionType ≠ ""

/-- An iteration with a call that has to be confirmed. -/
structure Approval where
  iteration : Iteration
  before : List (Action × CallAnswer)
  call : Action
  answer : CallAnswer
  rest : List (Action × CallAnswer)

/-- The call, as the operator answers. -/
def Approval.asked (approval : Approval) (operator : Option String) : Action × CallAnswer :=
  (approval.call, { approval.answer with operator })

/-- The iteration, as the operator answers. -/
def Approval.answered (approval : Approval) (operator : Option String) : Iteration :=
  { approval.iteration with
    proposed := .ok (approval.before ++ approval.asked operator :: approval.rest) }

def Approval.confirmationId (approval : Approval) : String :=
  approval.answer.response.confirmationId.getD ""

section Definitions

variable (loop : AgentLoop)

/-- Calls are executed one after the other, and they leave a budget. -/
def Passes : AgentBudget → List (Action × CallAnswer) → AgentBudget → Prop
  | budget, [], after => after = budget
  | budget, first :: rest, after =>
      budget.canToolCall loop.platform first.2.reading = none ∧ first.2.Executes ∧
        Passes budget.recordToolCall rest after

/-- The call is reached in its turn, and the execution service asks for a confirmation. -/
structure Asks (state : LoopState) (approval : Approval) (task : Task)
    (budget after : AgentBudget) : Prop where
  turn : loop.turn? state approval.iteration = some (task, budget)
  named : approval.call.actionType ≠ ""
  gated : ∀ first ∈ (kept approval.before ++ [(approval.call, approval.answer)]).head?,
    loop.gateReject first.1 = none
  passes : Passes loop budget (kept approval.before) after
  allowed : after.canToolCall loop.platform approval.answer.reading = none
  asks : approval.answer.response.status = .confirmationRequired

/-- The resumption knows how the approved call was dispatched, and it knows of no other
confirmation that the task waits on. -/
structure Resolves (resolutions : List ApprovalResolution) (approval : Approval) (task : Task) :
    Prop where
  resolved : ∃ resolution, resolutionOf resolutions approval.confirmationId = some resolution ∧
    (resolution.outcome = .executed ↔ approval.answer.approved.status = .executed)
  alone : ∀ id ∈ task.waitingOn, id ≠ approval.confirmationId → resolutionOf resolutions id = none

/-- The calls that are passed to the execution service. -/
def requestedCalls (events : List LoopEvent) : List Action :=
  events.filterMap fun
    | .requested _ call => some call
    | _ => none

/-- The turn in which the operator approves. -/
def inlineRoute (state : LoopState) (approval : Approval) : LoopState × List LoopEvent :=
  loopStep loop state (.iterate (approval.answered (some "approve")))

/-- The turn in which the operator lets the call wait, and the resumption. -/
def resumeRoute (state : LoopState) (approval : Approval) (operator : Option String)
    (resolutions : List ApprovalResolution) : LoopState × List LoopEvent :=
  let paused := loopStep loop state (.iterate (approval.answered operator))
  let resumed := loopStep loop paused.1 (.resume resolutions)
  (resumed.1, paused.2 ++ resumed.2)

/-- The routes have passed on the same calls, they leave the task with the same status, and the
same tasks are tracked after them. -/
structure RoutesAgree (task : Task) (inline resumed : LoopState × List LoopEvent) : Prop where
  calls : requestedCalls inline.2 = requestedCalls resumed.2
  status : (inline.1.manager.get task.id).map Task.status =
    (resumed.1.manager.get task.id).map Task.status
  tasks : inline.1.manager.tasks.map Task.id = resumed.1.manager.tasks.map Task.id

/-- The approved call is the last of the proposal, it is executed and the verifier accepts; or it
is not executed, the verifier refuses, the task is not tried again and no repair is added. -/
def Approval.Settles (state : LoopState) (approval : Approval) (task : Task) : Prop :=
  ∃ verdict, loop.verifier.verify approval.iteration.workspace task.verify
      (some (observationOf approval.answer.approved)) = .ok verdict ∧
    (approval.answer.approved.status = .executed ∧ kept approval.rest = [] ∧ verdict.ok = true ∨
      approval.answer.approved.status ≠ .executed ∧ verdict.ok = false ∧ ¬Repeats loop task ∧
        (state.replans < loop.maxReplans →
          ∀ repair ∈ approval.iteration.repairs, (state.manager.get repair.id).isSome = true))

end Definitions

section Calls

variable {loop : AgentLoop}

theorem requestedCalls_append (first second : List LoopEvent) :
    requestedCalls (first ++ second) = requestedCalls first ++ requestedCalls second :=
  List.filterMap_append

/-- An observation is forgotten when there is another call. -/
theorem dispatchCalls_last {task : Task} {budget : AgentBudget} {first : Action × CallAnswer}
    {rest : List (Action × CallAnswer)} (last : Option Observation) :
    dispatchCalls loop task budget last (first :: rest) =
      dispatchCalls loop task budget none (first :: rest) := by
  unfold dispatchCalls
  rfl

/-- A call that is executed is passed on, and then it is the turn of the next. -/
theorem dispatchCalls_executes {task : Task} {budget : AgentBudget} {call : Action}
    {answer : CallAnswer} {rest : List (Action × CallAnswer)} {last : Option Observation}
    (guard : budget.canToolCall loop.platform answer.reading = none) {observation : Observation}
    (settled : answer.settle = .observed observation) (executed : observation.status = .executed) :
    dispatchCalls loop task budget last ((call, answer) :: rest) =
      { dispatchCalls loop task budget.recordToolCall (some observation) rest with
        events := answer.events task call ++
          (dispatchCalls loop task budget.recordToolCall (some observation) rest).events } := by
  rw [dispatchCalls]
  dsimp only
  rw [guard]
  dsimp only
  rw [settled]
  dsimp only
  rw [if_pos executed]

theorem requestedCalls_events (answer : CallAnswer) (task : Task) (call : Action) :
    requestedCalls (answer.events task call) = [call] := by
  unfold CallAnswer.events
  split
  · split <;> rfl
  · rfl

/-- A call that the budget allows is passed on. -/
theorem requestedCalls_first {task : Task} {budget : AgentBudget} {last : Option Observation}
    {call : Action} {answer : CallAnswer} {rest : List (Action × CallAnswer)}
    (allowed : budget.canToolCall loop.platform answer.reading = none) :
    ∃ others, requestedCalls (dispatchCalls loop task budget last ((call, answer) :: rest)).events =
      call :: others := by
  have first := requestedCalls_events answer task call
  rw [dispatchCalls, allowed]
  dsimp only
  split
  · exact ⟨[], first⟩
  · exact ⟨[], first⟩
  · split
    · dsimp only
      rw [requestedCalls_append, first]
      exact ⟨_, rfl⟩
    · exact ⟨[], first⟩

/-- Calls that are executed are passed on, and then it is the turn of the next. -/
theorem dispatchCalls_passes {task : Task} {budget after : AgentBudget}
    {before : List (Action × CallAnswer)} (passes : Passes loop budget before after) :
    ∃ events, requestedCalls events = before.map Prod.fst ∧ ∀ first rest,
      dispatchCalls loop task budget none (before ++ first :: rest) =
        { dispatchCalls loop task after none (first :: rest) with
          events := events ++ (dispatchCalls loop task after none (first :: rest)).events } := by
  induction before generalizing budget with
  | nil =>
      obtain rfl : after = budget := passes
      exact ⟨[], rfl, fun _ _ => rfl⟩
  | cons head tail ih =>
      obtain ⟨call, answer⟩ := head
      obtain ⟨guard, ⟨observation, settled, executed⟩, later⟩ := passes
      obtain ⟨events, requested, continues⟩ := ih later
      refine ⟨answer.events task call ++ events, ?_, fun first rest => ?_⟩
      · rw [requestedCalls_append, requestedCalls_events, requested]
        rfl
      have forgets : dispatchCalls loop task budget.recordToolCall (some observation)
          (tail ++ first :: rest) =
          dispatchCalls loop task budget.recordToolCall none (tail ++ first :: rest) := by
        cases tail with
        | nil => exact dispatchCalls_last _
        | cons second others => exact dispatchCalls_last _
      rw [List.cons_append, dispatchCalls_executes guard settled executed, forgets, continues,
        List.append_assoc]

/-- What a turn passes to the execution service. -/
theorem requestedCalls_turn {state : LoopState} {iteration : Iteration} {task : Task}
    {budget : AgentBudget} (turn : loop.turn? state iteration = some (task, budget)) :
    requestedCalls (loopStep loop state (.iterate iteration)).2 =
      requestedCalls (dispatchCalls loop task.markRunning budget none
        (loop.dispatchable iteration)).events := by
  obtain ⟨ending, -, stepped⟩ := loopStep_turn turn
  have models : ∀ count, requestedCalls (List.replicate count .modelCalled) = [] := by
    intro count
    induction count with
    | zero => rfl
    | succ count ih => exact ih
  have ends : requestedCalls (ending.events task.markRunning) = [] := by
    cases ending <;> rfl
  rw [stepped]
  dsimp only
  rw [← List.singleton_append, requestedCalls_append, requestedCalls_append,
    requestedCalls_append, models, ends, List.append_nil]
  rfl

end Calls

section Asking

variable {loop : AgentLoop} {state : LoopState} {approval : Approval} {task : Task}
variable {budget after : AgentBudget}

theorem Asks.turn_answered (asks : Asks loop state approval task budget after)
    (operator : Option String) :
    loop.turn? state (approval.answered operator) = some (task, budget) :=
  asks.turn

theorem Asks.dispatchable (asks : Asks loop state approval task budget after)
    (operator : Option String) :
    loop.dispatchable (approval.answered operator) =
      kept approval.before ++ approval.asked operator :: kept approval.rest := by
  have keeps : kept (approval.before ++ approval.asked operator :: approval.rest) =
      kept approval.before ++ approval.asked operator :: kept approval.rest := by
    unfold kept
    have named : decide ((approval.asked operator).1.actionType ≠ "") = true :=
      decide_eq_true asks.named
    rw [List.filter_append, List.filter_cons, if_pos named]
  have gated := asks.gated
  unfold AgentLoop.dispatchable Approval.answered
  dsimp only
  unfold kept at keeps gated ⊢
  rw [keeps]
  cases before : approval.before.filter fun call => decide (call.1.actionType ≠ "") with
  | nil =>
      rw [before] at gated
      have passed : loop.gateReject (approval.asked operator).1 = none :=
        gated (approval.call, approval.answer) rfl
      simp [passed]
  | cons first rest =>
      rw [before] at gated
      simp [gated first rfl]

/-- The calls of the turn, up to the one that has to be confirmed. -/
theorem Asks.dispatched (asks : Asks loop state approval task budget after)
    (operator : Option String) :
    ∃ events, requestedCalls events = (kept approval.before).map Prod.fst ∧
      dispatchCalls loop task.markRunning budget none
        (loop.dispatchable (approval.answered operator)) =
      let calls := dispatchCalls loop task.markRunning after none
        (approval.asked operator :: kept approval.rest)
      { calls with events := events ++ calls.events } := by
  obtain ⟨events, requested, continues⟩ := @dispatchCalls_passes loop task.markRunning _ _ _
    asks.passes
  exact ⟨events, requested, by rw [asks.dispatchable, continues]⟩

/-- A call that waits pauses its turn. -/
theorem Asks.pauses (asks : Asks loop state approval task budget after) {operator : Option String}
    (waits : askOperator operator = .wait) :
    (dispatchCalls loop task.markRunning budget none
        (loop.dispatchable (approval.answered operator))).ending =
      .paused approval.confirmationId ∧
    requestedCalls (dispatchCalls loop task.markRunning budget none
        (loop.dispatchable (approval.answered operator))).events =
      (kept approval.before).map Prod.fst ++ [approval.call] := by
  obtain ⟨events, requested, dispatched⟩ := asks.dispatched operator
  have settled : (approval.asked operator).2.settle = .paused approval.confirmationId := by
    unfold CallAnswer.settle Approval.asked
    dsimp only
    rw [asks.asks]
    dsimp only
    rw [waits]
    rfl
  have guard : after.canToolCall loop.platform (approval.asked operator).2.reading = none :=
    asks.allowed
  have calls : dispatchCalls loop task.markRunning after none
      (approval.asked operator :: kept approval.rest) =
      { budget := after.recordToolCall
        events := (approval.asked operator).2.events task.markRunning approval.call
        ending := .paused approval.confirmationId } := by
    rw [dispatchCalls, guard, settled]
    rfl
  rw [dispatched, calls]
  exact ⟨rfl, by rw [requestedCalls_append, requested, requestedCalls_events]⟩

/-- The state of a paused turn. -/
theorem Asks.paused (asks : Asks loop state approval task budget after) {operator : Option String}
    (waits : askOperator operator = .wait) :
    ∃ counted, (loopStep loop state (.iterate (approval.answered operator))).1 =
      (TurnEnd.paused approval.confirmationId).apply (state.turned task counted)
        task.markRunning := by
  obtain ⟨ending, follows, stepped⟩ := loopStep_turn (asks.turn_answered operator)
  obtain ⟨paused, -⟩ := asks.pauses waits
  have calls : loop.dispatchable (approval.answered operator) ≠ [] := by
    rw [asks.dispatchable]
    exact List.append_ne_nil_of_right_ne_nil _ (List.cons_ne_nil _ _)
  have not_judged : ∀ last ok, ¬Judged loop budget task.markRunning (approval.answered operator)
      last ok := by
    rintro last ok ⟨-, observed, -⟩
    cases paused.symm.trans observed
  rw [stepped]
  cases ending with
  | stopped reason => cases paused.symm.trans follows
  | raised exception =>
      obtain ⟨last, observed, -⟩ := follows
      cases paused.symm.trans observed
  | paused confirmationId =>
      obtain rfl := CallsEnd.paused.inj (paused.symm.trans follows)
      exact ⟨_, rfl⟩
  | failed error =>
      obtain nothing | denied | ⟨last, judged, -⟩ := follows
      · exact absurd nothing calls
      · cases paused.symm.trans denied
      · exact absurd judged (not_judged last _)
  | retried note =>
      obtain ⟨-, nothing | ⟨last, judged, -⟩⟩ := follows
      · exact absurd nothing calls
      · exact absurd judged (not_judged last _)
  | replanned error repairs =>
      obtain ⟨-, -, -, last, judged, -⟩ := follows
      exact absurd judged (not_judged last _)
  | completed last => exact absurd follows (not_judged last _)

end Asking

/-! ## The resumption -/

section Resumption

variable {resolutions : List ApprovalResolution} {approval : Approval} {task : Task}

@[simp] theorem id_harden (task : Task) : (harden task).id = task.id := by
  unfold harden
  split <;> rfl

theorem status_harden (task : Task) : (harden task).status = task.status := by
  unfold harden
  split <;> rfl

theorem waitingOn_harden (task : Task) : (harden task).waitingOn = task.waitingOn := by
  unfold harden
  split <;> rfl

theorem id_resolveTask (task : Task) : (resolveTask resolutions task).id = task.id := by
  unfold resolveTask
  dsimp only
  split
  · rfl
  · split <;> rfl

theorem mem_waitingOn_pauseForUser {confirmationId id : String} :
    id ∈ (task.pauseForUser confirmationId).waitingOn ↔
      id ∈ task.waitingOn ∨ id = confirmationId := by
  unfold Task.pauseForUser
  dsimp only
  split
  next known =>
    constructor
    · exact .inl
    · rintro (waits | rfl)
      · exact waits
      · exact List.contains_iff_mem.mp known
  · rw [List.mem_append, List.mem_singleton]

/-- A paused task is resolved by the resolution of its confirmation. -/
theorem Resolves.status (resolves : Resolves resolutions approval task) {paused : Task}
    (waits : paused.waitingOn = (task.pauseForUser approval.confirmationId).waitingOn) :
    (resolveTask resolutions paused).status =
      if approval.answer.approved.status = .executed then .completed else .failed := by
  obtain ⟨resolution, found, truthful⟩ := resolves.resolved
  have only : ∀ entry ∈ paused.waitingOn.filterMap (resolutionOf resolutions),
      entry = resolution := by
    intro entry member
    obtain ⟨id, waiting, known⟩ := List.mem_filterMap.mp member
    rw [waits, mem_waitingOn_pauseForUser] at waiting
    by_cases same : id = approval.confirmationId
    · rw [same, found] at known
      exact (Option.some.inj known).symm
    · rw [resolves.alone id (waiting.resolve_right same) same] at known
      cases known
  have member : resolution ∈ paused.waitingOn.filterMap (resolutionOf resolutions) :=
    List.mem_filterMap.mpr ⟨approval.confirmationId,
      by rw [waits, mem_waitingOn_pauseForUser]; exact .inr rfl, found⟩
  unfold resolveTask
  dsimp only
  split
  next nothing =>
    rw [List.getLast?_eq_none_iff.mp nothing] at member
    cases member
  next last known =>
    split
    next executed =>
      obtain ⟨entry, resolved, is_executed⟩ := List.any_eq_true.mp executed
      rw [only entry resolved, decide_eq_true_eq, truthful] at is_executed
      rw [if_pos is_executed]
      rfl
    next not_executed =>
      have failed : approval.answer.approved.status ≠ .executed := by
        intro executed
        exact not_executed (List.any_eq_true.mpr
          ⟨resolution, member, decide_eq_true (truthful.mpr executed)⟩)
      rw [if_neg failed]
      rfl

/-- A paused task is found as it is resolved. -/
theorem get_resumeFrom {state : LoopState} {record : RunRecord} {paused : Task}
    (distinct : (record.tasks.map Task.id).Nodup) (member : paused ∈ record.tasks)
    (waits : paused.status = .waitingForUser) :
    (resumeFrom state record resolutions).manager.get paused.id =
      some (resolveTask resolutions (harden paused)) := by
  have same_ids : (record.tasks.map harden).map Task.id = record.tasks.map Task.id := by
    rw [List.map_map]
    exact List.map_congr_left fun task _ => id_harden task
  have tracked := TaskManager.tasks_ofTasks (same_ids ▸ distinct)
  have hardened : harden paused ∈ (TaskManager.ofTasks (record.tasks.map harden)).tasks := by
    rw [tracked]
    exact List.mem_map_of_mem member
  have found := TaskManager.get_of_mem hardened
  have waiting : harden paused ∈ (TaskManager.ofTasks (record.tasks.map harden)).waiting :=
    List.mem_filter.mpr ⟨hardened, decide_eq_true ((status_harden paused).trans waits)⟩
  have distinct_waiting :
      ((TaskManager.ofTasks (record.tasks.map harden)).waiting.map Task.id).Nodup :=
    (TaskManager.ids_nodup _).sublist (List.filter_sublist.map Task.id)
  have resolved := TaskManager.get_foldl_put (@id_resolveTask resolutions) distinct_waiting
    waiting found
  rw [id_harden] at resolved
  exact resolved

theorem ids_resumeFrom {state : LoopState} {record : RunRecord}
    (distinct : (record.tasks.map Task.id).Nodup) :
    (resumeFrom state record resolutions).manager.tasks.map Task.id = record.tasks.map Task.id := by
  have same_ids : (record.tasks.map harden).map Task.id = record.tasks.map Task.id := by
    rw [List.map_map]
    exact List.map_congr_left fun task _ => id_harden task
  unfold resumeFrom
  dsimp only
  rw [TaskManager.ids_foldl_put, TaskManager.tasks_ofTasks (same_ids ▸ distinct), same_ids]

end Resumption

/-! ## Both routes -/

section Routes

variable {loop : AgentLoop} {state : LoopState} {approval : Approval} {task : Task}
variable {budget after : AgentBudget} {operator : Option String}
variable {resolutions : List ApprovalResolution}

/-- What the resumption comes to. -/
theorem Asks.resumed (asks : Asks loop state approval task budget after)
    (waits : askOperator operator = .wait) (resolves : Resolves resolutions approval task) :
    let route := resumeRoute loop state approval operator resolutions
    requestedCalls route.2 = (kept approval.before).map Prod.fst ++ [approval.call] ∧
      (route.1.manager.get task.id).map Task.status =
        some (if approval.answer.approved.status = .executed then .completed else .failed) ∧
      route.1.manager.tasks.map Task.id = state.manager.tasks.map Task.id := by
  obtain ⟨-, tracked, running⟩ := tracked_of_turn asks.turn
  obtain ⟨counted, paused⟩ := asks.paused waits
  have some_resolution : resolutions.isEmpty = false := by
    obtain ⟨resolution, found, -⟩ := resolves.resolved
    cases resolutions with
    | nil => cases found
    | cons first rest => rfl
  have resumes : ∃ record, record.tasks = ((state.turned task counted).manager.put
        (task.markRunning.pauseForUser approval.confirmationId)).tasks ∧
      loopStep loop (loopStep loop state (.iterate (approval.answered operator))).1
          (.resume resolutions) =
        (resumeFrom (loopStep loop state (.iterate (approval.answered operator))).1 record
          resolutions, []) := by
    rw [paused]
    refine ⟨((state.turned task counted).put
      (task.markRunning.pauseForUser approval.confirmationId)).final .waitingForUser
        ["run paused for user approval"], rfl, ?_⟩
    unfold loopStep
    dsimp only [TurnEnd.apply, LoopState.finish]
    rw [some_resolution]
    rfl
  obtain ⟨record, tasks, resumed⟩ := resumes
  have distinct : (record.tasks.map Task.id).Nodup := tasks ▸ TaskManager.ids_nodup _
  unfold resumeRoute
  dsimp only
  rw [resumed, List.append_nil]
  refine ⟨?_, ?_, ?_⟩
  · rw [requestedCalls_turn (asks.turn_answered operator)]
    exact (asks.pauses waits).2
  · have member : task.markRunning.pauseForUser approval.confirmationId ∈ record.tasks := by
      rw [tasks]
      exact (TaskManager.mem_of_get (@TaskManager.get_put_self _
        (task.markRunning.pauseForUser approval.confirmationId) task.markRunning
        (running counted))).1
    have found := @get_resumeFrom resolutions
      (loopStep loop state (.iterate (approval.answered operator))).1 record _ distinct member rfl
    have resolved := resolves.status (waitingOn_harden
      (task.markRunning.pauseForUser approval.confirmationId))
    rw [Task.id_pauseForUser, Task.id_markRunning] at found
    rw [found, Option.map_some, resolved]
  · rw [ids_resumeFrom distinct, tasks, TaskManager.ids_put]
    exact TaskManager.ids_put task.markRunning

/-- An approved call is observed as it was dispatched. -/
theorem Asks.approves (asks : Asks loop state approval task budget after) :
    (approval.asked (some "approve")).2.settle =
        .observed (observationOf approval.answer.approved) ∧
      after.canToolCall loop.platform (approval.asked (some "approve")).2.reading = none := by
  refine ⟨?_, asks.allowed⟩
  unfold CallAnswer.settle Approval.asked
  dsimp only
  rw [asks.asks]
  rfl

/-- An approved call that is the last, or that is not executed, ends the calls of its turn. -/
theorem Asks.observed (asks : Asks loop state approval task budget after)
    (last : approval.answer.approved.status = .executed → kept approval.rest = []) :
    (dispatchCalls loop task.markRunning budget none
        (loop.dispatchable (approval.answered (some "approve")))).ending =
      .observed (some (observationOf approval.answer.approved)) ∧
    requestedCalls (dispatchCalls loop task.markRunning budget none
        (loop.dispatchable (approval.answered (some "approve")))).events =
      (kept approval.before).map Prod.fst ++ [approval.call] := by
  obtain ⟨events, requested, dispatched⟩ := asks.dispatched (some "approve")
  obtain ⟨settled, guard⟩ := asks.approves
  have calls : dispatchCalls loop task.markRunning after none
      (approval.asked (some "approve") :: kept approval.rest) =
      { budget := after.recordToolCall
        events := (approval.asked (some "approve")).2.events task.markRunning approval.call
        ending := .observed (some (observationOf approval.answer.approved)) } := by
    by_cases executed : (observationOf approval.answer.approved).status = .executed
    · have stepped := @dispatchCalls_executes loop task.markRunning after approval.call
        (approval.asked (some "approve")).2 (kept approval.rest) none guard _ settled executed
      rw [last executed, dispatchCalls, List.append_nil] at stepped
      rw [last executed]
      exact stepped
    · rw [dispatchCalls, guard, settled]
      dsimp only
      rw [if_neg executed]
      rfl
  rw [dispatched, calls]
  exact ⟨rfl, by rw [requestedCalls_append, requested, requestedCalls_events]⟩

/-- Calls behind an approved call that is executed are passed on, or they exceed the budget. -/
theorem Asks.goes_on (asks : Asks loop state approval task budget after)
    (executed : approval.answer.approved.status = .executed) (more : kept approval.rest ≠ []) :
    (∃ reason, (dispatchCalls loop task.markRunning budget none
        (loop.dispatchable (approval.answered (some "approve")))).ending = .overBudget reason) ∨
    requestedCalls (dispatchCalls loop task.markRunning budget none
        (loop.dispatchable (approval.answered (some "approve")))).events ≠
      (kept approval.before).map Prod.fst ++ [approval.call] := by
  obtain ⟨events, requested, dispatched⟩ := asks.dispatched (some "approve")
  obtain ⟨settled, guard⟩ := asks.approves
  obtain ⟨next, later, rest⟩ := List.exists_cons_of_ne_nil more
  have stepped := @dispatchCalls_executes loop task.markRunning after approval.call
    (approval.asked (some "approve")).2 (kept approval.rest) none guard _ settled executed
  have calls : dispatchCalls loop task.markRunning after none
      (approval.asked (some "approve") :: kept approval.rest) = _ := stepped
  rw [dispatched, calls, rest]
  obtain ⟨call, answer⟩ := next
  cases allowed : after.recordToolCall.canToolCall loop.platform answer.reading with
  | some reason =>
      refine .inl ⟨reason, ?_⟩
      rw [dispatchCalls, allowed]
  | none =>
      refine .inr fun same => ?_
      have lengths := congrArg List.length same
      obtain ⟨others, passed⟩ := @requestedCalls_first loop task.markRunning after.recordToolCall
        (some (observationOf approval.answer.approved)) call answer later allowed
      dsimp only at lengths
      rw [requestedCalls_append, requestedCalls_append, requested, requestedCalls_events, passed]
        at lengths
      simp only [List.length_append, List.length_cons] at lengths
      omega

/-- The routes agree exactly if the approved call settles the task on the inline route as well. -/
theorem routes_agree_iff (asks : Asks loop state approval task budget after)
    (waits : askOperator operator = .wait) (resolves : Resolves resolutions approval task) :
    RoutesAgree task (inlineRoute loop state approval)
        (resumeRoute loop state approval operator resolutions) ↔
      approval.Settles loop state task := by
  obtain ⟨calls, status, ids⟩ := asks.resumed waits resolves
  obtain ⟨-, -, running⟩ := tracked_of_turn asks.turn
  obtain ⟨ending, follows, stepped⟩ := loopStep_turn (asks.turn_answered (some "approve"))
  have inline_calls : requestedCalls (inlineRoute loop state approval).2 = _ :=
    requestedCalls_turn (asks.turn_answered (some "approve"))
  have inline_status : ((inlineRoute loop state approval).1.manager.get task.id).map Task.status =
      some (ending.ended task.markRunning).status := by
    unfold inlineRoute
    rw [stepped]
    exact congrArg (Option.map Task.status) (get_apply_self ending (running _))
  have inline_ids : (inlineRoute loop state approval).1.manager.tasks.map Task.id =
      state.manager.tasks.map Task.id ↔ ∀ error repairs, ending = .replanned error repairs →
        ∀ repair ∈ repairs, (state.manager.get repair.id).isSome = true := by
    unfold inlineRoute
    rw [stepped]
    have applied := ids_apply ending (state.turned task (dispatchCalls loop task.markRunning
      budget none (loop.dispatchable (approval.answered (some "approve")))).budget)
      task.markRunning
    unfold LoopState.turned at applied
    simp only [TaskManager.ids_put, TaskManager.isSome_get_put] at applied
    exact applied
  constructor
  · rintro ⟨same_calls, same_status, same_ids⟩
    rw [inline_calls, calls] at same_calls
    rw [inline_status, status] at same_status
    rw [ids, inline_ids] at same_ids
    by_cases executed : approval.answer.approved.status = .executed
    · rw [if_pos executed] at same_status
      obtain ⟨last, rfl⟩ := completed_of_ended follows (by nofun) (Option.some.inj same_status)
      obtain ⟨-, observed, verdict, verified, accepted⟩ := follows
      have rest : kept approval.rest = [] := by
        by_contra more
        obtain ⟨reason, exceeded⟩ | others := asks.goes_on executed more
        · cases exceeded.symm.trans observed
        · exact others same_calls
      obtain ⟨approved, -⟩ := asks.observed fun _ => rest
      obtain rfl := CallsEnd.observed.inj (approved.symm.trans observed)
      exact ⟨verdict, verified, .inl ⟨executed, rest, accepted⟩⟩
    · rw [if_neg executed] at same_status
      obtain ⟨approved, -⟩ := asks.observed fun is_executed => absurd is_executed executed
      have some_calls : loop.dispatchable (approval.answered (some "approve")) ≠ [] := by
        rw [asks.dispatchable]
        exact List.append_ne_nil_of_right_ne_nil _ (List.cons_ne_nil _ _)
      obtain ⟨error, rfl | ⟨repairs, rfl⟩⟩ :=
        failed_of_ended follows (by nofun) (Option.some.inj same_status)
      · obtain nothing | denied | ⟨last, ⟨-, observed, verdict, verified, refused⟩, ends,
          no_replan⟩ := follows
        · exact absurd nothing some_calls
        · cases approved.symm.trans denied
        · obtain rfl := CallsEnd.observed.inj (approved.symm.trans observed)
          refine ⟨verdict, verified, .inr ⟨executed, refused, ends, fun below repair member => ?_⟩⟩
          exact absurd ⟨below, List.ne_nil_of_mem member⟩ no_replan
      · obtain ⟨-, rfl, -, last, ⟨-, observed, verdict, verified, refused⟩, ends⟩ := follows
        obtain rfl := CallsEnd.observed.inj (approved.symm.trans observed)
        exact ⟨verdict, verified, .inr ⟨executed, refused, ends,
          fun _ => same_ids error _ rfl⟩⟩
  · rintro ⟨verdict, verified, settles⟩
    have last : approval.answer.approved.status = .executed → kept approval.rest = [] := by
      intro is_executed
      obtain ⟨-, rest, -⟩ | ⟨failed, -⟩ := settles
      · exact rest
      · exact absurd is_executed failed
    obtain ⟨approved, passed⟩ := asks.observed last
    have some_calls : loop.dispatchable (approval.answered (some "approve")) ≠ [] := by
      rw [asks.dispatchable]
      exact List.append_ne_nil_of_right_ne_nil _ (List.cons_ne_nil _ _)
    have judged : Judged loop budget task.markRunning (approval.answered (some "approve"))
        (some (observationOf approval.answer.approved)) verdict.ok :=
      ⟨some_calls, approved, verdict, verified, rfl⟩
    have ends_alike : (ending.ended task.markRunning).status =
          (if approval.answer.approved.status = .executed then .completed else .failed) ∧
        ∀ error repairs, ending = .replanned error repairs →
          ∀ repair ∈ repairs, (state.manager.get repair.id).isSome = true := by
      obtain ⟨executed, -, accepted⟩ | ⟨failed, refused, ends, known⟩ := settles
      · rw [accepted] at judged
        obtain rfl := completed_of_judged follows judged
        rw [if_pos executed]
        exact ⟨rfl, nofun⟩
      · rw [refused] at judged
        rw [if_neg failed]
        obtain ⟨error, rfl, -⟩ | ⟨note, -, -, repeats⟩ | ⟨error, repairs, rfl, -, -, below, -⟩ |
          ⟨-, accepted⟩ := follows.cases_of_judged judged
        · exact ⟨rfl, nofun⟩
        · exact absurd repeats ends
        · refine ⟨rfl, ?_⟩
          rintro _ _ ended
          cases ended
          obtain ⟨-, rfl, -⟩ := follows
          exact known below
        · cases accepted
    refine ⟨by rw [inline_calls, calls, passed], ?_, ?_⟩
    · rw [inline_status, status, ends_alike.1]
    · rw [ids, inline_ids]
      exact ends_alike.2

end Routes

namespace Demo

def save : Action := { actionType := "fs.write", params := [("path", .str "notes.txt")] }

def visit : Action := { actionType := "browser.navigate", params := [] }

def saveNotes : Task :=
  { id := "save"
    actionType := "fs.write"
    verify := some [("kind", .str "file_exists"), ("path", .str "notes.txt")] }

/-- A call that has to be confirmed; once approved it is executed. -/
def asked : CallAnswer :=
  { response :=
      { status := .confirmationRequired, decision := .confirm, confirmationId := some "asked" }
    approved := { status := .executed, decision := .allow } }

/-- The notes that are saved. -/
def saved : Workspace :=
  { file := fun path => if path = "notes.txt" then some { bytes := [65] } else none }

def approval (workspace : Workspace) (rest : List (Action × CallAnswer)) : Approval :=
  { iteration := { proposed := .ok [], workspace }
    before := []
    call := save
    answer := asked
    rest }

def saving : LoopState := startRun loop {} [] [saveNotes]

def executedResolution : List ApprovalResolution :=
  [{ confirmationId := "asked", outcome := .executed }]

theorem asks (workspace : Workspace) (rest : List (Action × CallAnswer)) :
    Asks loop saving (approval workspace rest) saveNotes { iterations := 1 } { iterations := 1 } :=
  { turn := rfl
    named := show "fs.write" ≠ "" by decide
    gated := by
      rintro first member
      obtain rfl := Option.some.inj member
      rfl
    passes := rfl
    allowed := rfl
    asks := rfl }

theorem resolves (workspace : Workspace) (rest : List (Action × CallAnswer)) :
    Resolves executedResolution (approval workspace rest) saveNotes :=
  { resolved := ⟨_, rfl, ⟨fun _ => rfl, fun _ => rfl⟩⟩
    alone := nofun }

end Demo

/-- Notes are saved on both routes. -/
theorem routes_agree_iff_demo :
    RoutesAgree Demo.saveNotes (inlineRoute Demo.loop Demo.saving (Demo.approval Demo.saved []))
      (resumeRoute Demo.loop Demo.saving (Demo.approval Demo.saved []) none
        Demo.executedResolution) := by
  refine (routes_agree_iff (Demo.asks _ _) rfl (Demo.resolves _ _)).mpr ?_
  exact ⟨{ ok := true, reason := "file exists" }, rfl, .inl ⟨rfl, rfl, rfl⟩⟩

/-- The resumption completes a task that the verifier refuses inline, and it drops the calls
after the approved one. -/
theorem not_routes_agree :
    ¬RoutesAgree Demo.saveNotes (inlineRoute Demo.loop Demo.saving (Demo.approval {} []))
        (resumeRoute Demo.loop Demo.saving (Demo.approval {} []) none Demo.executedResolution) ∧
      ¬RoutesAgree Demo.saveNotes
        (inlineRoute Demo.loop Demo.saving
          (Demo.approval Demo.saved [(Demo.visit, Demo.answer .executed)]))
        (resumeRoute Demo.loop Demo.saving
          (Demo.approval Demo.saved [(Demo.visit, Demo.answer .executed)]) none
          Demo.executedResolution) := by
  constructor
  · intro agree
    exact absurd agree.status (by decide)
  · intro agree
    exact absurd (congrArg List.length agree.calls) (by decide)

end Era.Agents
