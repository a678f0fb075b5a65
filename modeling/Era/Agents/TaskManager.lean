import Era.Core.Platform
import Era.Lib.Table

/-!
# Tasks of an agent run

A run has one task for each identifier.  A task waits until the tasks that it depends on are
completed, and it ends completed, failed or skipped.
-/

namespace Era.Agents

open Era.Core Era.Lib

inductive TaskStatus where
  | pending
  | running
  | completed
  | failed
  | retrying
  | waitingForUser
  | skipped
  deriving DecidableEq, Repr

inductive RunStatus where
  | planning
  | running
  | waitingForUser
  | completed
  | failed
  | budgetExceeded
  deriving DecidableEq, Repr

/-- One actionable step of a plan. -/
structure Task where
  id : String
  title : String := ""
  actionType : String
  params : Params := []
  status : TaskStatus := .pending
  dependsOn : List String := []
  verify : Option Params := none
  required : Bool := true
  attempt : Int := 0
  maxAttempts : Int := 3
  waitingOn : List String := []
  correctionNote : Option String := none
  error : Option String := none

namespace Task

variable (task : Task)

def markRunning : Task := { task with status := .running }

def complete : Task := { task with status := .completed }

def fail (error : String) : Task :=
  { task with status := .failed, error := some (pyTake error 500) }

def skip (reason : String) : Task :=
  { task with status := .skipped, error := some (pyTake reason 500) }

def retryAllowed : Bool := decide (task.attempt + 1 < task.maxAttempts)

/-- `retry`; nothing but the attempt is counted at the cap. -/
def retry (correctionNote : String) : Task :=
  let counted := { task with attempt := task.attempt + 1 }
  if counted.attempt ≥ counted.maxAttempts then counted
  else { counted with status := .pending, correctionNote := some (pyTake correctionNote 500) }

def pauseForUser (confirmationId : String) : Task :=
  { task with
    status := .waitingForUser
    waitingOn :=
      if task.waitingOn.contains confirmationId then task.waitingOn
      else task.waitingOn ++ [confirmationId] }

@[simp] theorem id_markRunning : task.markRunning.id = task.id := rfl
@[simp] theorem id_complete : task.complete.id = task.id := rfl
@[simp] theorem id_fail (error : String) : (task.fail error).id = task.id := rfl
@[simp] theorem id_skip (reason : String) : (task.skip reason).id = task.id := rfl
@[simp] theorem id_pauseForUser (confirmationId : String) :
    (task.pauseForUser confirmationId).id = task.id := rfl

@[simp] theorem id_retry (note : String) : (task.retry note).id = task.id := by
  unfold retry
  dsimp only
  split <;> rfl

theorem status_retry (note : String) (allowed : task.retryAllowed = true) :
    (task.retry note).status = .pending := by
  unfold retryAllowed at allowed
  unfold retry
  dsimp only
  rw [if_neg (not_le.mpr (of_decide_eq_true allowed))]

end Task

/-- The tasks of a run, in the order in which their identifiers were first seen. -/
structure TaskManager where
  tasks : List Task
  ids_nodup : (tasks.map Task.id).Nodup

namespace TaskManager

variable (manager : TaskManager)

/-- `_tasks.get`. -/
def get (id : String) : Option Task := Table.find Task.id manager.tasks id

/-- A task object is changed in place. -/
def put (task : Task) : TaskManager :=
  { tasks := Table.store Task.id manager.tasks task
    ids_nodup := by
      rw [Table.map_key_store]
      exact manager.ids_nodup }

/-- A task with a new identifier comes last. -/
def append (task : Task) (absent : manager.get task.id = none) : TaskManager :=
  { tasks := manager.tasks ++ [task]
    ids_nodup := Table.nodup_append manager.ids_nodup absent }

/-- `_tasks[task.id] = task`. -/
def assign (task : Task) : TaskManager :=
  match found : manager.get task.id with
  | some _ => manager.put task
  | none => manager.append task found

/-- `add`; a task with a known identifier is dropped. -/
def add (task : Task) : TaskManager :=
  match found : manager.get task.id with
  | some _ => manager
  | none => manager.append task found

/-- `TaskManager(tasks)`. -/
def ofTasks (tasks : List Task) : TaskManager :=
  tasks.foldl assign { tasks := [], ids_nodup := List.nodup_nil }

/-! ## Queries -/

def pending : List Task := manager.tasks.filter fun task => task.status = .pending

def waiting : List Task := manager.tasks.filter fun task => task.status = .waitingForUser

def hasPending : Bool := manager.tasks.any fun task => task.status = .pending

/-- `_dep_completed`. -/
def depCompleted (id : String) : Bool :=
  (manager.get id).any fun dependency => dependency.status = .completed

/-- `_dep_terminal_failed`; an unknown dependency can never be satisfied. -/
def depTerminalFailed (id : String) : Bool :=
  match manager.get id with
  | none => true
  | some dependency => dependency.status = .failed || dependency.status = .skipped

/-- The first pending task whose dependencies are all completed. -/
def nextReady : Option Task :=
  manager.tasks.find? fun task =>
    task.status = .pending && task.dependsOn.all manager.depCompleted

/-- Pending tasks with a dependency that has failed, has been skipped or does not exist. -/
def blockedPending : List Task :=
  manager.tasks.filter fun task =>
    task.status = .pending && task.dependsOn.any manager.depTerminalFailed

def count (status : TaskStatus) : Nat := manager.tasks.countP fun task => task.status = status

/-- `skip` of several tasks. -/
def skipAll (reason : String) (dead : List Task) : TaskManager :=
  dead.foldl (fun manager task => manager.put (task.skip reason)) manager

/-! ## What is found -/

variable {manager}

theorem mem_of_get {id : String} {task : Task} (found : manager.get id = some task) :
    task ∈ manager.tasks ∧ task.id = id :=
  Table.find_eq_some found

theorem get_of_mem {task : Task} (member : task ∈ manager.tasks) :
    manager.get task.id = some task :=
  Table.find_of_mem manager.ids_nodup member

theorem get_put_self {task earlier : Task} (found : manager.get task.id = some earlier) :
    (manager.put task).get task.id = some task :=
  Table.find_store_self found

theorem get_put_ne {task : Task} {id : String} (different : id ≠ task.id) :
    (manager.put task).get id = manager.get id :=
  Table.find_store_ne different

theorem mem_put {task other : Task} (member : other ∈ (manager.put task).tasks) :
    other = task ∨ other ∈ manager.tasks ∧ other.id ≠ task.id :=
  Table.mem_store member

theorem get_add_of_some {task other : Task} {id : String} (found : manager.get id = some other) :
    (manager.add task).get id = some other := by
  unfold add
  split
  · exact found
  · exact Table.find_append_of_some found

/-- New tasks leave those that are tracked alone. -/
theorem get_addAll_of_some {tasks : List Task} {other : Task} {id : String}
    (found : manager.get id = some other) : (tasks.foldl add manager).get id = some other := by
  induction tasks generalizing manager with
  | nil => exact found
  | cons task rest ih => exact ih (get_add_of_some found)

/-- A skipped task has that status, and the others are left alone. -/
theorem get_skipAll {reason : String} {dead : List Task} {id : String} {later : Task}
    (found : (manager.skipAll reason dead).get id = some later) :
    later.status = .skipped ∨ manager.get id = some later := by
  unfold skipAll at found
  induction dead generalizing manager with
  | nil => exact .inr found
  | cons task rest ih =>
      obtain skipped | before := ih found
      · exact .inl skipped
      · by_cases same : id = task.id
        · obtain ⟨member, named⟩ := mem_of_get before
          obtain now | ⟨-, different⟩ := mem_put member
          · exact .inl (now ▸ rfl)
          · exact absurd (named.trans same) different
        · exact .inr ((@get_put_ne manager (task.skip reason) id same).symm.trans before)

theorem mem_add {task other : Task} (member : other ∈ (manager.add task).tasks) :
    other = task ∨ other ∈ manager.tasks := by
  unfold add at member
  split at member
  · exact .inr member
  · obtain earlier | new := List.mem_append.mp member
    · exact .inr earlier
    · exact .inl (List.mem_singleton.mp new)

theorem mem_addAll {tasks : List Task} {other : Task}
    (member : other ∈ (tasks.foldl add manager).tasks) :
    other ∈ manager.tasks ∨ other ∈ tasks := by
  induction tasks generalizing manager with
  | nil => exact .inl member
  | cons task rest ih =>
      obtain earlier | later := ih member
      · obtain same | known := mem_add earlier
        · exact .inr (same ▸ List.mem_cons_self)
        · exact .inl known
      · exact .inr (List.mem_cons_of_mem task later)

theorem mem_assign {task other : Task} (member : other ∈ (manager.assign task).tasks) :
    other = task ∨ other ∈ manager.tasks := by
  unfold assign at member
  split at member
  · obtain same | ⟨earlier, _⟩ := mem_put member
    · exact .inl same
    · exact .inr earlier
  · obtain earlier | new := List.mem_append.mp member
    · exact .inr earlier
    · exact .inl (List.mem_singleton.mp new)

/-- A run tracks tasks of its plan only. -/
theorem mem_ofTasks {tasks : List Task} {task : Task} (member : task ∈ (ofTasks tasks).tasks) :
    task ∈ tasks := by
  have generalized : ∀ manager : TaskManager, task ∈ (tasks.foldl assign manager).tasks →
      task ∈ manager.tasks ∨ task ∈ tasks := by
    clear member
    induction tasks with
    | nil => exact fun _ found => .inl found
    | cons first rest ih =>
        intro manager found
        obtain earlier | later := ih _ found
        · obtain same | known := mem_assign earlier
          · exact .inr (same ▸ List.mem_cons_self)
          · exact .inl known
        · exact .inr (List.mem_cons_of_mem first later)
  obtain none | found := generalized _ member
  · cases none
  · exact found

/-- A ready task is pending, and its dependencies are completed. -/
theorem nextReady_some {task : Task} (ready : manager.nextReady = some task) :
    task ∈ manager.tasks ∧ task.status = .pending ∧
      ∀ id ∈ task.dependsOn, manager.depCompleted id = true := by
  have found := List.find?_some ready
  simp only [Bool.and_eq_true, decide_eq_true_eq, List.all_eq_true] at found
  exact ⟨List.mem_of_find?_eq_some ready, found.1, found.2⟩

theorem pending_put_skip (reason : String) (task : Task) :
    (manager.put (task.skip reason)).pending =
      manager.pending.filter fun other => other.id ≠ task.id := by
  unfold pending put Table.store
  rw [List.filter_map, List.filter_filter]
  have kept : manager.tasks.filter ((fun other => decide (other.status = .pending)) ∘ fun other =>
        if other.id = (task.skip reason).id then task.skip reason else other) =
      manager.tasks.filter fun other =>
        decide (other.id ≠ task.id) && decide (other.status = .pending) := by
    apply List.filter_congr
    intro other _
    by_cases same : other.id = task.id <;> simp [same, Task.skip]
  rw [kept]
  have unchanged : ∀ other ∈ manager.tasks.filter fun other =>
      decide (other.id ≠ task.id) && decide (other.status = .pending),
      (if other.id = (task.skip reason).id then task.skip reason else other) = id other := by
    intro other member
    have different := (List.mem_filter.mp member).2
    rw [Bool.and_eq_true, decide_eq_true_eq] at different
    exact if_neg different.1
  rw [List.map_congr_left unchanged, List.map_id]

/-- What is skipped is no longer pending, and the others are as they were. -/
theorem pending_skipAll (reason : String) (dead : List Task) :
    (manager.skipAll reason dead).pending =
      manager.pending.filter fun task => !(dead.map Task.id).contains task.id := by
  unfold skipAll
  induction dead generalizing manager with
  | nil => exact (List.filter_eq_self.mpr fun _ _ => rfl).symm
  | cons first rest ih =>
      rw [List.foldl_cons, ih, pending_put_skip, List.filter_filter]
      apply List.filter_congr
      intro task _
      by_cases same : task.id = first.id <;> simp [same]

/-- Skipping a pending task leaves fewer of them. -/
theorem pending_skipAll_lt {reason : String} {dead : List Task} {task : Task}
    (chosen : task ∈ dead) (pending : task ∈ manager.pending) :
    (manager.skipAll reason dead).pending.length < manager.pending.length := by
  rw [pending_skipAll, List.length_filter_lt_length_iff_exists]
  refine ⟨task, pending, ?_⟩
  simpa using ⟨task, chosen, rfl⟩

theorem hasPending_iff : manager.hasPending = true ↔ ∃ task ∈ manager.tasks,
    task.status = .pending := by
  simp [hasPending]

/-! ## Several tasks at once -/

theorem ids_put (task : Task) : (manager.put task).tasks.map Task.id = manager.tasks.map Task.id :=
  Table.map_key_store task

/-- Tasks with distinct identifiers are all tracked, in their order. -/
theorem tasks_ofTasks {tasks : List Task} (distinct : (tasks.map Task.id).Nodup) :
    (ofTasks tasks).tasks = tasks := by
  have generalized : ∀ manager : TaskManager, ((manager.tasks ++ tasks).map Task.id).Nodup →
      (tasks.foldl assign manager).tasks = manager.tasks ++ tasks := by
    clear distinct
    induction tasks with
    | nil => exact fun manager _ => (List.append_nil _).symm
    | cons first rest ih =>
        intro manager distinct
        have fresh : manager.get first.id = none := by
          cases found : manager.get first.id with
          | none => rfl
          | some earlier =>
              obtain ⟨member, same⟩ := mem_of_get found
              rw [List.map_append, List.map_cons] at distinct
              have apart := (List.nodup_append.mp distinct).2.2 earlier.id
                (List.mem_map_of_mem member) first.id List.mem_cons_self
              exact absurd same apart
        have appended : (manager.assign first).tasks = manager.tasks ++ [first] := by
          unfold assign
          split
          next earlier found => cases found.symm.trans fresh
          · rfl
        rw [List.foldl_cons, ih _ (by rw [appended]; simpa using distinct), appended]
        simp
  exact generalized _ distinct

/-- Changing tasks leaves the others alone. -/
theorem get_foldl_put_ne {change : Task → Task} (keeps : ∀ task, (change task).id = task.id)
    {tasks : List Task} {id : String} (different : ∀ other ∈ tasks, other.id ≠ id) :
    (tasks.foldl (fun manager task => manager.put (change task)) manager).get id =
      manager.get id := by
  induction tasks generalizing manager with
  | nil => rfl
  | cons first rest ih =>
      rw [List.foldl_cons, ih fun other later => different other (.tail _ later)]
      exact get_put_ne (by rw [keeps]; exact (different first (.head _)).symm)

/-- Distinct tasks are changed one by one. -/
theorem get_foldl_put {change : Task → Task} (keeps : ∀ task, (change task).id = task.id)
    {tasks : List Task} (distinct : (tasks.map Task.id).Nodup) {task earlier : Task}
    (member : task ∈ tasks) (found : manager.get task.id = some earlier) :
    (tasks.foldl (fun manager task => manager.put (change task)) manager).get task.id =
      some (change task) := by
  induction tasks generalizing manager earlier with
  | nil => cases member
  | cons first rest ih =>
      obtain ⟨fresh, distinct_rest⟩ := List.nodup_cons.mp distinct
      rw [List.foldl_cons]
      obtain rfl | later := List.mem_cons.mp member
      · rw [get_foldl_put_ne keeps fun other later same =>
          fresh (List.mem_map.mpr ⟨other, later, same⟩)]
        have put := @get_put_self manager (change task) earlier (by rw [keeps]; exact found)
        rw [keeps] at put
        exact put
      · have different : task.id ≠ first.id :=
          fun same => fresh (List.mem_map.mpr ⟨task, later, same⟩)
        exact ih distinct_rest later
          ((get_put_ne (by rw [keeps]; exact different)).trans found)

theorem isSome_get_put (task : Task) (id : String) :
    ((manager.put task).get id).isSome = (manager.get id).isSome := by
  by_cases same : id = task.id
  · cases found : manager.get id with
    | none =>
        have absent : (manager.put task).get id = none := by
          cases put : (manager.put task).get id with
          | none => rfl
          | some other =>
              obtain ⟨member, named⟩ := mem_of_get put
              have stored := @List.mem_map_of_mem _ _ _ other Task.id member
              rw [ids_put] at stored
              obtain ⟨earlier, tracked, same'⟩ := List.mem_map.mp stored
              have known := get_of_mem tracked
              rw [same', named, found] at known
              cases known
        rw [absent]
    | some earlier =>
        rw [same] at found ⊢
        rw [get_put_self found]
        rfl
  · rw [get_put_ne same]

theorem ids_foldl_put {change : Task → Task} (tasks : List Task) :
    (tasks.foldl (fun manager task => manager.put (change task)) manager).tasks.map Task.id =
      manager.tasks.map Task.id := by
  induction tasks generalizing manager with
  | nil => rfl
  | cons first rest ih => rw [List.foldl_cons, ih, ids_put]

/-- New tasks are tracked unless all of them are known. -/
theorem ids_addAll {tasks : List Task} :
    (tasks.foldl add manager).tasks.map Task.id = manager.tasks.map Task.id ↔
      ∀ task ∈ tasks, (manager.get task.id).isSome = true := by
  have grows : ∀ (tasks : List Task) (manager : TaskManager),
      manager.tasks.length ≤ (tasks.foldl add manager).tasks.length := by
    intro tasks
    induction tasks with
    | nil => exact fun _ => le_rfl
    | cons first rest ih =>
        intro manager
        refine le_trans ?_ (ih (manager.add first))
        unfold add
        split
        · exact le_rfl
        · exact (List.length_append).symm ▸ Nat.le_add_right _ _
  induction tasks generalizing manager with
  | nil => simp
  | cons first rest ih =>
      rw [List.foldl_cons, List.forall_mem_cons]
      cases known : manager.get first.id with
      | some earlier =>
          have same : manager.add first = manager := by
            unfold add
            split
            · rfl
            next absent => cases known.symm.trans absent
          rw [same]
          exact ih.trans (by simp)
      | none =>
          have appended : (manager.add first).tasks = manager.tasks ++ [first] := by
            unfold add
            split
            next other found => cases found.symm.trans known
            · rfl
          have longer := grows rest (manager.add first)
          rw [appended, List.length_append, List.length_singleton] at longer
          constructor
          · intro same
            have lengths := congrArg List.length same
            rw [List.length_map, List.length_map] at lengths
            omega
          · rintro ⟨impossible, -⟩
            cases impossible

end TaskManager

end Era.Agents
