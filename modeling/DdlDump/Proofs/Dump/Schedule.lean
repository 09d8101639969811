import DdlDump.Proofs.Dump.Recorded
import Mathlib.Algebra.GroupWithZero.Nat
import Mathlib.Data.List.Count

/-!
# Schedules of a pool

Workers that share a list of tasks begin them, work on them and finish them side by side, so that
what happens during one task may happen between what happens during another. A schedule names, step
by step, the task that gets on; only so many tasks are in work at a time as there are workers, and
the result of a task goes where the task stands in the list.

Whatever the schedule, the results of the tasks and what happens during them are settled beforehand:
a step neither changes what a task will come to nor loses or repeats anything that happens
(`preserves_step?`). When all tasks are done the results are those of the tasks in their order, and
everything has happened once, in some order (`IsOutcome.value_eq`, `IsOutcome.events_perm`). A pool
with at least one worker gets there from wherever it is (`exists_isOutcome`), and doing whole tasks
one after another in any order is one way of getting there (`isOutcome_run`).
-/

namespace DdlDump

namespace Pool

variable {α : Type}

/-! ### Tasks and pools at work -/

/-- How far a task has got. -/
inductive Progress (α : Type)
  | waiting (task : Recorded α)
  /-- What is still to happen, and the result. -/
  | running (rest : Recorded α)
  | done (result : α)

namespace Progress

/-- A waiting task is begun, a running one goes on with the next thing to happen, and when nothing
is left to happen it is done. Each step comes with what happens in it. -/
def next? : Progress α → Option (Progress α × List Event)
  | waiting task => some (running task, [])
  | running ⟨a, []⟩ => some (done a, [])
  | running ⟨a, e :: events⟩ => some (running ⟨a, events⟩, [e])
  | done _ => none

/-- Whether a task is in work. -/
def isRunning : Progress α → Bool
  | running _ => true
  | _ => false

/-- Whether a task has still to be begun. -/
def isWaiting : Progress α → Bool
  | waiting _ => true
  | _ => false

/-- What a task comes to. -/
def result : Progress α → α
  | waiting task => task.value
  | running rest => rest.value
  | done a => a

/-- What is still to happen during a task. -/
def pending : Progress α → List Event
  | waiting task => task.events
  | running rest => rest.events
  | done _ => []

/-- The number of steps that a task has still to make. -/
def work : Progress α → Nat
  | waiting task => task.events.length + 2
  | running rest => rest.events.length + 1
  | done _ => 0

section Next

variable {p q : Progress α} {events : List Event}

/-- A step of a task changes nothing about its result, takes what happens from what is to happen,
and brings the task one step further. -/
lemma of_next? (h : p.next? = some (q, events)) :
    q.result = p.result ∧ p.pending = events ++ q.pending ∧ p.work = q.work + 1 := by
  match p, h with
  | waiting task, rfl => exact ⟨rfl, rfl, rfl⟩
  | running ⟨a, []⟩, rfl => exact ⟨rfl, rfl, rfl⟩
  | running ⟨a, e :: rest⟩, rfl => exact ⟨rfl, rfl, rfl⟩

/-- A task without steps to make is done. -/
lemma eq_done_of_work_eq_zero (h : p.work = 0) : p = done p.result := by
  cases p with
  | waiting task => exact absurd h (Nat.succ_ne_zero _)
  | running rest => exact absurd h (Nat.succ_ne_zero _)
  | done a => rfl

/-- Any other task has a next step. -/
lemma exists_next? (h : p.work ≠ 0) : ∃ step, p.next? = some step := by
  match p, h with
  | waiting task, _ => exact ⟨_, rfl⟩
  | running ⟨a, []⟩, _ => exact ⟨_, rfl⟩
  | running ⟨a, e :: rest⟩, _ => exact ⟨_, rfl⟩
  | done a, h => exact absurd rfl h

end Next

end Progress

/-- A pool at work: how far its tasks have got, and what has happened. -/
structure State (α : Type) where
  tasks : List (Progress α)
  events : List Event

/-- A pool before any task is begun. -/
def start (tasks : List (Recorded α)) : State α :=
  ⟨tasks.map .waiting, []⟩

namespace State

/-- The number of tasks in work. -/
def busy (s : State α) : Nat :=
  s.tasks.countP Progress.isRunning

/-- The next step of the task at a position. No task is begun while all workers are busy. -/
def step? (workers : Nat) (s : State α) (i : Nat) : Option (State α) :=
  match s.tasks[i]? with
  | none => none
  | some p =>
    if p.isWaiting ∧ workers ≤ s.busy then none
    else p.next?.map fun step => ⟨s.tasks.set i step.1, s.events ++ step.2⟩

/-- What the tasks come to, in their order. -/
def results (s : State α) : List α :=
  s.tasks.map Progress.result

/-- What is still to happen. -/
def pending (s : State α) : List Event :=
  s.tasks.flatMap Progress.pending

/-- The number of steps that are still to be made. -/
def work (s : State α) : Nat :=
  (s.tasks.map Progress.work).sum

/-- What one state of a pool keeps of another: the results, and everything that has happened or is
still to happen. -/
structure Preserves (s s' : State α) : Prop where
  results : s'.results = s.results
  events : (s'.events ++ s'.pending).Perm (s.events ++ s.pending)

lemma Preserves.refl (s : State α) : Preserves s s :=
  ⟨rfl, .refl _⟩

lemma Preserves.trans {s s' s'' : State α} (h : Preserves s s') (h' : Preserves s' s'') :
    Preserves s s'' :=
  ⟨h'.results.trans h.results, h'.events.trans h.events⟩

end State

/-- The state that a pool gets to when its tasks get on in the order of a schedule. -/
def follow? (workers : Nat) : List Nat → State α → Option (State α)
  | [], s => some s
  | i :: schedule, s => (s.step? workers i).bind (follow? workers schedule)

/-! ### What steps preserve -/

section Step

variable {workers i : Nat} {s s' : State α} {schedule : List Nat}

/-- A step is the next step of one task, in its place. -/
lemma step?_cases (h : s.step? workers i = some s') :
    ∃ front p back q events, s.tasks = front ++ p :: back ∧ p.next? = some (q, events) ∧
      s' = ⟨front ++ q :: back, s.events ++ events⟩ := by
  unfold State.step? at h
  split at h
  · exact absurd h (Option.some_ne_none s').symm
  · next p hp =>
    split at h
    · exact absurd h (Option.some_ne_none s').symm
    · obtain ⟨⟨q, events⟩, hnext, rfl⟩ := Option.map_eq_some_iff.1 h
      obtain ⟨hi, rfl⟩ := List.getElem?_eq_some_iff.1 hp
      refine ⟨s.tasks.take i, s.tasks[i], s.tasks.drop (i + 1), q, events, ?_, hnext, ?_⟩
      · rw [List.getElem_cons_drop, List.take_append_drop]
      · rw [List.set_eq_take_append_cons_drop, if_pos hi]

/-- A step keeps the results, and what happens in it was still to happen. -/
lemma preserves_step? (h : s.step? workers i = some s') : s.Preserves s' := by
  obtain ⟨front, p, back, q, events, htasks, hnext, rfl⟩ := step?_cases h
  obtain ⟨hresult, hpending, -⟩ := Progress.of_next? hnext
  constructor
  · unfold State.results
    rw [htasks, List.map_append, List.map_append, List.map_cons, List.map_cons, hresult]
  · unfold State.pending
    rw [htasks, List.flatMap_append, List.flatMap_append, List.flatMap_cons, List.flatMap_cons,
      hpending]
    simp only [List.append_assoc]
    exact (List.perm_append_comm_assoc events _ _).append_left s.events

/-- Every step is one of those that are still to be made. -/
lemma work_step? (h : s.step? workers i = some s') : s.work = s'.work + 1 := by
  obtain ⟨front, p, back, q, events, htasks, hnext, rfl⟩ := step?_cases h
  obtain ⟨-, -, hwork⟩ := Progress.of_next? hnext
  unfold State.work
  rw [htasks, List.map_append, List.map_append, List.map_cons, List.map_cons, List.sum_append,
    List.sum_append, List.sum_cons, List.sum_cons, hwork]
  omega

/-- As long as steps are to be made, a pool with a worker makes one. -/
lemma exists_step? (hworkers : 0 < workers) (h : s.work ≠ 0) :
    ∃ i s', s.step? workers i = some s' := by
  have hstep : ∀ p ∈ s.tasks, p.work ≠ 0 → ¬ (p.isWaiting = true ∧ workers ≤ s.busy) →
      ∃ i s', s.step? workers i = some s' := by
    intro p hp hwork hfree
    obtain ⟨i, hi⟩ := List.mem_iff_getElem?.1 hp
    obtain ⟨step, hnext⟩ := Progress.exists_next? hwork
    refine ⟨i, ⟨s.tasks.set i step.1, s.events ++ step.2⟩, ?_⟩
    unfold State.step?
    rw [hi]
    simp only [if_neg hfree, hnext, Option.map_some]
  by_cases hrunning : ∃ p ∈ s.tasks, p.isRunning = true
  · obtain ⟨p, hp, hrun⟩ := hrunning
    cases p with
    | waiting task => exact absurd hrun Bool.false_ne_true
    | running rest => exact hstep _ hp (Nat.succ_ne_zero _) fun hwait => Bool.false_ne_true hwait.1
    | done a => exact absurd hrun Bool.false_ne_true
  · -- no worker is busy, so that a task can be begun
    have hidle : s.busy = 0 := by
      unfold State.busy
      rw [List.countP_eq_zero]
      exact fun p hp hrun => hrunning ⟨p, hp, hrun⟩
    obtain ⟨p, hp, hwork⟩ : ∃ p ∈ s.tasks, p.work ≠ 0 := by
      by_contra! hnone
      refine h (List.sum_eq_zero_iff_forall_eq_nat.2 fun n hn => ?_)
      obtain ⟨p, hp, rfl⟩ := List.mem_map.1 hn
      exact hnone p hp
    exact hstep p hp hwork fun hbusy => absurd (hidle ▸ hbusy.2) (Nat.not_le_of_lt hworkers)

end Step

/-! ### What schedules come to -/

section Follow

variable {workers : Nat} {s s' : State α} {schedule : List Nat}

/-- A schedule can be followed in two parts. -/
lemma follow?_append (front back : List Nat) (s : State α) :
    follow? workers (front ++ back) s = (follow? workers front s).bind (follow? workers back) := by
  induction front generalizing s with
  | nil => rfl
  | cons i front ih =>
    rw [List.cons_append, follow?, follow?, Option.bind_assoc]
    exact congrArg (Option.bind _) (funext ih)

/-- A schedule keeps the results and everything that happens. -/
lemma preserves_follow? (h : follow? workers schedule s = some s') : s.Preserves s' := by
  induction schedule generalizing s with
  | nil =>
    obtain rfl : s = s' := Option.some.inj h
    exact .refl s
  | cons i schedule ih =>
    obtain ⟨next, hstep, hrest⟩ := Option.bind_eq_some_iff.1 h
    exact (preserves_step? hstep).trans (ih hrest)

/-- With no steps to make, all tasks are done and nothing is left to happen. -/
lemma tasks_of_work_eq_zero (h : s.work = 0) :
    s.tasks = s.results.map .done ∧ s.pending = [] := by
  have hdone : ∀ p ∈ s.tasks, p = .done p.result := fun p hp =>
    Progress.eq_done_of_work_eq_zero
      (List.sum_eq_zero_iff_forall_eq_nat.1 h _ (List.mem_map_of_mem hp))
  constructor
  · unfold State.results
    rw [List.map_map]
    conv_lhs => rw [← List.map_id s.tasks]
    exact List.map_congr_left hdone
  · unfold State.pending
    rw [List.flatMap_eq_nil_iff]
    intro p hp
    rw [hdone p hp]
    rfl

/-- Wherever a pool with a worker has got to, a schedule brings it to an end. -/
lemma exists_follow?_done (hworkers : 0 < workers) (s : State α) :
    ∃ schedule s', follow? workers schedule s = some s' ∧ s'.work = 0 := by
  induction hwork : s.work generalizing s with
  | zero => exact ⟨[], s, rfl, hwork⟩
  | succ n ih =>
    have hne : s.work ≠ 0 := by
      rw [hwork]
      exact Nat.succ_ne_zero n
    obtain ⟨i, next, hstep⟩ := exists_step? hworkers hne
    have hless : n + 1 = next.work + 1 := hwork ▸ work_step? hstep
    obtain ⟨schedule, s', hfollow, hdone⟩ := ih next (Nat.succ.inj hless).symm
    refine ⟨i :: schedule, s', ?_, hdone⟩
    rw [follow?, hstep, Option.bind_some, hfollow]

end Follow

/-- What comes of the tasks of a pool by some schedule after which all of them are done. -/
def IsOutcome (workers : Nat) (tasks : List (Recorded α)) (x : Recorded (List α)) : Prop :=
  ∃ schedule, follow? workers schedule (start tasks) = some ⟨x.value.map .done, x.events⟩

section Outcome

variable {workers : Nat} {tasks : List (Recorded α)} {x : Recorded (List α)}

lemma results_start (tasks : List (Recorded α)) :
    (start tasks).results = tasks.map Recorded.value := by
  unfold State.results start
  rw [List.map_map]
  rfl

lemma pending_start (tasks : List (Recorded α)) :
    (start tasks).pending = tasks.flatMap Recorded.events := by
  unfold State.pending start
  rw [List.flatMap_map]
  rfl

/-- The results stand in the order of the tasks. -/
lemma IsOutcome.value_eq (h : IsOutcome workers tasks x) :
    x.value = tasks.map Recorded.value := by
  obtain ⟨schedule, hfollow⟩ := h
  have hresults := (preserves_follow? hfollow).results
  rw [results_start] at hresults
  rw [← hresults]
  unfold State.results
  rw [List.map_map]
  exact (List.map_id _).symm

/-- Everything that happens during the tasks happens once. -/
lemma IsOutcome.events_perm (h : IsOutcome workers tasks x) :
    x.events.Perm (tasks.flatMap Recorded.events) := by
  obtain ⟨schedule, hfollow⟩ := h
  have hevents := (preserves_follow? hfollow).events
  have hnone : (⟨x.value.map .done, x.events⟩ : State α).pending = [] := by
    unfold State.pending
    rw [List.flatMap_map, List.flatMap_eq_nil_iff]
    exact fun _ _ => rfl
  rw [hnone, List.append_nil, pending_start] at hevents
  exact hevents

/-- Every schedule that a pool has followed can be completed to an outcome. -/
lemma exists_isOutcome (hworkers : 0 < workers) {schedule : List Nat} {s : State α}
    (h : follow? workers schedule (start tasks) = some s) :
    ∃ (rest : List Nat) (x : Recorded (List α)),
      follow? workers (schedule ++ rest) (start tasks) = some ⟨x.value.map .done, x.events⟩ := by
  obtain ⟨rest, s', hrest, hdone⟩ := exists_follow?_done hworkers s
  refine ⟨rest, ⟨s'.results, s'.events⟩, ?_⟩
  rw [follow?_append, h, Option.bind_some, hrest, ← (tasks_of_work_eq_zero hdone).1]

end Outcome

/-! ### Whole tasks one after another -/

section Run

variable {β : Type} {workers i : Nat} {tasks : List (Recorded α)} {order : List Nat}

/-- The step of a task whose position is known. -/
lemma step?_of_getElem? {s : State α} {p : Progress α} (hp : s.tasks[i]? = some p)
    (hfree : p.isWaiting = true → s.busy < workers) :
    s.step? workers i =
      p.next?.map fun step => ⟨s.tasks.set i step.1, s.events ++ step.2⟩ := by
  unfold State.step?
  rw [hp]
  exact if_neg fun h => Nat.not_le_of_lt (hfree h.1) h.2

/-- A running task goes on to its end when nothing else does. -/
lemma follow?_running {T : List (Progress α)} {a : α} (rest events : List Event)
    (hT : T[i]? = some (.running ⟨a, rest⟩)) :
    follow? workers (List.replicate (rest.length + 1) i) ⟨T, events⟩ =
      some ⟨T.set i (.done a), events ++ rest⟩ := by
  have hstep : State.step? workers ⟨T, events⟩ i =
      (Progress.next? (.running ⟨a, rest⟩)).map fun step =>
        ⟨T.set i step.1, events ++ step.2⟩ :=
    step?_of_getElem? hT fun h => absurd h Bool.false_ne_true
  induction rest generalizing T events with
  | nil =>
    rw [List.length_nil, List.replicate_one, follow?, hstep]
    rfl
  | cons e rest ih =>
    have hi : i < T.length := (List.getElem?_eq_some_iff.1 hT).1
    have hset : (T.set i (.running ⟨a, rest⟩))[i]? = some (.running ⟨a, rest⟩) :=
      List.getElem?_set_self hi
    rw [List.length_cons, List.replicate_succ, follow?, hstep]
    simp only [Progress.next?, Option.map_some, Option.bind_some]
    rw [ih (events ++ [e]) hset (step?_of_getElem? hset fun h => absurd h Bool.false_ne_true),
      List.set_set, List.append_assoc, List.singleton_append]

/-- A task is done as a whole while no other one is in work. -/
lemma follow?_task {T : List (Progress α)} {task : Recorded α} (hworkers : 0 < workers)
    (events : List Event) (hidle : T.countP Progress.isRunning = 0)
    (hT : T[i]? = some (.waiting task)) :
    ∃ schedule, follow? workers schedule ⟨T, events⟩ =
      some ⟨T.set i (.done task.value), events ++ task.events⟩ := by
  have hi : i < T.length := (List.getElem?_eq_some_iff.1 hT).1
  have hset : (T.set i (.running task))[i]? = some (.running task) := List.getElem?_set_self hi
  refine ⟨i :: List.replicate (task.events.length + 1) i, ?_⟩
  rw [follow?, step?_of_getElem? hT fun _ => ?_]
  · simp only [Progress.next?, Option.map_some, Option.bind_some, List.append_nil]
    rw [follow?_running task.events events hset, List.set_set]
  · unfold State.busy
    rwa [hidle]

/-- Something for every task: `g` where it stands at one of the positions, and `h` elsewhere. -/
def pick (tasks : List (Recorded α)) (g h : Recorded α → β) (positions : List Nat) : List β :=
  tasks.mapIdx fun i task => if i ∈ positions then g task else h task

section Pick

variable {g h : Recorded α → β} {positions : List Nat} {task : Recorded α}

lemma getElem?_pick (htask : tasks[i]? = some task) :
    (pick tasks g h positions)[i]? = some (if i ∈ positions then g task else h task) := by
  unfold pick
  rw [List.getElem?_mapIdx, htask]
  rfl

/-- One more position. -/
lemma set_pick (htask : tasks[i]? = some task) :
    (pick tasks g h positions).set i (g task) = pick tasks g h (i :: positions) := by
  refine List.ext_getElem? fun j => ?_
  unfold pick
  rw [List.getElem?_set, List.getElem?_mapIdx, List.getElem?_mapIdx]
  by_cases hj : i = j
  · subst hj
    obtain ⟨hi, rfl⟩ := List.getElem?_eq_some_iff.1 htask
    simp [hi]
  · simp [hj, Ne.symm hj]

/-- No position. -/
lemma pick_nil (tasks : List (Recorded α)) (g h : Recorded α → β) :
    pick tasks g h [] = tasks.map h := by
  refine List.ext_getElem? fun j => ?_
  unfold pick
  simp

/-- Every position. -/
lemma pick_of_forall_mem (hall : ∀ i < tasks.length, i ∈ positions) :
    pick tasks g h positions = tasks.map g := by
  refine List.ext_getElem? fun j => ?_
  unfold pick
  rw [List.getElem?_mapIdx, List.getElem?_map]
  cases htask : tasks[j]? with
  | none => rfl
  | some task => simp [hall j (List.getElem?_eq_some_iff.1 htask).1]

end Pick

/-- A pool none of whose tasks is in work: those at some positions are done, and the others wait. -/
def atRest (tasks : List (Recorded α)) (positions : List Nat) : List (Progress α) :=
  pick tasks (fun task => .done task.value) .waiting positions

/-- The slots of tasks of which those at some positions are done. -/
def filled (tasks : List (Recorded α)) (positions : List Nat) : List (Option α) :=
  pick tasks (fun task => some task.value) (fun _ => none) positions

lemma countP_atRest (tasks : List (Recorded α)) (positions : List Nat) :
    (atRest tasks positions).countP Progress.isRunning = 0 := by
  rw [List.countP_eq_zero]
  unfold atRest pick
  intro p hp
  obtain ⟨i, hi, rfl⟩ := List.mem_mapIdx.1 hp
  split <;> exact Bool.false_ne_true

/-- Doing whole tasks in some order fills their slots, and is what a schedule comes to. -/
lemma exists_follow?_fill (hworkers : 0 < workers) (positions : List Nat) (events : List Event)
    (before : List LookUp) (hnodup : (order.reverse ++ positions).Nodup)
    (hlength : ∀ i ∈ order, i < tasks.length) :
    ((fill (tasks.map .of) order (filled tasks positions)).after before).value =
        filled tasks (order.reverse ++ positions) ∧
      ∃ schedule, follow? workers schedule ⟨atRest tasks positions, events⟩ =
        some ⟨atRest tasks (order.reverse ++ positions),
          events ++
            ((fill (tasks.map .of) order (filled tasks positions)).after before).events⟩ := by
  induction order generalizing positions events before with
  | nil => exact ⟨rfl, [], by rw [fill, Asking.after_pure, Recorded.pure_eq, List.append_nil]; rfl⟩
  | cons i order ih =>
    rw [List.forall_mem_cons] at hlength
    rw [List.reverse_cons, List.append_assoc, List.singleton_append] at hnodup ⊢
    have htask : tasks[i]? = some tasks[i] := List.getElem?_eq_getElem hlength.1
    have hfree : i ∉ positions :=
      (List.nodup_cons.1 (hnodup.sublist (List.sublist_append_right _ _))).1
    have hwaiting : (atRest tasks positions)[i]? = some (.waiting tasks[i]) := by
      rw [atRest, getElem?_pick htask, if_neg hfree]
    have hfill : (fill (tasks.map .of) (i :: order) (filled tasks positions)).after before =
        tasks[i] >>= fun _ => (fill (tasks.map .of) order (filled tasks (i :: positions))).after
          (before ++ tasks[i].lookUps) := by
      rw [fill, List.getElem?_map, htask]
      simp only [Option.map_some, Asking.after_bind, Asking.of, Recorded.bind_eq, filled,
        set_pick htask]
    obtain ⟨first, hfirst⟩ :=
      follow?_task hworkers events (countP_atRest tasks positions) hwaiting
    obtain ⟨hvalue, others, hothers⟩ := ih (i :: positions) (events ++ tasks[i].events)
      (before ++ tasks[i].lookUps) hnodup hlength.2
    rw [hfill]
    refine ⟨hvalue, first ++ others, ?_⟩
    rw [follow?_append, hfirst, Option.bind_some, atRest, set_pick htask]
    rw [← atRest, hothers, Recorded.bind_eq, List.append_assoc]

end Run

/-- Doing whole tasks one after another, each of them once, is a way to do them. -/
lemma isOutcome_run {workers : Nat} (hworkers : 0 < workers) {tasks : List (Recorded α)}
    {order : List Nat} (horder : order.Perm (List.range tasks.length)) (before : List LookUp) :
    IsOutcome workers tasks ((run order (tasks.map .of)).after before) := by
  have hlength : ∀ i ∈ order, i < tasks.length := fun i hi =>
    List.mem_range.1 (horder.mem_iff.1 hi)
  have hnodup : (order.reverse ++ []).Nodup := by
    rw [List.append_nil]
    exact ((List.reverse_perm order).trans horder).nodup_iff.2 List.nodup_range
  have hall : ∀ i < tasks.length, i ∈ order.reverse ++ [] := fun i hi => by
    rw [List.append_nil, List.mem_reverse]
    exact horder.mem_iff.2 (List.mem_range.2 hi)
  obtain ⟨hvalue, schedule, hfollow⟩ :=
    exists_follow?_fill hworkers [] [] before hnodup hlength
  have hslots : (tasks.map Asking.of).map (fun _ => none) = filled tasks [] := by
    rw [List.map_map]
    exact (pick_nil tasks _ _).symm
  have hstart : (⟨atRest tasks [], []⟩ : State α) = start tasks :=
    congrArg (State.mk · []) (pick_nil tasks _ _)
  have hrun : ((run order (tasks.map .of)).after before).value = tasks.map Recorded.value := by
    unfold run
    rw [Asking.after_bind, Recorded.value_bind, hslots, hvalue, filled, pick_of_forall_mem hall]
    change (tasks.map fun task => some task.value).filterMap id = _
    rw [List.filterMap_map]
    exact congrFun List.filterMap_eq_map tasks
  have hevents : ((run order (tasks.map .of)).after before).events =
      ((fill (tasks.map .of) order (filled tasks [])).after before).events := by
    unfold run
    rw [hslots]
    exact List.append_nil _
  refine ⟨schedule, ?_⟩
  rw [← hstart, hfollow, hrun, hevents, atRest, pick_of_forall_mem hall, List.nil_append,
    List.map_map]
  rfl

end Pool

end DdlDump
