import Parley.Proofs.Multiplexer.Table
/-!
How a multiplexer comes to rest.

Each move takes something off the effort that is left, so that nothing can go on for ever without
something new from outside. At rest no item is in hand, and no conversation that runs has anything
in its channels: each of them could be handled, and what is full can be emptied.
-/

namespace Parley

variable {definition : Definition} {σ : Type}

namespace Task

variable {task : Task definition σ}

theorem work_of_delivered {item : Notification} {after : Task definition σ}
    (given : Delivered item task after) : after.work = task.work + 2 := by
  have longer := given.queued.length_eq
  simp only [queued, List.length_append, List.length_map, List.length_cons] at longer
  unfold work
  rw [given.phase]
  omega

theorem waiting_le (task : Task definition σ) (item : Notification) :
    task.waiting item ≤ task.queued.length := by
  have total : task.queued.length =
      task.notifications.items.length + task.hooks.items.length := by
    simp [queued]
  unfold waiting
  split <;> omega

theorem work_settled_le (session : Session definition σ) :
    (task.settled session).1.work ≤
      2 * task.notifications.items.length + 2 * task.hooks.items.length + 2 := by
  unfold settled work
  cases session.isFinished
  · exact Nat.le_refl _
  · exact Nat.le_succ _

variable [Evaluator σ] {client : Client} {isCancelled : Bool} {ledger : Ledger} {move : Move}
  {result : Task definition σ × Ledger}

/-- Each move of a task leaves fewer moves to make. -/
theorem Step.work_lt (step : Step client isCancelled task ledger move result) :
    result.1.work < task.work := by
  cases step with
  | begin fresh =>
    have later := task.work_settled_le (Session.begin client ⟨task.conversation, ledger⟩)
    have now : task.work =
        2 * task.notifications.items.length + 2 * task.hooks.items.length + 3 := by
      rw [work, fresh]
    omega
  | @handle item handling =>
    have later := task.work_settled_le (Session.take client item ⟨task.conversation, ledger⟩)
    have now : task.work =
        2 * task.notifications.items.length + 2 * task.hooks.items.length + 3 := by
      rw [work, handling]
    omega
  | takeNotification listening items =>
    simp only [work, listening, items, List.length_cons]
    omega
  | takeHook listening items =>
    simp only [work, listening, items, List.length_cons]
    omega
  | noticeClosed listening _ _ => simp only [work, listening]; omega
  | noticeCancelled listening _ => simp only [work, listening]; omega
  | report ended => simp only [work, ended]; omega

def Rests (task : Task definition σ) : Prop :=
  task.phase = .reported ∨ task.phase = .listening ∧ task.queued = []

theorem Rests.not_step (rests : task.Rests) (isOpen : task.notifications.isOpen = true) :
    ¬Step client false task ledger move result := by
  intro step
  rcases rests with reported | ⟨listening, empty⟩
  · cases step <;> simp_all
  · obtain ⟨items, hooks⟩ := List.append_eq_nil_iff.mp empty
    cases step <;> simp_all

omit [Evaluator σ] in
theorem Rests.of_live (rests : task.Rests) (live : task.isLive = true) :
    task.phase = .listening ∧ task.queued = [] := by
  rcases rests with reported | listening
  · rw [isLive, reported] at live
    cases live
  · exact listening

def Stuck (client : Client) (isCancelled : Bool) (task : Task definition σ) : Prop :=
  ∃ ledger, ∀ move, task.advance? client isCancelled move ledger = none

theorem Stuck.not_step (stuck : task.Stuck client isCancelled) :
    ∃ ledger, ∀ move result, ¬Step client isCancelled task ledger move result := by
  obtain ⟨ledger, none⟩ := stuck
  refine ⟨ledger, fun move result step => ?_⟩
  have made := advance?_of_step step
  rw [none move] at made
  cases made

theorem Stuck.rests (idle : task.Stuck client isCancelled) : task.Rests := by
  obtain ⟨ledger, stuck⟩ := idle.not_step
  cases phase : task.phase with
  | fresh => exact (stuck _ _ (.begin phase)).elim
  | handling item => exact (stuck _ _ (.handle phase)).elim
  | ended => exact (stuck _ _ (.report phase)).elim
  | reported => exact .inl phase
  | listening =>
    refine .inr ⟨phase, ?_⟩
    cases items : task.notifications.items with
    | cons item rest => exact (stuck _ _ (.takeNotification phase items)).elim
    | nil =>
      cases hooks : task.hooks.items with
      | cons hook rest => exact (stuck _ _ (.takeHook phase hooks)).elim
      | nil => rw [queued, items, hooks]; rfl

theorem mem_moves (move : Move) : move ∈ moves := by
  cases move <;> decide

end Task

namespace Worker

def total (measure : Task definition σ → Nat) : List (Worker definition σ) → Nat
  | [] => 0
  | worker :: rest => measure worker.task + total measure rest

theorem total_append (measure : Task definition σ → Nat)
    (workers others : List (Worker definition σ)) :
    total measure (workers ++ others) = total measure workers + total measure others := by
  induction workers with
  | nil => exact (Nat.zero_add _).symm
  | cons worker rest ih => rw [List.cons_append, total, total, ih, Nat.add_assoc]

end Worker

namespace Multiplexer

variable {setting : Setting σ} {multiplexer after : Multiplexer definition σ}
  {generation : Nat} {worker : Worker definition σ}

/-- What is left to be done. An item is dearest while it is on its way, since it may come to start a
conversation on each attempt. -/
def effort (multiplexer : Multiplexer definition σ) : Nat :=
  19 * (multiplexer.inbound.items.length + multiplexer.control.length) +
    (multiplexer.held.elim 0 fun parcel => 7 * parcel.attempts + 5) +
    2 * Worker.total Task.work multiplexer.workers +
    multiplexer.completions.length

structure Serving (multiplexer : Multiplexer definition σ) : Prop where
  orderly : multiplexer.Orderly
  routing : multiplexer.stage = .routing
  uncancelled : multiplexer.isCancelled = false
  isOpen : multiplexer.inbound.isOpen = true

structure SameService (before after : Multiplexer definition σ) : Prop where
  stage : after.stage = before.stage
  isCancelled : after.isCancelled = before.isCancelled
  isOpen : after.inbound.isOpen = before.inbound.isOpen

theorem complete_effort (completion : Completion) (multiplexer : Multiplexer definition σ) :
    (multiplexer.complete completion).effort = multiplexer.effort ∧
      SameService multiplexer (multiplexer.complete completion) := by
  unfold complete
  dsimp only
  split <;> exact ⟨rfl, rfl, rfl, rfl⟩

theorem Picked.effort_le {item : Notification} {connection : String} {attempts : Nat}
    (free : multiplexer.held = none)
    (picked : Picked setting item connection multiplexer attempts after) :
    after.effort ≤ multiplexer.effort + (7 * attempts + 4) ∧ SameService multiplexer after := by
  cases picked with
  | exhausted => exact ⟨Nat.le_add_right _ _, rfl, rfl, rfl⟩
  | dismissed _ _ => exact ⟨Nat.le_add_right _ _, rfl, rfl, rfl⟩
  | found _ =>
    refine ⟨?_, rfl, rfl, rfl⟩
    simp only [effort, free, Option.elim_none, Option.elim_some]
    omega
  | started _ _ =>
    refine ⟨?_, rfl, rfl, rfl⟩
    simp only [effort, free, spawn, note, Task.spawn, Task.work, Channel.fresh,
      Worker.total_append, Worker.total, List.length_nil, Option.elim_none, Option.elim_some]
    omega

theorem total_setTask (distinct : (multiplexer.workers.map Worker.generation).Nodup)
    (found : multiplexer.worker? generation = some worker) (task : Task definition σ)
    (measure : Task definition σ → Nat) :
    Worker.total measure (multiplexer.setTask generation task).workers + measure worker.task =
      Worker.total measure multiplexer.workers + measure task := by
  obtain ⟨before, later, split, changed⟩ := exists_setTask_split distinct found task
  rw [changed, split]
  simp only [Worker.total_append, Worker.total]
  omega

theorem HandedOver.effort_le {parcel : Parcel} (orderly : multiplexer.Orderly)
    (free : multiplexer.held = none) (handed : HandedOver setting parcel multiplexer after) :
    after.effort ≤ multiplexer.effort + (7 * parcel.attempts + 4) ∧
      SameService multiplexer after := by
  cases handed with
  | nowhere _ => exact ⟨Nat.le_add_right _ _, rfl, rfl, rfl⟩
  | @delivered worker task found delivered =>
    refine ⟨?_, rfl, rfl, rfl⟩
    have longer := Task.work_of_delivered (Task.deliver?_delivered delivered)
    have total := total_setTask orderly.distinct (worker?_of_holder? found) task Task.work
    simp only [effort, setTask] at total ⊢
    omega
  | refused _ _ picked =>
    obtain ⟨bound, same⟩ := Picked.effort_le (by exact free) picked
    exact ⟨bound, same.stage, same.isCancelled, same.isOpen⟩

theorem Routed.effort_le {item : Notification} (free : multiplexer.held = none)
    (routed : Routed setting item multiplexer after) :
    after.effort ≤ multiplexer.effort + 18 ∧ SameService multiplexer after := by
  cases routed with
  | keptAlive _ => exact ⟨Nat.le_add_right _ _, rfl, rfl, rfl⟩
  | picked _ picked =>
    obtain ⟨bound, same⟩ := Picked.effort_le (by exact free) picked
    exact ⟨bound, same.stage, same.isCancelled, same.isOpen⟩

variable [Evaluator σ] {move : Move}

/-- What happens inside neither ends the service nor can go on for ever. -/
theorem Serving.step (serving : multiplexer.Serving) (step : Step setting multiplexer move after) :
    after.Serving ∧ after.effort < multiplexer.effort := by
  obtain ⟨orderly, routing, uncancelled, isOpen⟩ := serving
  have serve (same : SameService multiplexer after) : after.Serving :=
    have goesOn := same.stage.trans routing
    ⟨orderly.step step goesOn, goesOn, same.isCancelled.trans uncancelled,
      same.isOpen.trans isOpen⟩
  cases step with
  | @evict completion rest completions ready =>
    obtain ⟨kept, same⟩ := complete_effort completion { multiplexer with completions := rest }
    refine ⟨serve ⟨same.stage, same.isCancelled, same.isOpen⟩, ?_⟩
    rw [kept]
    simp only [effort, completions, List.length_cons]
    omega
  | @routeInbound item rest _ items ready routed =>
    obtain ⟨bound, same⟩ := Routed.effort_le (by exact held_of_isReady ready) routed
    refine ⟨serve ⟨same.stage, same.isCancelled, same.isOpen⟩, ?_⟩
    simp only [effort, items, List.length_cons] at bound ⊢
    omega
  | @routeControl data rest _ items ready routed =>
    obtain ⟨bound, same⟩ := Routed.effort_le (by exact held_of_isReady ready) routed
    refine ⟨serve ⟨same.stage, same.isCancelled, same.isOpen⟩, ?_⟩
    simp only [effort, items, List.length_cons] at bound ⊢
    omega
  | @handOver parcel _ held _ _ handed =>
    have released : Orderly { multiplexer with held := none } :=
      orderly.of_same rfl rfl (List.Subset.refl _) rfl
    obtain ⟨bound, same⟩ := handed.effort_le released rfl
    refine ⟨serve ⟨same.stage, same.isCancelled, same.isOpen⟩, ?_⟩
    simp only [effort, held, Option.elim_none, Option.elim_some] at bound ⊢
    omega
  | noticeClosed _ _ closed => rw [isOpen] at closed; cases closed
  | noticeCancelled _ cancelled => rw [uncancelled] at cancelled; cases cancelled
  | finish stopping _ => rw [routing] at stopping; cases stopping
  | @work generation taskMove worker result found moved =>
    refine ⟨serve ⟨rfl, rfl, rfl⟩, ?_⟩
    have less := moved.work_lt
    have total := total_setTask orderly.distinct found result.1 Task.work
    have news : (if taskMove = .report then [Completion.mk worker.connection generation]
        else []).length ≤ 1 := by
      split <;> simp
    simp only [effort, setTask, List.length_append] at total ⊢
    omega

/-- So many moves at most are made without anything new from outside. -/
theorem Serving.run {moves : List Move} (serving : multiplexer.Serving)
    (ran : multiplexer.run? setting (moves.map .moved) = some after) :
    after.Serving ∧ moves.length + after.effort ≤ multiplexer.effort := by
  induction moves generalizing multiplexer with
  | nil => cases ran; exact ⟨serving, by simp⟩
  | cons move rest ih =>
    obtain ⟨next, moved, later⟩ := Option.bind_eq_some_iff.mp ran
    obtain ⟨served, less⟩ := serving.step (step_of_advance? moved)
    obtain ⟨last, bound⟩ := ih served later
    refine ⟨last, ?_⟩
    rw [List.length_cons]
    omega

theorem isIdle_iff :
    multiplexer.isIdle setting = true ↔ ∀ move, multiplexer.advance? setting move = none := by
  simp only [isIdle, nextOfRouter?, nextOfWorker?, Bool.and_eq_true, Option.isNone_iff_eq_none,
    List.findSome?_eq_none_iff, List.all_eq_true]
  constructor
  · rintro ⟨router, workers⟩ move
    cases move with
    | work generation move =>
      cases found : multiplexer.worker? generation with
      | none => simp [advance?, work?, found]
      | some worker =>
        obtain ⟨member, own⟩ := worker?_some found
        rw [← own]
        exact workers worker member move (Task.mem_moves move)
    | _ => exact router _ (by decide)
  · intro stuck
    exact ⟨fun move _ => stuck move, fun worker _ move _ => stuck (.work worker.generation move)⟩

theorem Serving.exists_idle (serving : multiplexer.Serving) (setting : Setting σ) :
    ∃ (moves : List Move) (after : Multiplexer definition σ),
      multiplexer.run? setting (moves.map .moved) = some after ∧ after.isIdle setting = true := by
  -- A state that is not idle has a move, and each move lowers the effort.
  induction left : multiplexer.effort using Nat.strongRecOn generalizing multiplexer with
  | ind amount ih =>
    by_cases idle : multiplexer.isIdle setting = true
    · exact ⟨[], multiplexer, rfl, idle⟩
    · rw [isIdle_iff, not_forall] at idle
      obtain ⟨move, possible⟩ := idle
      obtain ⟨next, moved⟩ := Option.ne_none_iff_exists'.mp possible
      obtain ⟨served, less⟩ := serving.step (step_of_advance? moved)
      obtain ⟨moves, last, ran, rests⟩ := ih next.effort (left ▸ less) served rfl
      refine ⟨move :: moves, last, ?_, rests⟩
      exact Option.bind_eq_some_iff.mpr ⟨next, moved, ran⟩

def stranded (multiplexer : Multiplexer definition σ) : List Notification :=
  multiplexer.workers.flatMap fun worker =>
    if worker.task.isLive then [] else worker.task.queued

def AllRest (multiplexer : Multiplexer definition σ) : Prop :=
  ∀ worker ∈ multiplexer.workers, worker.task.Rests

theorem stuck_of_nextOfWorker? (found : multiplexer.worker? generation = some worker)
    (stuck : multiplexer.nextOfWorker? setting generation = none) :
    worker.task.Stuck setting.client multiplexer.isCancelled := by
  refine ⟨multiplexer.ledger, fun taskMove => ?_⟩
  have none := List.findSome?_eq_none_iff.mp stuck taskMove (Task.mem_moves taskMove)
  simp only [work?, found, Option.bind_eq_bind, Option.bind_some] at none
  cases made : worker.task.advance? setting.client multiplexer.isCancelled taskMove
      multiplexer.ledger with
  | none => rfl
  | some result =>
    rw [made] at none
    simp only [Option.bind_some] at none
    split at none <;> cases none

theorem stuck_of_isIdle (distinct : (multiplexer.workers.map Worker.generation).Nodup)
    (idle : multiplexer.isIdle setting = true) (member : worker ∈ multiplexer.workers) :
    worker.task.Stuck setting.client multiplexer.isCancelled := by
  simp only [isIdle, Bool.and_eq_true, List.all_eq_true, Option.isNone_iff_eq_none] at idle
  exact stuck_of_nextOfWorker? (worker?_of_distinct distinct member) (idle.2 worker member)

theorem Orderly.allRest_of_isIdle (orderly : multiplexer.Orderly)
    (idle : multiplexer.isIdle setting = true) : multiplexer.AllRest :=
  fun _ member => (stuck_of_isIdle orderly.distinct idle member).rests

omit [Evaluator σ] in
theorem AllRest.isFull (rests : multiplexer.AllRest) (room : 0 < setting.capacity)
    (parcel : Parcel) : multiplexer.isFull setting parcel = false := by
  unfold Multiplexer.isFull
  split
  next worker found =>
    rcases rests worker (holder?_some found).1 with reported | ⟨_, empty⟩
    · have gone : worker.task.isLive = false := by rw [Task.isLive, reported]
      rw [Task.deliver?_of_gone gone]
      rfl
    · have few := worker.task.waiting_le parcel.item
      rw [empty, List.length_nil] at few
      simp only [Bool.and_eq_false_iff, Bool.not_eq_false', decide_eq_true_eq]
      exact .inr (Nat.lt_of_le_of_lt few room)
  next => rfl

theorem held_of_isIdle (orderly : multiplexer.Orderly) (room : 0 < setting.capacity)
    (routing : multiplexer.stage = .routing) (idle : multiplexer.isIdle setting = true) :
    multiplexer.held = none := by
  cases held : multiplexer.held with
  | none => rfl
  | some parcel =>
    have free := (orderly.allRest_of_isIdle idle).isFull room parcel
    have stuck := isIdle_iff.mp idle .handOver
    simp only [advance?, held, routing, free, decide_true, Bool.not_false, Bool.and_true,
      if_true] at stuck
    cases stuck

end Multiplexer
end Parley
