import Parley.Proofs.Conversation.Surface
import Parley.Proofs.Multiplexer.Lockstep
/-!
What shows of a multiplexer.

Two multiplexers that are the same, apart from what does not show of their conversations and from
two of the counters, have the same moves and go on to show the same.
-/

namespace Parley

variable {definition : Definition} {σ : Type}

theorem rel_of_map_eq {α β : Type} {show' : α → β} {left right : Option α}
    (same : right.map show' = left.map show') :
    Option.Rel (fun first second => show' second = show' first) left right := by
  cases left <;> cases right
  case none.none => exact .none
  case some.some => exact .some (Option.some.inj same)
  all_goals cases same

def Worker.surface (worker : Worker definition σ) : Worker definition σ :=
  { worker with task := worker.task.surface }

namespace Task

variable {here there : Task definition σ}

theorem deliver?_surface (task : Task definition σ) (item : Notification) :
    task.surface.deliver? item = (task.deliver? item).map Task.surface := by
  have live : task.surface.isLive = task.isLive := rfl
  unfold deliver?
  split
  next data =>
    have isOpen : task.surface.hooks.isOpen = task.hooks.isOpen := rfl
    unfold offerHook?
    rw [live, isOpen]
    split <;> rfl
  next =>
    have isOpen : task.surface.notifications.isOpen = task.notifications.isOpen := rfl
    unfold offer?
    rw [live, isOpen]
    split <;> rfl

theorem deliver?_rel (same : there.surface = here.surface) (item : Notification) :
    Option.Rel (fun first second => Task.surface second = Task.surface first) (here.deliver? item)
      (there.deliver? item) := by
  apply rel_of_map_eq
  rw [← deliver?_surface, ← deliver?_surface, same]

end Task

namespace Multiplexer

def surface (multiplexer : Multiplexer definition σ) : Multiplexer definition σ :=
  { multiplexer with
    workers := multiplexer.workers.map Worker.surface
    ledger := multiplexer.ledger.surface }

structure Matches (here there : Multiplexer definition σ) : Prop where
  inbound : there.inbound = here.inbound
  control : there.control = here.control
  table : there.table = here.table
  workers : there.workers.map Worker.surface = here.workers.map Worker.surface
  completions : there.completions = here.completions
  held : there.held = here.held
  nextGeneration : there.nextGeneration = here.nextGeneration
  isCancelled : there.isCancelled = here.isCancelled
  stage : there.stage = here.stage
  ledger : there.ledger.surface = here.ledger.surface

variable {setting : Setting σ} {here there : Multiplexer definition σ}

theorem surface_eq_iff : there.surface = here.surface ↔ Matches here there := by
  simp only [surface, Multiplexer.mk.injEq]
  constructor
  · rintro ⟨inbound, control, table, workers, completions, held, next, cancelled, stage, ledger⟩
    exact ⟨inbound, control, table, workers, completions, held, next, cancelled, stage, ledger⟩
  · rintro ⟨inbound, control, table, workers, completions, held, next, cancelled, stage, ledger⟩
    exact ⟨inbound, control, table, workers, completions, held, next, cancelled, stage, ledger⟩

namespace Matches

theorem note (same : Matches here there) (write : Ledger → Ledger)
    (kept : (write there.ledger).surface = (write here.ledger).surface) :
    Matches (here.note write) (there.note write) :=
  { same with ledger := kept }

theorem worker? (same : Matches here there) (generation : Nat) :
    Option.Rel (fun first second => Worker.surface second = Worker.surface first)
      (here.worker? generation) (there.worker? generation) := by
  have shown (multiplexer : Multiplexer definition σ) :
      (multiplexer.worker? generation).map Worker.surface =
        (multiplexer.workers.map Worker.surface).find? fun worker =>
          worker.generation = generation := by
    rw [List.find?_map]
    rfl
  apply rel_of_map_eq
  rw [shown, shown, same.workers]

theorem holder? (same : Matches here there) (connection : String) :
    Option.Rel (fun first second => Worker.surface second = Worker.surface first)
      (here.holder? connection) (there.holder? connection) := by
  unfold Multiplexer.holder?
  rw [same.table]
  cases here.table.get? connection with
  | none => exact .none
  | some generation => exact same.worker? generation

theorem startedWith (same : Matches here there) (connection : String) :
    there.startedWith connection = here.startedWith connection := by
  have shown (multiplexer : Multiplexer definition σ) : multiplexer.startedWith connection =
      (multiplexer.workers.map Worker.surface).countP fun worker =>
        worker.connection = connection := by
    rw [List.countP_map]
    rfl
  rw [shown, shown, same.workers]

theorem setTask (same : Matches here there) (generation : Nat) {first second : Task definition σ}
    (tasks : second.surface = first.surface) :
    Matches (here.setTask generation first) (there.setTask generation second) := by
  have shown (multiplexer : Multiplexer definition σ) (task : Task definition σ) :
      (multiplexer.setTask generation task).workers.map Worker.surface =
        (multiplexer.workers.map Worker.surface).map fun worker =>
          if worker.generation = generation then { worker with task := task.surface }
          else worker := by
    rw [Multiplexer.setTask, List.map_map, List.map_map]
    apply List.map_congr_left
    intro worker _
    by_cases changed : worker.generation = generation <;>
      simp [Function.comp, Worker.surface, changed]
  exact { same with workers := by rw [shown, shown, same.workers, tasks] }

theorem spawn (same : Matches here there) (setting : Setting σ) (connection : String) :
    Matches (here.spawn setting connection) (there.spawn setting connection) := by
  unfold Multiplexer.spawn
  rw [same.startedWith, same.nextGeneration, same.table]
  refine note ?_ .noteStart (congrArg Ledger.noteStart same.ledger)
  exact { same with
    table := rfl
    nextGeneration := rfl
    workers := by rw [List.map_append, List.map_append, same.workers] }

theorem hold (same : Matches here there) (parcel : Option Parcel) :
    Matches { here with held := parcel } { there with held := parcel } :=
  { same with held := rfl }

theorem erase (same : Matches here there) (connection : String) :
    Matches { here with table := here.table.erase connection }
      { there with table := there.table.erase connection } :=
  { same with table := by rw [same.table] }

theorem pick (same : Matches here there) (setting : Setting σ) (item : Notification)
    (connection : String) (attempts : Nat) :
    Matches (here.pick setting item connection attempts)
      (there.pick setting item connection attempts) := by
  cases attempts with
  | zero => exact same.note .noteRoutingError (congrArg Ledger.noteRoutingError same.ledger)
  | succ attempts =>
    unfold Multiplexer.pick ensure?
    rw [same.table]
    cases here.table.contains connection with
    | true => exact same.hold _
    | false =>
      cases item.startsConversation with
      | true => exact (same.spawn setting connection).hold _
      | false => exact same.note .noteUnmatched same.ledger

theorem route (same : Matches here there) (setting : Setting σ) (item : Notification) :
    Matches (here.route setting item) (there.route setting item) := by
  unfold Multiplexer.route
  cases item.connection? with
  | none => exact same.note .noteKeepAlive (congrArg Ledger.noteKeepAlive same.ledger)
  | some connection =>
    exact (same.note .noteNotification same.ledger).pick setting item connection attemptLimit

theorem handOver (same : Matches here there) (setting : Setting σ) (parcel : Parcel) :
    Matches (here.handOver setting parcel) (there.handOver setting parcel) := by
  have holders := same.holder? parcel.connection
  unfold Multiplexer.handOver
  generalize here.holder? parcel.connection = left at holders ⊢
  generalize there.holder? parcel.connection = right at holders ⊢
  cases holders with
  | none => exact same
  | @some worker other both =>
    have generation : other.generation = worker.generation := (congrArg Worker.generation both :)
    have delivered := Task.deliver?_rel (congrArg Worker.task both) parcel.item
    dsimp only
    generalize worker.task.deliver? parcel.item = first at delivered ⊢
    generalize other.task.deliver? parcel.item = second at delivered ⊢
    cases delivered with
    | none => exact (same.erase _).pick setting parcel.item parcel.connection parcel.attempts
    | some tasks =>
      rw [generation]
      exact same.setTask worker.generation tasks

theorem isFull (same : Matches here there) (setting : Setting σ) (parcel : Parcel) :
    there.isFull setting parcel = here.isFull setting parcel := by
  have holders := same.holder? parcel.connection
  unfold Multiplexer.isFull
  generalize here.holder? parcel.connection = left at holders ⊢
  generalize there.holder? parcel.connection = right at holders ⊢
  cases holders with
  | none => rfl
  | @some worker other both =>
    have task : other.task.surface = worker.task.surface := congrArg Worker.task both
    have delivered : (other.task.deliver? parcel.item).isSome =
        (worker.task.deliver? parcel.item).isSome := by
      have surfaces := congrArg (fun task => (Task.deliver? task parcel.item).isSome) task
      simpa only [Task.deliver?_surface, Option.isSome_map] using surfaces
    have waiting : other.task.waiting parcel.item = worker.task.waiting parcel.item :=
      (congrArg (fun task => Task.waiting task parcel.item) task :)
    dsimp only
    rw [delivered, waiting]

theorem complete (same : Matches here there) (completion : Completion) :
    Matches (here.complete completion) (there.complete completion) := by
  have noted := same.note .noteCompletion (congrArg Ledger.noteCompletion same.ledger)
  unfold Multiplexer.complete
  dsimp only
  rw [noted.table]
  split
  next => exact { noted with table := rfl }
  next => exact noted

theorem stop (same : Matches here there) : Matches here.stop there.stop := by
  have shown (multiplexer : Multiplexer definition σ) :
      multiplexer.stop.workers.map Worker.surface =
        (multiplexer.workers.map Worker.surface).map fun worker =>
          { worker with task := worker.task.closeChannels } := by
    rw [Multiplexer.stop, List.map_map, List.map_map]
    rfl
  exact { same with workers := by rw [shown, shown, same.workers], table := rfl, stage := rfl }

theorem allReported (same : Matches here there) : there.allReported = here.allReported := by
  have shown (multiplexer : Multiplexer definition σ) : multiplexer.allReported =
      (multiplexer.workers.map Worker.surface).all fun worker => worker.task.phase = .reported := by
    rw [List.all_map]
    rfl
  rw [shown, shown, same.workers]

theorem finish (same : Matches here there) : Matches here.finish there.finish := by
  have told (completions : List Completion) :
      Matches (completions.foldl (fun held completion => held.complete completion) here)
        (completions.foldl (fun held completion => held.complete completion) there) := by
    induction completions generalizing here there with
    | nil => exact same
    | cons completion rest ih => exact ih (same.complete completion)
  unfold Multiplexer.finish
  rw [same.completions]
  exact { told here.completions with completions := rfl, stage := rfl }

theorem isReady (same : Matches here there) : there.isReady = here.isReady := by
  unfold Multiplexer.isReady
  rw [same.stage, same.held]

variable [Evaluator σ]

theorem work? (same : Matches here there) (setting : Setting σ) (generation : Nat)
    (move : Task.Move) :
    Option.Rel Matches (here.work? setting generation move)
      (there.work? setting generation move) := by
  have workers := same.worker? generation
  unfold Multiplexer.work?
  generalize here.worker? generation = left at workers ⊢
  generalize there.worker? generation = right at workers ⊢
  cases workers with
  | none => exact .none
  | @some worker other both =>
    have connection : other.connection = worker.connection := (congrArg Worker.connection both :)
    have moved := Task.advance?_surface setting.client (congrArg Worker.task both) same.ledger
      here.isCancelled move
    simp only [Option.bind_eq_bind, Option.bind_some, same.isCancelled]
    generalize worker.task.advance? setting.client here.isCancelled move here.ledger = first
      at moved ⊢
    generalize other.task.advance? setting.client here.isCancelled move there.ledger = second
      at moved ⊢
    cases moved with
    | none => exact .none
    | @some result beside results =>
      obtain ⟨task, ledger⟩ := result
      obtain ⟨also, after⟩ := beside
      have went : Matches { here.setTask generation task with ledger }
          { there.setTask generation also with ledger := after } :=
        { same.setTask generation results.1 with ledger := results.2 }
      simp only [Option.bind_some]
      split
      next =>
        refine .some { went with completions := ?_ }
        rw [connection]
        exact congrArg (· ++ _) went.completions
      next => exact .some went

theorem advance? (same : Matches here there) (setting : Setting σ) (move : Move) :
    Option.Rel Matches (here.advance? setting move) (there.advance? setting move) := by
  cases move with
  | evict =>
    simp only [Multiplexer.advance?, same.completions, same.isReady]
    cases here.completions with
    | nil => exact .none
    | cons completion rest =>
      have fewer : Matches { here with completions := rest } { there with completions := rest } :=
        { same with completions := rfl }
      dsimp only
      split
      next => exact .some (fewer.complete completion)
      next => exact .none
  | routeInbound =>
    simp only [Multiplexer.advance?, same.inbound, same.isReady]
    cases here.inbound.items with
    | nil => exact .none
    | cons item rest =>
      have fewer : Matches { here with inbound := { here.inbound with items := rest } }
          { there with inbound := { here.inbound with items := rest } } :=
        { same with inbound := rfl }
      dsimp only
      split
      next => exact .some (fewer.route setting item)
      next => exact .none
  | routeControl =>
    simp only [Multiplexer.advance?, same.control, same.isReady]
    cases here.control with
    | nil => exact .none
    | cons data rest =>
      have fewer : Matches { here with control := rest } { there with control := rest } :=
        { same with control := rfl }
      dsimp only
      split
      next => exact .some (fewer.route setting (.hook data))
      next => exact .none
  | handOver =>
    simp only [Multiplexer.advance?, same.held, same.stage]
    cases here.held with
    | none => exact .none
    | some parcel =>
      have released : Matches { here with held := none }
          { there with held := none, stage := here.stage } :=
        { same with held := rfl, stage := rfl }
      dsimp only
      rw [same.isFull]
      split
      next => exact .some (released.handOver setting parcel)
      next => exact .none
  | noticeClosed =>
    simp only [Multiplexer.advance?, same.inbound, same.isReady]
    split
    next => exact .some same.stop
    next => exact .none
  | noticeCancelled =>
    simp only [Multiplexer.advance?, same.isCancelled, same.isReady]
    split
    next => exact .some same.stop
    next => exact .none
  | finish =>
    simp only [Multiplexer.advance?, same.stage, same.allReported]
    split
    next => exact .some same.finish
    next => exact .none
  | work generation move => exact same.work? setting generation move

theorem nextOfRouter? (same : Matches here there) (setting : Setting σ) :
    Option.Rel Matches (here.nextOfRouter? setting) (there.nextOfRouter? setting) :=
  rel_findSome? fun move _ => same.advance? setting move

theorem nextOfWorker? (same : Matches here there) (setting : Setting σ) (generation : Nat) :
    Option.Rel Matches (here.nextOfWorker? setting generation)
      (there.nextOfWorker? setting generation) :=
  rel_findSome? fun move _ => same.work? setting generation move

theorem routeFor (same : Matches here there) (setting : Setting σ) (fuel : Nat) :
    Matches (here.routeFor setting fuel) (there.routeFor setting fuel) := by
  induction fuel generalizing here there with
  | zero => exact same
  | succ fuel ih =>
    have next := same.nextOfRouter? setting
    unfold Multiplexer.routeFor
    generalize here.nextOfRouter? setting = left at next ⊢
    generalize there.nextOfRouter? setting = right at next ⊢
    cases next with
    | none => exact same
    | some both => exact ih both

theorem workFor (same : Matches here there) (setting : Setting σ) (generation fuel : Nat) :
    Matches (here.workFor setting generation fuel) (there.workFor setting generation fuel) := by
  induction fuel generalizing here there with
  | zero => exact same
  | succ fuel ih =>
    have next := same.nextOfWorker? setting generation
    unfold Multiplexer.workFor
    generalize here.nextOfWorker? setting generation = left at next ⊢
    generalize there.nextOfWorker? setting generation = right at next ⊢
    cases next with
    | none => exact same
    | some both => exact ih both

theorem runWorkers (same : Matches here there) (setting : Setting σ)
    {workers others : List (Worker definition σ)}
    (alike : others.map Worker.surface = workers.map Worker.surface) :
    Matches (workers.foldl (runWorker setting) here) (others.foldl (runWorker setting) there) := by
  induction workers generalizing here there others with
  | nil =>
    cases List.map_eq_nil_iff.mp alike
    exact same
  | cons worker rest ih =>
    cases others with
    | nil => cases alike
    | cons other later =>
      obtain ⟨first, rest⟩ := List.cons.inj alike
      have generation : other.generation = worker.generation := (congrArg Worker.generation first :)
      have work : other.task.work = worker.task.work :=
        (congrArg (fun worker => Task.work (Worker.task worker)) first :)
      rw [List.foldl_cons, List.foldl_cons]
      refine ih ?_ rest
      unfold runWorker
      rw [generation, work]
      exact same.workFor setting _ _

omit [Evaluator σ] in
theorem routerWork (same : Matches here there) : there.routerWork = here.routerWork := by
  unfold Multiplexer.routerWork
  rw [same.inbound, same.control, same.held, same.completions]

theorem round (same : Matches here there) (setting : Setting σ) :
    Matches (here.round setting) (there.round setting) := by
  have routed := same.routeFor setting here.routerWork
  unfold Multiplexer.round runRouter
  rw [same.routerWork]
  exact routed.runWorkers setting routed.workers

theorem isIdle (same : Matches here there) (setting : Setting σ) :
    there.isIdle setting = here.isIdle setting := by
  have shown (multiplexer : Multiplexer definition σ)
      (stuck : Multiplexer definition σ → Nat → Bool) :
      (multiplexer.workers.all fun worker => stuck multiplexer worker.generation) =
        (multiplexer.workers.map Worker.surface).all fun worker =>
          stuck multiplexer worker.generation := by
    rw [List.all_map]
    rfl
  unfold Multiplexer.isIdle
  rw [isNone_of_rel (same.nextOfRouter? setting)]
  congr 1
  have waits (multiplexer : Multiplexer definition σ) :=
    shown multiplexer fun multiplexer generation =>
      (multiplexer.nextOfWorker? setting generation).isNone
  rw [waits here, waits there, same.workers]
  congr 1
  funext worker
  exact isNone_of_rel (same.nextOfWorker? setting worker.generation)

/-- Left to themselves both come to the same rest. -/
theorem settle (same : Matches here there) (setting : Setting σ) :
    Matches (here.settle setting) (there.settle setting) := by
  have settled (fuel : Nat) : Matches (here.settleFor setting fuel)
      (there.settleFor setting fuel) := by
    induction fuel generalizing here there with
    | zero => exact same
    | succ fuel ih =>
      unfold Multiplexer.settleFor
      rw [same.isIdle setting]
      split
      next => exact same
      next => exact ih (same.round setting)
  unfold Multiplexer.settle rounds
  rw [same.routerWork]
  exact settled _

theorem reaches {after : Multiplexer definition σ} (same : Matches here there)
    (reaches : Reaches setting here after) :
    ∃ later, Reaches setting there later ∧ Matches after later := by
  obtain ⟨moves, ran⟩ := reaches
  induction moves generalizing here there with
  | nil => cases ran; exact ⟨there, .refl _, same⟩
  | cons move rest ih =>
    obtain ⟨next, moved, ran⟩ := Option.bind_eq_some_iff.mp ran
    obtain ⟨beside, also, both⟩ := exists_right_of_rel (same.advance? setting move) moved
    obtain ⟨later, reaches, last⟩ := ih both ran
    exact ⟨later, .head also reaches, last⟩

end Matches
end Multiplexer
end Parley
