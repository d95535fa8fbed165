import Parley.Proofs.Conversation.Shutdown
import Parley.Proofs.Multiplexer.Arrival
import Parley.Proofs.Multiplexer.Counters
/-!
A multiplexer in which no conversation ends.

As long as no hook comes in and no conversation ends, three things happen: the router takes an item,
it hands one over, or a conversation goes on. What the router has in hand always finds the
conversation it is for, and a conversation has one thing to do at a time.
-/

namespace Parley

variable {definition : Definition} {σ : Type}

namespace Task

variable {task : Task definition σ} {item : Notification}

def pushed (item : Notification) (task : Task definition σ) : Task definition σ :=
  { task with notifications := task.notifications.push item }

theorem deliver?_of_plain (plain : item.isHook = false) (live : task.isLive = true)
    (isOpen : task.notifications.isOpen = true) :
    task.deliver? item = some (task.pushed item) := by
  unfold deliver?
  split
  next => cases plain
  next => simp only [offer?, live, isOpen, Bool.and_self, if_true, pushed]

theorem waiting_of_plain (plain : item.isHook = false) (task : Task definition σ) :
    task.waiting item = task.notifications.items.length := by
  unfold waiting
  split
  next => cases plain
  next => rfl

def due (task : Task definition σ) : Move :=
  match task.phase with
  | .fresh => .begin
  | .listening => .takeNotification
  | .handling _ => .handle
  | .ended | .reported => .report

namespace Step

variable [Evaluator σ] {client : Client} {ledger : Ledger} {move : Move}
  {result : Task definition σ × Ledger}

theorem eq_due (step : Step client false task ledger move result)
    (isOpen : task.notifications.isOpen = true) (hooks : task.hooks.items = []) :
    move = task.due := by
  cases step with
  | begin phase | takeNotification phase _ | handle phase | report phase => rw [due, phase]
  | takeHook _ items => rw [hooks] at items; cases items
  | noticeClosed _ _ closed => rw [isOpen] at closed; cases closed
  | noticeCancelled _ cancelled => cases cancelled

/-- A task makes the same move when one more item waits, and leaves that item where it is. -/
theorem pushed (step : Step client false task ledger move result)
    (isOpen : task.notifications.isOpen = true) (item : Notification) :
    Step client false (task.pushed item) ledger move (result.1.pushed item, result.2) := by
  cases step with
  | begin phase => exact .begin phase
  | @takeNotification first rest phase items =>
    have longer : (task.pushed item).notifications.items = first :: (rest ++ [item]) := by
      rw [Task.pushed, Channel.push, items, List.cons_append]
    exact .takeNotification phase longer
  | takeHook phase items => exact .takeHook phase items
  | handle phase => exact .handle phase
  | noticeClosed _ _ closed => rw [isOpen] at closed; cases closed
  | noticeCancelled _ cancelled => cases cancelled
  | report phase => exact .report phase

theorem waiting_le (step : Step client false task ledger move result) :
    result.1.notifications.items.length ≤ task.notifications.items.length := by
  have taken := congrArg List.length step.channels.1
  rw [List.length_append] at taken
  omega

theorem ne_report (step : Step client false task ledger move result)
    (live : task.isLive = true) : move ≠ .report := by
  rintro rfl
  cases step with
  | report phase => rw [Task.isLive, phase] at live; cases live

theorem isFinished (step : Step client false task ledger move result)
    (isOpen : task.notifications.isOpen = true) (live : task.isLive = true)
    (gone : result.1.isLive = false) : result.1.conversation.isFinished = true := by
  have well : task.EndedWell := fun ended => by rw [live] at ended; cases ended
  rcases step.endedWell well gone with finished | drained
  · exact finished
  · simp [isDrained, step.isOpen.1, isOpen] at drained

end Step

end Task

namespace Multiplexer

variable {setting : Setting σ} {multiplexer after : Multiplexer definition σ}
  {worker : Worker definition σ} {generation : Nat} {item : Notification}

def HasEnded (multiplexer : Multiplexer definition σ) (generation : Nat) : Prop :=
  ∃ worker ∈ multiplexer.workers, worker.generation = generation ∧ worker.task.isLive = false

/-- Items are served that are not hooks, and all conversations that can be reached run. -/
structure Calm (multiplexer : Multiplexer definition σ) : Prop where
  serving : multiplexer.Serving
  control : multiplexer.control = []
  completions : multiplexer.completions = []
  inbound : ∀ item ∈ multiplexer.inbound.items, item.isHook = false
  held : ∀ parcel, multiplexer.held = some parcel →
    parcel.item.isHook = false ∧
      ∃ generation, multiplexer.table.get? parcel.connection = some generation
  tasks : ∀ worker ∈ multiplexer.workers,
    worker.task.phase = .reported ∨ worker.task.isLive = true ∧ worker.task.hooks.items = []
  entry : ∀ connection, ∀ worker ∈ multiplexer.workers,
    multiplexer.table.get? connection = some worker.generation → worker.task.isLive = true

inductive Flows [Evaluator σ] (setting : Setting σ) (multiplexer : Multiplexer definition σ) :
    Move → Multiplexer definition σ → Prop where
  | routed {item : Notification} {rest : List Notification} :
      multiplexer.inbound.items = item :: rest → multiplexer.held = none →
        Flows setting multiplexer .routeInbound
          ({ multiplexer with inbound := { multiplexer.inbound with items := rest } }.route setting
            item)
  | handed {parcel : Parcel} {worker : Worker definition σ} :
      multiplexer.held = some parcel → multiplexer.holder? parcel.connection = some worker →
      worker.task.isLive = true → worker.task.notifications.items.length < setting.capacity →
        Flows setting multiplexer .handOver
          ({ multiplexer with held := none }.setTask worker.generation
            (worker.task.pushed parcel.item))
  | worked {generation : Nat} {move : Task.Move} {worker : Worker definition σ}
      {result : Task definition σ × Ledger} :
      multiplexer.worker? generation = some worker → worker.task.isLive = true →
      worker.task.Step setting.client false multiplexer.ledger move result →
        Flows setting multiplexer (.work generation move)
          { multiplexer.setTask generation result.1 with ledger := result.2 }

namespace Calm

theorem of_quiet (quiet : multiplexer.Quiet) (current : multiplexer.Current) :
    multiplexer.Calm where
  serving := quiet.serving
  control := quiet.control
  completions := quiet.completions
  inbound := by simp [quiet.inbound]
  held := by simp [quiet.held]
  tasks := fun worker member => by
    rcases quiet.rests worker member with reported | ⟨listening, empty⟩
    · exact .inl reported
    · have hooks := (List.append_eq_nil_iff.mp empty).2
      exact .inr ⟨by rw [Task.isLive, listening], List.map_eq_nil_iff.mp hooks⟩
  entry := fun connection worker member entry => by
    rcases quiet.rests worker member with reported | ⟨listening, _⟩
    · have told := current connection worker member entry reported
      rw [quiet.completions] at told
      cases told
    · rw [Task.isLive, listening]

end Calm

theorem Calm.hooks (calm : multiplexer.Calm) (member : worker ∈ multiplexer.workers)
    (live : worker.task.isLive = true) : worker.task.hooks.items = [] := by
  rcases calm.tasks worker member with reported | ⟨_, hooks⟩
  · rw [Task.isLive, reported] at live
    cases live
  · exact hooks

theorem Calm.exists_holder (calm : multiplexer.Calm) {parcel : Parcel}
    (held : multiplexer.held = some parcel) :
    ∃ worker, multiplexer.holder? parcel.connection = some worker ∧ worker.task.isLive = true := by
  obtain ⟨_, generation, entry⟩ := calm.held parcel held
  obtain ⟨worker, found, rfl, _⟩ := calm.serving.orderly.holder? entry
  exact ⟨worker, found, calm.entry _ worker (holder?_some found).1 entry⟩

variable [Evaluator σ] {move : Move}

theorem Calm.flows (calm : multiplexer.Calm) (step : Step setting multiplexer move after) :
    Flows setting multiplexer move after := by
  obtain ⟨orderly, routing, uncancelled, isOpen⟩ := calm.serving
  cases step with
  | evict news _ => rw [calm.completions] at news; cases news
  | routeInbound items ready routed =>
    rw [← route_of_routed routed]
    exact .routed items (held_of_isReady ready)
  | routeControl hooks _ _ => rw [calm.control] at hooks; cases hooks
  | @handOver parcel _ held _ free handed =>
    obtain ⟨worker, found, live⟩ := calm.exists_holder held
    have plain := (calm.held parcel held).1
    have given := Task.deliver?_of_plain plain live (orderly.isOpen worker (holder?_some found).1).1
    have room : worker.task.notifications.items.length < setting.capacity := by
      simpa [isFull, found, given, Task.waiting_of_plain plain] using free
    cases handed with
    | nowhere absent => cases found.symm.trans absent
    | delivered here delivered =>
      cases found.symm.trans here
      cases given.symm.trans delivered
      exact .handed held found live room
    | refused here refused _ =>
      cases found.symm.trans here
      cases given.symm.trans refused
  | noticeClosed _ _ closed => rw [isOpen] at closed; cases closed
  | noticeCancelled _ cancelled => rw [uncancelled] at cancelled; cases cancelled
  | finish stopping _ => rw [routing] at stopping; cases stopping
  | @work generation taskMove worker result found moved =>
    rw [uncancelled] at moved
    have member := (worker?_some found).1
    have opened := (orderly.isOpen worker member).1
    rcases calm.tasks worker member with reported | ⟨live, _⟩
    · exact absurd moved (Task.Rests.not_step (.inl reported) opened)
    · rw [if_neg (moved.ne_report live), List.append_nil]
      exact .worked found live moved

theorem Flows.unique {other : Multiplexer definition σ}
    (flows : Flows setting multiplexer move after) (also : Flows setting multiplexer move other) :
    after = other := by
  cases flows with
  | routed waiting _ =>
    cases also with
    | routed here _ => cases waiting.symm.trans here; rfl
  | handed held found _ _ =>
    cases also with
    | handed here there _ _ =>
      cases held.symm.trans here
      cases found.symm.trans there
      rfl
  | worked found _ moved =>
    cases also with
    | worked there _ went =>
      cases found.symm.trans there
      have same := (Task.advance?_of_step moved).symm.trans (Task.advance?_of_step went)
      cases Option.some.inj same
      rfl

theorem Flows.step (flows : Flows setting multiplexer move after) (calm : multiplexer.Calm) :
    Step setting multiplexer move after := by
  obtain ⟨orderly, routing, uncancelled, isOpen⟩ := calm.serving
  cases flows with
  | routed items free =>
    exact .routeInbound items (by simp [isReady, routing, free]) (route_routed _ _ _)
  | @handed parcel worker held found live room =>
    have plain := (calm.held parcel held).1
    have given := Task.deliver?_of_plain plain live (orderly.isOpen worker (holder?_some found).1).1
    refine .handOver held routing ?_ (.delivered found given)
    simp [isFull, found, room, Task.waiting_of_plain plain]
  | @worked generation taskMove worker result found live moved =>
    have step : Step setting multiplexer (.work generation taskMove) _ :=
      .work found (uncancelled ▸ moved)
    rw [if_neg (moved.ne_report live), List.append_nil] at step
    exact step

theorem Calm.routed {rest : List Notification} (calm : multiplexer.Calm)
    (items : multiplexer.inbound.items = item :: rest) (free : multiplexer.held = none) :
    Calm ({ multiplexer with inbound := { multiplexer.inbound with items := rest } }.route setting
      item) := by
  have flows : Flows setting multiplexer .routeInbound _ := .routed items free
  have serving := (calm.serving.step (flows.step calm)).1
  have orderly := calm.serving.orderly
  obtain ⟨plain, later⟩ := List.forall_mem_cons.mp (items ▸ calm.inbound)
  have routed := route_routed setting item
    { multiplexer with inbound := { multiplexer.inbound with items := rest } }
  generalize Multiplexer.route setting item
    { multiplexer with inbound := { multiplexer.inbound with items := rest } } = after
    at serving routed ⊢
  cases routed with
  | keptAlive _ =>
    exact ⟨serving, calm.control, calm.completions, later, calm.held, calm.tasks, calm.entry⟩
  | picked _ picked =>
    cases picked with
    | dismissed _ _ =>
      exact ⟨serving, calm.control, calm.completions, later, calm.held, calm.tasks, calm.entry⟩
    | found entry =>
      refine ⟨serving, calm.control, calm.completions, later, fun parcel held => ?_, calm.tasks,
        calm.entry⟩
      cases held
      exact ⟨plain, _, entry⟩
    | started absent _ =>
      refine ⟨serving, calm.control, calm.completions, later, fun parcel held => ?_,
        fun worker member => ?_, fun name worker member entry => ?_⟩
      · cases held
        exact ⟨plain, multiplexer.nextGeneration, by simp [spawn, note]⟩
      · rcases List.mem_append.mp member with old | new
        · exact calm.tasks worker old
        · cases List.mem_singleton.mp new
          exact .inr ⟨rfl, rfl⟩
      · rcases List.mem_append.mp member with old | new
        · -- No earlier conversation has the generation of the one that is started.
          have less := orderly.below worker old
          simp only [spawn, note, TextMap.get?_insert] at entry
          split at entry
          next => rw [Option.some.inj entry] at less; exact absurd less (Nat.lt_irrefl _)
          next => exact calm.entry name worker old entry
        · cases List.mem_singleton.mp new
          rfl

omit [Evaluator σ] in
theorem Calm.setTask (calm : multiplexer.Calm)
    (found : multiplexer.worker? generation = some worker) {task : Task definition σ}
    (live : task.isLive = true) (hooks : task.hooks.items = [])
    (serving : (multiplexer.setTask generation task).Serving) :
    (multiplexer.setTask generation task).Calm := by
  have orderly := calm.serving.orderly
  refine ⟨serving, calm.control, calm.completions, calm.inbound, calm.held, fun other member => ?_,
    fun name other member entry => ?_⟩
  · rcases orderly.mem_setTask found member with rfl | old
    · exact .inr ⟨live, hooks⟩
    · exact calm.tasks other old
  · rcases orderly.mem_setTask found member with rfl | old
    · exact live
    · exact calm.entry name other old entry

theorem Calm.handed {parcel : Parcel} (calm : multiplexer.Calm)
    (held : multiplexer.held = some parcel)
    (found : multiplexer.holder? parcel.connection = some worker)
    (live : worker.task.isLive = true)
    (room : worker.task.notifications.items.length < setting.capacity) :
    Calm ({ multiplexer with held := none }.setTask worker.generation
      (worker.task.pushed parcel.item)) := by
  have flows : Flows setting multiplexer .handOver _ := .handed held found live room
  have serving := (calm.serving.step (flows.step calm)).1
  have released : Calm { multiplexer with held := none } :=
    ⟨⟨calm.serving.orderly.of_same rfl rfl (List.Subset.refl _) rfl, calm.serving.routing,
      calm.serving.uncancelled, calm.serving.isOpen⟩, calm.control, calm.completions,
      calm.inbound, by simp, calm.tasks, calm.entry⟩
  exact released.setTask (worker?_of_holder? found) live (calm.hooks (holder?_some found).1 live)
    serving

theorem Calm.worked {taskMove : Task.Move} {result : Task definition σ × Ledger}
    (calm : multiplexer.Calm) (found : multiplexer.worker? generation = some worker)
    (live : worker.task.isLive = true)
    (moved : worker.task.Step setting.client false multiplexer.ledger taskMove result)
    (lives : result.1.isLive = true) :
    Calm { multiplexer.setTask generation result.1 with ledger := result.2 } := by
  have flows : Flows setting multiplexer (.work generation taskMove) _ := .worked found live moved
  have serving := (calm.serving.step (flows.step calm)).1
  have hooks := moved.channels.2
  rw [calm.hooks (worker?_some found).1 live] at hooks
  have set := calm.setTask found lives (List.append_eq_nil_iff.mp hooks).2
    ⟨serving.orderly.of_same rfl rfl (List.Subset.refl _) rfl, serving.routing,
      serving.uncancelled, serving.isOpen⟩
  exact ⟨serving, set.control, set.completions, set.inbound, set.held, set.tasks, set.entry⟩

/-- After a move a multiplexer is still calm, unless a conversation has just ended. -/
theorem Flows.calm_or_ended (flows : Flows setting multiplexer move after)
    (calm : multiplexer.Calm) :
    after.Calm ∨ ∃ generation, after.HasEnded generation ∧ ¬multiplexer.HasEnded generation := by
  cases flows with
  | routed items free => exact .inl (calm.routed items free)
  | handed held found live room => exact .inl (calm.handed held found live room)
  | @worked generation taskMove worker result found live moved =>
    cases lives : result.1.isLive with
    | true => exact .inl (calm.worked found live moved lives)
    | false =>
      obtain ⟨member, own⟩ := worker?_some found
      have changed := (worker?_some (worker?_setTask_self found result.1)).1
      refine .inr ⟨generation, ⟨{ worker with task := result.1 }, changed, own, lives⟩, ?_⟩
      · rintro ⟨other, inside, same, gone⟩
        cases calm.serving.orderly.eq_of_generation inside member (same.trans own.symm)
        rw [live] at gone
        cases gone

omit [Evaluator σ] in
theorem Picked.workers {connection : String} {attempts : Nat}
    (picked : Picked setting item connection multiplexer attempts after) :
    ∃ more, after.workers = multiplexer.workers ++ more ∧
      ∀ worker ∈ more, worker.task.isLive = true := by
  cases picked with
  | exhausted => exact ⟨[], (List.append_nil _).symm, by simp⟩
  | dismissed _ _ => exact ⟨[], (List.append_nil _).symm, by simp⟩
  | found _ => exact ⟨[], (List.append_nil _).symm, by simp⟩
  | started _ _ =>
    refine ⟨_, rfl, fun worker member => ?_⟩
    cases List.mem_singleton.mp member
    rfl

omit [Evaluator σ] in
theorem Routed.workers (routed : Routed setting item multiplexer after) :
    ∃ more, after.workers = multiplexer.workers ++ more ∧
      ∀ worker ∈ more, worker.task.isLive = true := by
  cases routed with
  | keptAlive _ => exact ⟨[], (List.append_nil _).symm, by simp⟩
  | picked _ picked => exact picked.workers

/-- A move starts conversations, or it changes the task of one. What has ended then stays as it is,
and what ends does so with its machine. -/
theorem Serving.workers (serving : multiplexer.Serving)
    (step : Step setting multiplexer move after) :
    (∃ more, after.workers = multiplexer.workers ++ more ∧
      ∀ worker ∈ more, worker.task.isLive = true) ∨
      ∃ generation task, ∃ worker : Worker definition σ,
        multiplexer.worker? generation = some worker ∧
          after.workers = (multiplexer.setTask generation task).workers ∧
          (worker.task.isLive = false →
            task.isLive = false ∧ task.conversation = worker.task.conversation) ∧
          (worker.task.isLive = true → task.isLive = false →
            task.conversation.isFinished = true) := by
  obtain ⟨orderly, routing, uncancelled, isOpen⟩ := serving
  cases step with
  | @evict completion rest _ _ =>
    have same := (complete_frame completion { multiplexer with completions := rest }).1
    exact .inl ⟨[], same.trans (List.append_nil _).symm, by simp⟩
  | routeInbound _ _ routed => exact .inl routed.workers
  | routeControl _ _ routed => exact .inl routed.workers
  | handOver _ _ _ handed =>
    cases handed with
    | nowhere _ => exact .inl ⟨[], (List.append_nil _).symm, by simp⟩
    | @delivered worker task found delivered =>
      have given := Task.deliver?_delivered delivered
      refine .inr ⟨worker.generation, task, worker, worker?_of_holder? found, rfl, fun gone => ?_,
        fun live gone => ?_⟩
      · rw [given.live] at gone
        cases gone
      · rw [Task.isLive, given.phase] at gone
        exact absurd (live.symm.trans gone) (by simp)
    | refused _ _ picked => exact .inl picked.workers
  | noticeClosed _ _ closed => rw [isOpen] at closed; cases closed
  | noticeCancelled _ cancelled => rw [uncancelled] at cancelled; cases cancelled
  | finish stopping _ => rw [routing] at stopping; cases stopping
  | @work generation taskMove worker result found moved =>
    rw [uncancelled] at moved
    have opened := (orderly.isOpen worker (worker?_some found).1).1
    refine .inr ⟨generation, result.1, worker, found, rfl, fun gone => ?_,
      moved.isFinished opened⟩
    cases moved with
    | report _ => exact ⟨rfl, rfl⟩
    | begin phase | takeNotification phase _ | takeHook phase _ | handle phase
    | noticeClosed phase _ _ | noticeCancelled phase _ =>
      rw [Task.isLive, phase] at gone
      cases gone

theorem Serving.hasEnded (serving : multiplexer.Serving)
    (step : Step setting multiplexer move after) (ended : multiplexer.HasEnded generation) :
    after.HasEnded generation := by
  obtain ⟨old, member, same, gone⟩ := ended
  rcases serving.workers step with ⟨more, workers, _⟩ |
    ⟨number, task, worker, found, workers, stays, _⟩
  · exact ⟨old, workers ▸ List.mem_append_left _ member, same, gone⟩
  · rw [HasEnded, workers]
    obtain ⟨present, own⟩ := worker?_some found
    refine ⟨_, List.mem_map_of_mem member, ?_, ?_⟩
    · split <;> exact same
    · split
      next here =>
        cases serving.orderly.eq_of_generation member present (here.trans own.symm)
        exact (stays gone).1
      next => exact gone

theorem Serving.finished_or_before (serving : multiplexer.Serving)
    (step : Step setting multiplexer move after) (member : worker ∈ after.workers)
    (gone : worker.task.isLive = false) :
    worker.task.conversation.isFinished = true ∨
      ∃ earlier ∈ multiplexer.workers, earlier.generation = worker.generation ∧
        earlier.task.isLive = false ∧
        earlier.task.conversation = worker.task.conversation := by
  rcases serving.workers step with ⟨more, workers, fresh⟩ |
    ⟨number, task, old, found, workers, stays, ends⟩
  · rcases List.mem_append.mp (workers ▸ member) with before | new
    · exact .inr ⟨worker, before, rfl, gone, rfl⟩
    · rw [fresh worker new] at gone
      cases gone
  · rcases serving.orderly.mem_setTask found (workers ▸ member) with rfl | before
    · cases live : old.task.isLive with
      | true => exact .inl (ends live gone)
      | false => exact .inr ⟨old, (worker?_some found).1, rfl, live, (stays live).2.symm⟩
    · exact .inr ⟨worker, before, rfl, gone, rfl⟩

end Multiplexer
end Parley
