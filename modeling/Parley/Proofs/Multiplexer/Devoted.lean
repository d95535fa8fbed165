import Parley.Proofs.Conversation.Tally
import Parley.Proofs.Multiplexer.Settle
/-!
A multiplexer that is busy with one connection.

If everything on its way concerns one connection and all other conversations rest, it stays that way
whatever move it makes, and nothing happens to any other connection.
-/

namespace Parley

variable {definition : Definition} {σ : Type}

/-- An item without a connection concerns everybody. -/
def Notification.concerns (connection : String) (item : Notification) : Bool :=
  item.connection?.all fun other => other = connection

theorem Notification.concerns_iff {connection : String} {item : Notification} :
    item.concerns connection = true ↔
      ∀ other, item.connection? = some other → other = connection := by
  simp [concerns, Option.all_eq_true]

namespace Task

variable [Evaluator σ] {task : Task definition σ} {move : Move} {ledger : Ledger}
  {result : Task definition σ × Ledger}

/-- With a client that decides by the call alone a task takes the same step whatever has been
written down by others, and what it writes down has its own connection. -/
theorem Step.beside {refuses : Call → Option ClientError} {isCancelled : Bool}
    (step : Step (.deciding refuses) isCancelled task ledger move result) (beside : Ledger) :
    ∃ after, Step (.deciding refuses) isCancelled task beside move (result.1, after) ∧
      ∃ fresh, result.2.attempts = fresh ++ ledger.attempts ∧
        after.attempts = fresh ++ beside.attempts ∧
        ∀ attempt ∈ fresh, attempt.connection = task.conversation.connection := by
  obtain ⟨fresh, isOf, same, made⟩ := step.written
  exact ⟨_, made beside, fresh.attempts, congrArg Ledger.attempts same, rfl, isOf⟩

end Task

namespace Multiplexer

variable {setting : Setting σ} {multiplexer after : Multiplexer definition σ}
  {connection other : String} {generation : Nat} {worker : Worker definition σ}

def own (multiplexer : Multiplexer definition σ) (connection : String) :
    List (Worker definition σ) :=
  multiplexer.workers.filter fun worker => worker.connection = connection

def ownAttempts (multiplexer : Multiplexer definition σ) (connection : String) : List Attempt :=
  multiplexer.ledger.attempts.filter fun attempt => attempt.connection = connection

theorem mem_own :
    worker ∈ multiplexer.own connection ↔
      worker ∈ multiplexer.workers ∧ worker.connection = connection := by
  simp [own]

theorem startedWith_eq (multiplexer : Multiplexer definition σ) (connection : String) :
    multiplexer.startedWith connection = (multiplexer.own connection).length :=
  List.countP_eq_length_filter

theorem own_spawn (setting : Setting σ) (multiplexer : Multiplexer definition σ)
    (connection : String) :
    (multiplexer.spawn setting connection).own connection =
      multiplexer.own connection ++
        [⟨multiplexer.nextGeneration,
          Task.spawn (.new definition connection setting.scripts
            (setting.pins connection (multiplexer.startedWith connection)))⟩] := by
  simp [own, spawn, note, Worker.connection, Task.spawn, Conversation.new]

theorem own_spawn_of_ne (setting : Setting σ) (multiplexer : Multiplexer definition σ)
    (apart : connection ≠ other) :
    (multiplexer.spawn setting connection).own other = multiplexer.own other := by
  simp [own, spawn, note, Worker.connection, Task.spawn, Conversation.new, apart]

theorem Orderly.own_setTask (orderly : multiplexer.Orderly)
    (found : multiplexer.worker? generation = some worker) {task : Task definition σ}
    (kept : task.conversation.connection = worker.connection) (connection : String) :
    (multiplexer.setTask generation task).own connection =
      (multiplexer.own connection).map fun other =>
        if other.generation = generation then { other with task } else other := by
  obtain ⟨member, same⟩ := worker?_some found
  simp only [Multiplexer.own, Multiplexer.setTask, List.filter_map]
  congr 1
  refine List.filter_congr fun other inside => ?_
  by_cases here : other.generation = generation
  · cases orderly.eq_of_generation inside member (here.trans same.symm)
    simp only [Function.comp, if_pos here]
    exact congrArg (fun name => decide (name = connection)) kept
  · simp only [Function.comp, if_neg here]

theorem Orderly.own_setTask_of_ne (orderly : multiplexer.Orderly)
    (found : multiplexer.worker? generation = some worker) {task : Task definition σ}
    (kept : task.conversation.connection = worker.connection)
    (apart : worker.connection ≠ connection) :
    (multiplexer.setTask generation task).own connection = multiplexer.own connection := by
  obtain ⟨member, same⟩ := worker?_some found
  rw [orderly.own_setTask found kept]
  conv_rhs => rw [← List.map_id (multiplexer.own connection)]
  refine List.map_congr_left fun other inside => if_neg fun here => ?_
  obtain ⟨present, belongs⟩ := mem_own.mp inside
  have one := orderly.eq_of_generation present member (here.trans same.symm)
  exact apart (one ▸ belongs)

theorem Orderly.exists_own_setTask (orderly : multiplexer.Orderly)
    (found : multiplexer.worker? generation = some worker) {task : Task definition σ}
    (kept : task.conversation.connection = worker.connection) {old : Worker definition σ}
    (inside : old ∈ multiplexer.own connection) :
    ∃ later ∈ (multiplexer.setTask generation task).own connection,
      later.generation = old.generation := by
  rw [orderly.own_setTask found kept]
  refine ⟨_, List.mem_map_of_mem inside, ?_⟩
  split <;> rfl

structure SameFor (connection : String) (before after : Multiplexer definition σ) : Prop where
  own : after.own connection = before.own connection
  entry : after.table.get? connection = before.table.get? connection
  attempts : after.ownAttempts connection = before.ownAttempts connection

/-- Everything on its way concerns one connection, and all conversations with others rest. -/
structure Devoted (connection : String) (multiplexer : Multiplexer definition σ) : Prop where
  inbound : ∀ item ∈ multiplexer.inbound.items, item.concerns connection = true
  control : ∀ data ∈ multiplexer.control, data.connection = connection
  held : ∀ parcel, multiplexer.held = some parcel → parcel.connection = connection
  news : ∀ completion ∈ multiplexer.completions, completion.connection = connection ∧
    ∃ worker ∈ multiplexer.own connection, worker.generation = completion.generation
  others : ∀ worker ∈ multiplexer.workers, worker.connection ≠ connection → worker.task.Rests

theorem SameFor.refl (connection : String) (multiplexer : Multiplexer definition σ) :
    SameFor connection multiplexer multiplexer :=
  ⟨rfl, rfl, rfl⟩

theorem SameFor.trans {first second third : Multiplexer definition σ}
    (earlier : SameFor connection first second) (later : SameFor connection second third) :
    SameFor connection first third :=
  ⟨later.own.trans earlier.own, later.entry.trans earlier.entry,
    later.attempts.trans earlier.attempts⟩

structure Keeps (connection : String) (before after : Multiplexer definition σ) : Prop where
  devoted : after.Devoted connection
  others : ∀ other, other ≠ connection → SameFor other before after

theorem Keeps.of_same {before : Multiplexer definition σ}
    (keeps : Keeps connection multiplexer after)
    (same : ∀ other, other ≠ connection → SameFor other before multiplexer) :
    Keeps connection before after :=
  ⟨keeps.devoted, fun other apart => (same other apart).trans (keeps.others other apart)⟩

theorem Devoted.complete {completion : Completion} (devoted : multiplexer.Devoted connection)
    (concerned : completion.connection = connection) :
    Keeps connection multiplexer (multiplexer.complete completion) := by
  unfold Multiplexer.complete
  dsimp only
  split
  next =>
    refine ⟨{ devoted with }, fun other apart => ⟨rfl, ?_, rfl⟩⟩
    have foreign : other ≠ completion.connection := fun same => apart (same.trans concerned)
    simp only [TextMap.get?_erase, if_neg foreign]
    rfl
  next =>
    exact ⟨{ devoted with }, fun other _ => ⟨rfl, rfl, rfl⟩⟩

theorem Devoted.spawn (devoted : multiplexer.Devoted connection) (setting : Setting σ) :
    Keeps connection multiplexer (multiplexer.spawn setting connection) := by
  refine ⟨⟨devoted.inbound, devoted.control, devoted.held, ?_, ?_⟩,
    fun other apart => ⟨?_, ?_, rfl⟩⟩
  · intro completion told
    obtain ⟨concerned, worker, member, same⟩ := devoted.news completion told
    obtain ⟨present, belongs⟩ := mem_own.mp member
    exact ⟨concerned, worker, mem_own.mpr ⟨List.mem_append_left _ present, belongs⟩, same⟩
  · intro worker member foreign
    rcases List.mem_append.mp member with old | new
    · exact devoted.others worker old foreign
    · cases List.mem_singleton.mp new
      exact absurd rfl foreign
  · exact own_spawn_of_ne setting multiplexer apart.symm
  · simp only [Multiplexer.spawn, note, TextMap.get?_insert, if_neg apart]

theorem Devoted.picked {item : Notification} {attempts : Nat}
    (devoted : multiplexer.Devoted connection)
    (picked : Picked setting item connection multiplexer attempts after) :
    Keeps connection multiplexer after := by
  cases picked with
  | exhausted =>
    exact ⟨{ devoted with }, fun other _ => ⟨rfl, rfl, rfl⟩⟩
  | dismissed _ _ =>
    exact ⟨{ devoted with }, fun other _ => ⟨rfl, rfl, rfl⟩⟩
  | found _ =>
    refine ⟨⟨devoted.inbound, devoted.control, ?_, devoted.news, devoted.others⟩,
      fun other _ => ⟨rfl, rfl, rfl⟩⟩
    intro parcel taken
    cases taken
    rfl
  | started _ _ =>
    obtain ⟨started, others⟩ := devoted.spawn setting
    refine ⟨⟨started.inbound, started.control, ?_, started.news, started.others⟩,
      fun other apart => (others other apart).trans ⟨rfl, rfl, rfl⟩⟩
    intro parcel taken
    cases taken
    rfl

theorem Devoted.routed {item : Notification} (devoted : multiplexer.Devoted connection)
    (concerned : item.concerns connection = true) (routed : Routed setting item multiplexer after) :
    Keeps connection multiplexer after := by
  cases routed with
  | keptAlive _ =>
    exact ⟨{ devoted with }, fun other _ => ⟨rfl, rfl, rfl⟩⟩
  | picked addressed picked =>
    cases Notification.concerns_iff.mp concerned _ addressed
    have noted : (multiplexer.note .noteNotification).Devoted connection := { devoted with }
    exact (noted.picked picked).of_same fun _ _ => ⟨rfl, rfl, rfl⟩

theorem Devoted.setTask (devoted : multiplexer.Devoted connection) (orderly : multiplexer.Orderly)
    (found : multiplexer.worker? generation = some worker)
    (concerned : worker.connection = connection) {task : Task definition σ}
    (kept : task.conversation.connection = worker.connection) :
    Keeps connection multiplexer (multiplexer.setTask generation task) := by
  obtain ⟨member, same⟩ := worker?_some found
  refine ⟨⟨devoted.inbound, devoted.control, devoted.held, ?_, ?_⟩, fun other apart =>
    ⟨orderly.own_setTask_of_ne found kept fun here => apart (here.symm.trans concerned), rfl, rfl⟩⟩
  · intro completion told
    obtain ⟨own, other, inside, equal⟩ := devoted.news completion told
    obtain ⟨later, stays, alike⟩ := orderly.exists_own_setTask found kept inside
    exact ⟨own, later, stays, alike.trans equal⟩
  · intro other inside foreign
    obtain ⟨old, present, rfl⟩ := List.mem_map.mp inside
    split at foreign
    next => exact absurd (kept.trans concerned) foreign
    next away =>
      rw [if_neg away]
      exact devoted.others old present foreign

theorem Devoted.handedOver {parcel : Parcel} (devoted : multiplexer.Devoted connection)
    (orderly : multiplexer.Orderly) (concerned : parcel.connection = connection)
    (handed : HandedOver setting parcel multiplexer after) :
    Keeps connection multiplexer after := by
  cases handed with
  | nowhere _ => exact ⟨devoted, fun other _ => .refl other multiplexer⟩
  | @delivered worker task found delivered =>
    have given := Task.deliver?_delivered delivered
    exact devoted.setTask orderly (worker?_of_holder? found)
      ((orderly.connection_of_holder? found).trans concerned)
      (congrArg Conversation.connection given.conversation)
  | refused _ _ picked =>
    rw [concerned] at picked
    have erased : Devoted connection
        { multiplexer with table := multiplexer.table.erase connection } := { devoted with }
    refine (erased.picked picked).of_same fun other apart => ⟨rfl, ?_, rfl⟩
    rw [TextMap.get?_erase, if_neg apart]

variable [Evaluator σ] {move : Move} {refuses : Call → Option ClientError}

theorem Devoted.concerned (devoted : multiplexer.Devoted connection)
    (orderly : multiplexer.Orderly) (uncancelled : multiplexer.isCancelled = false)
    (found : multiplexer.worker? generation = some worker) {taskMove : Task.Move} {client : Client}
    {result : Task definition σ × Ledger}
    (moved : worker.task.Step client multiplexer.isCancelled multiplexer.ledger taskMove result) :
    worker.connection = connection := by
  by_contra foreign
  have member := (worker?_some found).1
  rw [uncancelled] at moved
  exact (devoted.others worker member foreign).not_step (orderly.isOpen worker member).1 moved

/-- Whatever is done for one connection, nothing happens to another. -/
theorem Devoted.step (devoted : multiplexer.Devoted connection) (serving : multiplexer.Serving)
    (client : setting.client = .deciding refuses)
    (step : Step setting multiplexer move after) : Keeps connection multiplexer after := by
  obtain ⟨orderly, routing, uncancelled, isOpen⟩ := serving
  cases step with
  | @evict completion rest completions _ =>
    have told : completion ∈ multiplexer.completions := completions ▸ List.mem_cons_self
    have fewer : Devoted connection { multiplexer with completions := rest } :=
      ⟨devoted.inbound, devoted.control, devoted.held,
        fun other later => devoted.news other (completions ▸ List.mem_cons_of_mem _ later),
        devoted.others⟩
    exact (fewer.complete (devoted.news completion told).1).of_same fun _ _ => ⟨rfl, rfl, rfl⟩
  | @routeInbound item rest _ items _ routed =>
    have fewer : Devoted connection
        { multiplexer with inbound := { multiplexer.inbound with items := rest } } :=
      ⟨fun other later => devoted.inbound other (items ▸ List.mem_cons_of_mem _ later),
        devoted.control, devoted.held, devoted.news, devoted.others⟩
    have concerned := devoted.inbound item (items ▸ List.mem_cons_self)
    exact (fewer.routed concerned routed).of_same fun _ _ => ⟨rfl, rfl, rfl⟩
  | @routeControl data rest _ items _ routed =>
    have fewer : Devoted connection { multiplexer with control := rest } :=
      ⟨devoted.inbound,
        fun other later => devoted.control other (items ▸ List.mem_cons_of_mem _ later),
        devoted.held, devoted.news, devoted.others⟩
    have concerned : (Notification.hook data).concerns connection = true :=
      decide_eq_true (devoted.control data (items ▸ List.mem_cons_self))
    exact (fewer.routed concerned routed).of_same fun _ _ => ⟨rfl, rfl, rfl⟩
  | @handOver parcel _ held _ _ handed =>
    have released : Devoted connection { multiplexer with held := none } :=
      ⟨devoted.inbound, devoted.control, by simp, devoted.news, devoted.others⟩
    have ordered : Orderly { multiplexer with held := none } :=
      orderly.of_same rfl rfl (List.Subset.refl _) rfl
    exact (released.handedOver ordered (devoted.held parcel held) handed).of_same
      fun _ _ => ⟨rfl, rfl, rfl⟩
  | noticeClosed _ _ closed => rw [isOpen] at closed; cases closed
  | noticeCancelled _ cancelled => rw [uncancelled] at cancelled; cases cancelled
  | finish stopping _ => rw [routing] at stopping; cases stopping
  | @work generation taskMove worker result found moved =>
    have concerned := devoted.concerned orderly uncancelled found moved
    obtain ⟨set, others⟩ := devoted.setTask orderly found concerned moved.connection
    rw [client] at moved
    obtain ⟨_, _, fresh, attempts, _, marked⟩ := moved.beside multiplexer.ledger
    refine ⟨⟨set.inbound, set.control, set.held, ?_, set.others⟩, fun other apart =>
      ⟨(others other apart).own, rfl, ?_⟩⟩
    · intro completion told
      rcases List.mem_append.mp told with old | new
      · exact set.news completion old
      · split at new
        next =>
          cases List.mem_singleton.mp new
          obtain ⟨member, same⟩ := worker?_some found
          obtain ⟨later, stays, alike⟩ :=
            orderly.exists_own_setTask found moved.connection (mem_own.mpr ⟨member, concerned⟩)
          exact ⟨concerned, later, stays, alike.trans same⟩
        next => cases new
    · have foreign : fresh.filter (fun attempt => attempt.connection = other) = [] := by
        refine List.filter_eq_nil_iff.mpr fun attempt inside => ?_
        have own := (marked attempt inside).trans concerned
        simp only [own, decide_eq_true_eq]
        exact fun same => apart same.symm
      simp only [ownAttempts, attempts, List.filter_append, foreign, List.nil_append]

theorem Devoted.reaches (devoted : multiplexer.Devoted connection)
    (serving : multiplexer.Serving) (client : setting.client = .deciding refuses)
    (reaches : Reaches setting multiplexer after) : Keeps connection multiplexer after := by
  obtain ⟨moves, ran⟩ := reaches
  induction moves generalizing multiplexer with
  | nil => cases ran; exact ⟨devoted, fun other _ => .refl other _⟩
  | cons move rest ih =>
    obtain ⟨next, moved, later⟩ := Option.bind_eq_some_iff.mp ran
    have step := step_of_advance? moved
    obtain ⟨kept, others⟩ := devoted.step serving client step
    obtain ⟨last, further⟩ := ih kept (serving.step step).1 later
    exact ⟨last, fun other apart => (others other apart).trans (further other apart)⟩

end Multiplexer
end Parley
