import Parley.Proofs.Multiplexer.Devoted
/-!
Two multiplexers in step with each other.

Both are busy with one connection only, and its conversations are the same in both, apart from the
generations that tell them apart. Whatever one of them can do next the other can do too, and after
that they are still in step. So both come to rest at the same time and in the same way.
-/

namespace Parley

variable {definition : Definition} {σ : Type}

def Worker.renamed (names : Nat → Nat) (worker : Worker definition σ) : Worker definition σ :=
  ⟨names worker.generation, worker.task⟩

def Completion.renamed (names : Nat → Nat) (completion : Completion) : Completion :=
  ⟨completion.connection, names completion.generation⟩

namespace Multiplexer

variable {setting : Setting σ} {here there : Multiplexer definition σ} {connection : String}
  {names : Nat → Nat} {worker : Worker definition σ}

/-- All that has to do with a connection is the same in both, with the generations of one renamed
to those of the other. -/
structure Mirrors (connection : String) (names : Nat → Nat)
    (here there : Multiplexer definition σ) : Prop where
  inbound : there.inbound.items = here.inbound.items
  control : there.control = here.control
  held : there.held = here.held
  news : there.completions = here.completions.map (Completion.renamed names)
  own : there.own connection = (here.own connection).map (Worker.renamed names)
  entry : there.table.get? connection = (here.table.get? connection).map names
  attempts : there.ownAttempts connection = here.ownAttempts connection

structure Tidy (connection : String) (multiplexer : Multiplexer definition σ) : Prop where
  orderly : multiplexer.Orderly
  news : ∀ completion ∈ multiplexer.completions,
    ∃ worker ∈ multiplexer.own connection, worker.generation = completion.generation

theorem Tidy.of_same {multiplexer after : Multiplexer definition σ}
    (tidy : multiplexer.Tidy connection) (workers : after.workers = multiplexer.workers)
    (table : after.table = multiplexer.table)
    (completions : after.completions ⊆ multiplexer.completions)
    (next : after.nextGeneration = multiplexer.nextGeneration) : after.Tidy connection where
  orderly := tidy.orderly.of_same workers table completions next
  news := fun completion told => by
    rw [Multiplexer.own, workers]
    exact tidy.news completion (completions told)

structure Busy (connection : String) (multiplexer : Multiplexer definition σ) : Prop where
  serving : multiplexer.Serving
  devoted : multiplexer.Devoted connection

theorem Busy.tidy {multiplexer : Multiplexer definition σ} (busy : multiplexer.Busy connection) :
    multiplexer.Tidy connection :=
  ⟨busy.serving.orderly, fun completion told => (busy.devoted.news completion told).2⟩

namespace Mirrors

theorem worker? (mirrors : Mirrors connection names here there) (right : there.Orderly)
    (inside : worker ∈ here.own connection) :
    there.worker? (names worker.generation) = some (worker.renamed names) := by
  have present : worker.renamed names ∈ there.own connection :=
    mirrors.own ▸ List.mem_map_of_mem inside
  exact right.worker?_of_mem (mem_own.mp present).1

theorem injective (mirrors : Mirrors connection names here there) (right : there.Orderly)
    {first second : Worker definition σ} (left : first ∈ here.own connection)
    (other : second ∈ here.own connection)
    (same : names first.generation = names second.generation) : first = second := by
  have distinct : ((there.own connection).map Worker.generation).Nodup :=
    right.distinct.sublist (List.filter_sublist.map Worker.generation)
  rw [mirrors.own, List.map_map] at distinct
  exact List.inj_on_of_nodup_map distinct left other same

theorem holder? (mirrors : Mirrors connection names here there) (left : here.Orderly)
    (right : there.Orderly) :
    there.holder? connection = (here.holder? connection).map (Worker.renamed names) := by
  cases entry : here.table.get? connection with
  | none => simp [Multiplexer.holder?, mirrors.entry, entry]
  | some generation =>
    obtain ⟨worker, found, same, belongs⟩ := left.holder? entry
    rw [found, Multiplexer.holder?, mirrors.entry, entry, ← same]
    exact mirrors.worker? right (mem_own.mpr ⟨(holder?_some found).1, belongs⟩)

theorem isFull (mirrors : Mirrors connection names here there) (left : here.Orderly)
    (right : there.Orderly) {parcel : Parcel} (concerned : parcel.connection = connection) :
    there.isFull setting parcel = here.isFull setting parcel := by
  unfold Multiplexer.isFull
  rw [concerned, mirrors.holder? left right]
  cases here.holder? connection <;> rfl

theorem isReady (mirrors : Mirrors connection names here there) (left : here.Serving)
    (right : there.Serving) : there.isReady = here.isReady := by
  unfold Multiplexer.isReady
  rw [mirrors.held, left.routing, right.routing]

theorem contains (mirrors : Mirrors connection names here there) :
    there.table.contains connection = here.table.contains connection := by
  simp only [TextMap.contains, mirrors.entry, Option.isSome_map]

theorem startedWith (mirrors : Mirrors connection names here there) :
    there.startedWith connection = here.startedWith connection := by
  rw [startedWith_eq, startedWith_eq, mirrors.own, List.length_map]

/-- Only the names of the conversations that there are matter. -/
theorem rename (mirrors : Mirrors connection names here there) (left : here.Tidy connection)
    {others : Nat → Nat}
    (same : ∀ worker ∈ here.own connection, others worker.generation = names worker.generation) :
    Mirrors connection others here there := by
  refine { mirrors with news := ?_, own := ?_, entry := ?_ }
  · rw [mirrors.news]
    refine List.map_congr_left fun completion told => ?_
    obtain ⟨worker, inside, equal⟩ := left.news completion told
    rw [Completion.renamed, Completion.renamed, ← equal, same worker inside]
  · rw [mirrors.own]
    refine List.map_congr_left fun worker inside => ?_
    rw [Worker.renamed, Worker.renamed, same worker inside]
  · rw [mirrors.entry]
    cases entry : here.table.get? connection with
    | none => rfl
    | some generation =>
      obtain ⟨worker, member, equal, belongs⟩ := left.orderly.entry _ _ entry
      rw [Option.map_some, Option.map_some, ← equal,
        same worker (mem_own.mpr ⟨member, belongs⟩)]

theorem note (mirrors : Mirrors connection names here there) (write : Ledger → Ledger)
    (kept : ∀ ledger, (write ledger).attempts = ledger.attempts) :
    Mirrors connection names (here.note write) (there.note write) where
  inbound := mirrors.inbound
  control := mirrors.control
  held := mirrors.held
  news := mirrors.news
  own := mirrors.own
  entry := mirrors.entry
  attempts := by
    simp only [ownAttempts, Multiplexer.note, kept]
    exact mirrors.attempts

theorem take (mirrors : Mirrors connection names here there) (parcel : Option Parcel) :
    Mirrors connection names { here with held := parcel } { there with held := parcel } where
  inbound := mirrors.inbound
  control := mirrors.control
  held := rfl
  news := mirrors.news
  own := mirrors.own
  entry := mirrors.entry
  attempts := mirrors.attempts

theorem erase (mirrors : Mirrors connection names here there) :
    Mirrors connection names { here with table := here.table.erase connection }
      { there with table := there.table.erase connection } where
  inbound := mirrors.inbound
  control := mirrors.control
  held := mirrors.held
  news := mirrors.news
  own := mirrors.own
  entry := by simp
  attempts := mirrors.attempts

theorem setTask (mirrors : Mirrors connection names here there) (left : here.Orderly)
    (right : there.Orderly) (inside : worker ∈ here.own connection) {task : Task definition σ}
    (kept : task.conversation.connection = worker.connection) :
    Mirrors connection names (here.setTask worker.generation task)
      (there.setTask (names worker.generation) task) := by
  refine ⟨mirrors.inbound, mirrors.control, mirrors.held, mirrors.news, ?_, mirrors.entry,
    mirrors.attempts⟩
  rw [right.own_setTask (mirrors.worker? right inside) kept,
    left.own_setTask (left.worker?_of_mem (mem_own.mp inside).1) kept, mirrors.own, List.map_map,
    List.map_map]
  refine List.map_congr_left fun other present => ?_
  simp only [Function.comp]
  by_cases same : other.generation = worker.generation
  · have named : (other.renamed names).generation = names worker.generation :=
      congrArg names same
    rw [if_pos same, if_pos named]
    rfl
  · have apart : (other.renamed names).generation ≠ names worker.generation := fun named =>
      same (congrArg Worker.generation (mirrors.injective right present inside named))
    rw [if_neg same, if_neg apart]

theorem complete (mirrors : Mirrors connection names here there) (left : here.Orderly)
    (right : there.Orderly) {completion : Completion}
    (concerned : completion.connection = connection)
    (known : ∃ worker ∈ here.own connection, worker.generation = completion.generation) :
    Mirrors connection names (here.complete completion)
      (there.complete (completion.renamed names)) := by
  have noted := mirrors.note .noteCompletion fun _ => rfl
  have same : there.table.get? connection = some (names completion.generation) ↔
      here.table.get? connection = some completion.generation := by
    rw [mirrors.entry, Option.map_eq_some_iff]
    constructor
    · rintro ⟨generation, entry, named⟩
      obtain ⟨worker, inside, equal⟩ := known
      obtain ⟨holder, member, own, belongs⟩ := left.entry _ _ entry
      rw [← own, ← equal] at named
      rw [entry, ← own, ← equal,
        mirrors.injective right (mem_own.mpr ⟨member, belongs⟩) inside named]
    · exact fun entry => ⟨_, entry, rfl⟩
  cases concerned
  unfold Multiplexer.complete
  by_cases entry : here.table.get? completion.connection = some completion.generation
  · have also := same.mpr entry
    simp only [Multiplexer.note, Completion.renamed, entry, also, if_true]
    exact noted.erase
  · have neither := mt same.mp entry
    simp only [Multiplexer.note, Completion.renamed, entry, neither, if_false]
    exact noted

end Mirrors

def Mirrored (connection : String) (here there : Multiplexer definition σ) : Prop :=
  ∃ names, Mirrors connection names here there

namespace Mirrored

theorem spawn (mirrored : Mirrored connection here there) (left : here.Tidy connection)
    (setting : Setting σ) :
    Mirrored connection (here.spawn setting connection) (there.spawn setting connection) := by
  obtain ⟨names, mirrors⟩ := mirrored
  have renamed : Mirrors connection
      (Function.update names here.nextGeneration there.nextGeneration) here there :=
    mirrors.rename left fun worker inside => Function.update_of_ne
      (Nat.ne_of_lt (left.orderly.below worker (mem_own.mp inside).1)) _ _
  refine ⟨_, renamed.inbound, renamed.control, renamed.held, renamed.news, ?_, ?_,
    renamed.attempts⟩
  · rw [own_spawn, own_spawn, renamed.own, mirrors.startedWith, List.map_append, List.map_cons,
      List.map_nil, Worker.renamed, Function.update_self]
  · simp only [Multiplexer.spawn, Multiplexer.note, TextMap.get?_insert, if_true, Option.map_some,
      Function.update_self]

theorem note (mirrored : Mirrored connection here there) (write : Ledger → Ledger)
    (kept : ∀ ledger, (write ledger).attempts = ledger.attempts) :
    Mirrored connection (here.note write) (there.note write) := by
  obtain ⟨names, mirrors⟩ := mirrored
  exact ⟨names, mirrors.note write kept⟩

theorem take (mirrored : Mirrored connection here there) (parcel : Option Parcel) :
    Mirrored connection { here with held := parcel } { there with held := parcel } := by
  obtain ⟨names, mirrors⟩ := mirrored
  exact ⟨names, mirrors.take parcel⟩

theorem pick (mirrored : Mirrored connection here there) (left : here.Tidy connection)
    (setting : Setting σ) (item : Notification) (attempts : Nat) :
    Mirrored connection (here.pick setting item connection attempts)
      (there.pick setting item connection attempts) := by
  obtain ⟨names, mirrors⟩ := id mirrored
  cases attempts with
  | zero => exact mirrored.note .noteRoutingError fun _ => rfl
  | succ attempts =>
    unfold Multiplexer.pick ensure?
    rw [mirrors.contains]
    cases here.table.contains connection with
    | true => exact mirrored.take _
    | false =>
      cases item.startsConversation with
      | true => exact (mirrored.spawn left setting).take _
      | false => exact mirrored.note .noteUnmatched fun _ => rfl

theorem route (mirrored : Mirrored connection here there) (left : here.Tidy connection)
    (setting : Setting σ) {item : Notification} (concerned : item.concerns connection = true) :
    Mirrored connection (here.route setting item) (there.route setting item) := by
  unfold Multiplexer.route
  cases addressed : item.connection? with
  | none => exact mirrored.note .noteKeepAlive fun _ => rfl
  | some name =>
    cases Notification.concerns_iff.mp concerned name addressed
    have noted : (here.note .noteNotification).Tidy connection :=
      left.of_same rfl rfl (List.Subset.refl _) rfl
    exact (mirrored.note .noteNotification fun _ => rfl).pick noted setting item attemptLimit

theorem handOver (mirrored : Mirrored connection here there) (left : here.Tidy connection)
    (right : there.Orderly) (setting : Setting σ) {parcel : Parcel}
    (concerned : parcel.connection = connection) :
    Mirrored connection (here.handOver setting parcel) (there.handOver setting parcel) := by
  obtain ⟨names, mirrors⟩ := id mirrored
  unfold Multiplexer.handOver
  rw [concerned, mirrors.holder? left.orderly right]
  cases found : here.holder? connection with
  | none => exact mirrored
  | some worker =>
    obtain ⟨member, entry⟩ := holder?_some found
    simp only [Option.map_some, Worker.renamed]
    cases delivered : worker.task.deliver? parcel.item with
    | some task =>
      have inside := mem_own.mpr ⟨member, left.orderly.connection_of_holder? found⟩
      have kept := congrArg Conversation.connection (Task.deliver?_delivered delivered).conversation
      exact ⟨names, mirrors.setTask left.orderly right inside kept⟩
    | none =>
      have gone := Task.isLive_of_deliver?_none (left.orderly.isOpen worker member) delivered
      have erased : Tidy connection { here with table := here.table.erase connection } :=
        ⟨left.orderly.erase (left.orderly.isAlone_of_entry member entry gone), left.news⟩
      exact Mirrored.pick ⟨names, mirrors.erase⟩ erased setting parcel.item parcel.attempts

end Mirrored

variable [Evaluator σ] {move : Move} {refuses : Call → Option ClientError}

theorem Mirrors.router (mirrors : Mirrors connection names here there)
    (left : here.Busy connection) (right : there.Busy connection) (setting : Setting σ)
    (router : move ∈ routerMoves) :
    Option.Rel (Mirrored connection) (here.advance? setting move)
      (there.advance? setting move) := by
  have ready := mirrors.isReady left.serving right.serving
  cases move with
  | evict =>
    simp only [advance?, mirrors.news, ready]
    cases completions : here.completions with
    | nil => exact .none
    | cons completion rest =>
      obtain ⟨concerned, known⟩ :=
        left.devoted.news completion (completions ▸ List.mem_cons_self)
      simp only [List.map_cons]
      split
      next =>
        have fewer : Mirrors connection names { here with completions := rest }
            { there with completions := rest.map (Completion.renamed names) } :=
          ⟨mirrors.inbound, mirrors.control, mirrors.held, rfl, mirrors.own, mirrors.entry,
            mirrors.attempts⟩
        refine .some ⟨names, fewer.complete ?_ ?_ concerned known⟩
        · exact left.serving.orderly.of_same rfl rfl (completions ▸ List.subset_cons_self _ _) rfl
        · refine right.serving.orderly.of_same rfl rfl ?_ rfl
          rw [mirrors.news, completions]
          exact List.subset_cons_self _ _
      next => exact .none
  | routeInbound =>
    simp only [advance?, mirrors.inbound, ready]
    cases items : here.inbound.items with
    | nil => exact .none
    | cons item rest =>
      dsimp only
      split
      next =>
        have fewer : Mirrored connection
            { here with inbound := { here.inbound with items := rest } }
            { there with inbound := { there.inbound with items := rest } } :=
          ⟨names, rfl, mirrors.control, mirrors.held, mirrors.news, mirrors.own, mirrors.entry,
            mirrors.attempts⟩
        exact .some (fewer.route (left.tidy.of_same rfl rfl (List.Subset.refl _) rfl) setting
          (left.devoted.inbound item (items ▸ List.mem_cons_self)))
      next => exact .none
  | routeControl =>
    simp only [advance?, mirrors.control, ready]
    cases items : here.control with
    | nil => exact .none
    | cons data rest =>
      dsimp only
      split
      next =>
        have fewer : Mirrored connection { here with control := rest }
            { there with control := rest } :=
          ⟨names, mirrors.inbound, rfl, mirrors.held, mirrors.news, mirrors.own, mirrors.entry,
            mirrors.attempts⟩
        exact .some (fewer.route (left.tidy.of_same rfl rfl (List.Subset.refl _) rfl) setting
          (decide_eq_true (left.devoted.control data (items ▸ List.mem_cons_self))))
      next => exact .none
  | handOver =>
    simp only [advance?, mirrors.held]
    cases held : here.held with
    | none => exact .none
    | some parcel =>
      have concerned := left.devoted.held parcel held
      have stage : decide (there.stage = .routing) = decide (here.stage = .routing) := by
        rw [left.serving.routing, right.serving.routing]
      dsimp only
      rw [stage, mirrors.isFull left.serving.orderly right.serving.orderly concerned]
      split
      next =>
        have released : Mirrored connection { here with held := none }
            { there with held := none } := ⟨names, mirrors.take none⟩
        exact .some (released.handOver (left.tidy.of_same rfl rfl (List.Subset.refl _) rfl)
          (right.serving.orderly.of_same rfl rfl (List.Subset.refl _) rfl) setting concerned)
      next => exact .none
  | noticeClosed =>
    simp only [advance?, left.serving.isOpen, right.serving.isOpen, Bool.not_true, Bool.and_false,
      Bool.false_eq_true, if_false]
    exact .none
  | noticeCancelled =>
    simp only [advance?, left.serving.uncancelled, right.serving.uncancelled, Bool.and_false,
      Bool.false_eq_true, if_false]
    exact .none
  | finish =>
    simp only [advance?, left.serving.routing, right.serving.routing, reduceCtorEq, decide_false,
      Bool.false_and, Bool.false_eq_true, if_false]
    exact .none
  | work _ _ => simp [routerMoves] at router

theorem Mirrors.work? (mirrors : Mirrors connection names here there)
    (left : here.Busy connection) (right : there.Busy connection)
    (client : setting.client = .deciding refuses) (inside : worker ∈ here.own connection)
    (taskMove : Task.Move) :
    Option.Rel (Mirrors connection names) (here.work? setting worker.generation taskMove)
      (there.work? setting (names worker.generation) taskMove) := by
  obtain ⟨member, belongs⟩ := mem_own.mp inside
  have found := left.serving.orderly.worker?_of_mem member
  have also := mirrors.worker? right.serving.orderly inside
  simp only [Multiplexer.work?, found, also, Option.bind_eq_bind, Option.bind_some, client,
    left.serving.uncancelled, right.serving.uncancelled, Worker.renamed]
  cases advanced : worker.task.advance? (.deciding refuses) false taskMove here.ledger with
  | none =>
    cases advancedThere : worker.task.advance? (.deciding refuses) false taskMove there.ledger with
    | none => exact .none
    | some result =>
      obtain ⟨_, step, _⟩ := (Task.step_of_advance? advancedThere).beside here.ledger
      rw [Task.advance?_of_step step] at advanced
      cases advanced
  | some result =>
    have step := Task.step_of_advance? advanced
    obtain ⟨after, same, fresh, attempts, attemptsThere, marked⟩ := step.beside there.ledger
    rw [Task.advance?_of_step same]
    have went := mirrors.setTask left.serving.orderly right.serving.orderly inside step.connection
    have wrote : Mirrors connection names
        { here.setTask worker.generation result.1 with ledger := result.2 }
        { there.setTask (names worker.generation) result.1 with ledger := after } := by
      refine { went with attempts := ?_ }
      simp only [ownAttempts, attempts, attemptsThere, List.filter_append]
      exact congrArg _ mirrors.attempts
    simp only [Option.bind_some]
    split
    next =>
      refine .some { wrote with news := ?_ }
      simp only [List.map_append]
      exact congrArg₂ _ mirrors.news rfl
    next => exact .some wrote

end Multiplexer
end Parley
