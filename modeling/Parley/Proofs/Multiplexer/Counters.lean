import Parley.Proofs.Conversation.Echo
import Parley.Proofs.Multiplexer.Conservation
import Parley.Proofs.Multiplexer.Log
/-!
The counters of a router.

A conversation is counted when it is started, and once more when the router hears of its end, in
whichever way it has left the table and whenever the news is heard. So those that count as active
are the ones that run and the ones whose end the router has still to hear of.
-/

namespace Parley

variable {definition : Definition} {σ : Type}

def Ledger.traffic (ledger : Ledger) : Counters :=
  { ledger.counters with
    routingErrors := 0, transitions := 0, unmatched := 0, sends := 0, sendErrors := 0 }

/-- No conversation writes to the counters of the traffic. -/
theorem Client.traffic_steady (client : Client) (name : String) (traffic : Counters) :
    client.Steady name fun here there => there = here ∧ here.traffic = traffic where
  call := fun {here there} call kept => by
    obtain ⟨rfl, same⟩ := kept
    refine ⟨rfl, rfl, ?_⟩
    unfold Ledger.call
    dsimp only
    split <;> exact same
  send := fun ⟨same, kept⟩ => ⟨congrArg Ledger.noteSend same, kept⟩
  sendError := fun ⟨same, kept⟩ => ⟨congrArg Ledger.noteSendError same, kept⟩
  transition := fun ⟨same, kept⟩ => ⟨congrArg Ledger.noteTransition same, kept⟩
  unmatched := fun ⟨same, kept⟩ => ⟨congrArg Ledger.noteUnmatched same, kept⟩

namespace Task

def told (task : Task definition σ) : Nat := if task.phase = .reported then 1 else 0

theorem told_le (task : Task definition σ) : task.told ≤ 1 := by
  unfold told
  split <;> simp

theorem Rests.told {task : Task definition σ} (rests : task.Rests) :
    task.told = if task.isLive then 0 else 1 := by
  rcases rests with reported | ⟨listening, _⟩
  · simp [Task.told, isLive, reported]
  · simp [Task.told, isLive, listening]

variable [Evaluator σ] {client : Client} {isCancelled : Bool} {task : Task definition σ}
  {ledger : Ledger} {move : Move} {result : Task definition σ × Ledger}

theorem Step.traffic (step : Step client isCancelled task ledger move result) :
    result.2.traffic = ledger.traffic := by
  have steady := client.traffic_steady task.conversation.connection ledger.traffic
  have alike : Session.Alike task.conversation.connection
      (fun here there => there = here ∧ here.traffic = ledger.traffic)
      (⟨task.conversation, ledger⟩ : Session definition σ) ⟨task.conversation, ledger⟩ :=
    ⟨rfl, rfl, rfl, rfl⟩
  cases step with
  | begin _ => exact (alike.begin steady).ledger.2
  | handle _ => exact (alike.take steady _).ledger.2
  | _ => rfl

theorem Step.told (step : Step client isCancelled task ledger move result) :
    result.1.told = task.told + if move = .report then 1 else 0 := by
  cases step with
  | begin phase | handle phase => simp [Task.told, phase_settled_ne_reported, phase]
  | takeNotification phase _ | takeHook phase _ | noticeClosed phase _ _
  | noticeCancelled phase _ | report phase => simp [Task.told, phase]

end Task

namespace Worker

theorem total_told_le (workers : List (Worker definition σ)) :
    total Task.told workers ≤ workers.length := by
  induction workers with
  | nil => exact Nat.le_refl 0
  | cons worker rest ih =>
    have one := worker.task.told_le
    rw [total, List.length_cons]
    omega

theorem total_map {measure : Task definition σ → Nat}
    {change : Task definition σ → Task definition σ} (workers : List (Worker definition σ))
    (same : ∀ task, measure (change task) = measure task) :
    total measure (workers.map fun worker => { worker with task := change worker.task }) =
      total measure workers := by
  induction workers with
  | nil => rfl
  | cons worker rest ih => rw [List.map_cons, total, total, same, ih]

theorem total_told_of_rests {workers : List (Worker definition σ)}
    (rests : ∀ worker ∈ workers, worker.task.Rests) :
    total Task.told workers + (workers.filter fun worker => worker.task.isLive).length =
      workers.length := by
  induction workers with
  | nil => rfl
  | cons worker rest ih =>
    have later := ih fun other member => rests other (List.mem_cons_of_mem _ member)
    rw [total, (rests worker List.mem_cons_self).told]
    cases runs : worker.task.isLive <;> simp [runs] <;> omega

end Worker

namespace Multiplexer

variable {setting : Setting σ} {multiplexer after : Multiplexer definition σ}
  {worker : Worker definition σ} {connection : String} {item : Notification}
  {seen : List Notification}

theorem exists_heard (heard : List Completion) (multiplexer : Multiplexer definition σ) :
    ∃ table, heard.foldl (fun held completion => held.complete completion) multiplexer =
      { multiplexer with
        table
        ledger :=
          { multiplexer.ledger with
            counters :=
              { multiplexer.ledger.counters with
                completed := multiplexer.ledger.counters.completed + heard.length
                active := multiplexer.ledger.counters.active - heard.length } } } := by
  induction heard generalizing multiplexer with
  | nil => exact ⟨multiplexer.table, rfl⟩
  | cons completion rest ih =>
    obtain ⟨table, same⟩ := ih (multiplexer.complete completion)
    refine ⟨table, ?_⟩
    rw [List.foldl_cons, same, complete_eq]
    simp only [Ledger.noteCompletion, List.length_cons, Nat.sub_sub, Nat.add_assoc, Nat.add_comm 1]

/-- How the counters go together with the conversations, the news of their ends and the items that
have been routed. -/
structure Counted (seen : List Notification) (multiplexer : Multiplexer definition σ) :
    Prop where
  started : multiplexer.ledger.counters.started = multiplexer.workers.length
  told : multiplexer.ledger.counters.completed + multiplexer.completions.length =
    Worker.total Task.told multiplexer.workers
  active : multiplexer.ledger.counters.completed + multiplexer.ledger.counters.active =
    multiplexer.ledger.counters.started
  keepAlives : multiplexer.ledger.counters.keepAlives = seen.countP Notification.isKeepAlive
  notifications : multiplexer.ledger.counters.notifications =
    seen.countP fun item => !item.isKeepAlive

namespace Counted

theorem of_same (counted : multiplexer.Counted seen)
    (traffic : after.ledger.traffic = multiplexer.ledger.traffic)
    (length : after.workers.length = multiplexer.workers.length)
    (told : after.completions.length + Worker.total Task.told multiplexer.workers =
      multiplexer.completions.length + Worker.total Task.told after.workers) :
    after.Counted seen := by
  have started := congrArg Counters.started traffic
  have completed := congrArg Counters.completed traffic
  have active := congrArg Counters.active traffic
  have keepAlives := congrArg Counters.keepAlives traffic
  have notifications := congrArg Counters.notifications traffic
  simp only [Ledger.traffic] at started completed active keepAlives notifications
  obtain ⟨one, two, three, four, five⟩ := counted
  constructor <;> omega

theorem news_le (counted : multiplexer.Counted seen) :
    multiplexer.completions.length ≤ multiplexer.ledger.counters.active := by
  have few := Worker.total_told_le multiplexer.workers
  obtain ⟨started, told, active, _, _⟩ := counted
  omega

theorem heard (counted : multiplexer.Counted seen) {heard rest : List Completion}
    (news : multiplexer.completions = heard ++ rest) :
    Counted seen
      { heard.foldl (fun held completion => held.complete completion) multiplexer with
        completions := rest } := by
  have enough := counted.news_le
  obtain ⟨table, same⟩ := exists_heard heard multiplexer
  obtain ⟨started, told, active, keepAlives, notifications⟩ := counted
  rw [news, List.length_append] at enough told
  rw [same]
  refine ⟨started, ?_, ?_, keepAlives, notifications⟩
  · dsimp only
    omega
  · dsimp only
    omega

theorem picked {attempts : Nat} (counted : multiplexer.Counted seen)
    (picked : Picked setting item connection multiplexer attempts after) :
    after.Counted seen := by
  cases picked with
  | exhausted => exact counted.of_same rfl rfl rfl
  | dismissed _ _ => exact counted.of_same rfl rfl rfl
  | found _ => exact counted.of_same rfl rfl rfl
  | started _ _ =>
    obtain ⟨started, told, active, keepAlives, notifications⟩ := counted
    refine ⟨?_, ?_, ?_, keepAlives, notifications⟩
    · simp [spawn, note, Ledger.noteStart, started]
    · simp [spawn, note, Ledger.noteStart, Worker.total_append, Worker.total, Task.told,
        Task.spawn, told]
    · simp only [spawn, note, Ledger.noteStart]
      omega

theorem routed (counted : multiplexer.Counted seen)
    (routes : Routed setting item multiplexer after) : after.Counted (seen ++ [item]) := by
  cases routes with
  | keptAlive silent =>
    obtain ⟨started, told, active, keepAlives, notifications⟩ := counted
    have idle : item.isKeepAlive = true := isKeepAlive_iff.mpr silent
    refine ⟨started, told, active, ?_, ?_⟩
    · simp [note, Ledger.noteKeepAlive, keepAlives, idle]
    · simp [note, Ledger.noteKeepAlive, notifications, idle]
  | @picked connection _ own picked =>
    refine Counted.picked ?_ picked
    obtain ⟨started, told, active, keepAlives, notifications⟩ := counted
    have counts := isKeepAlive_of_connection own
    refine ⟨started, told, active, ?_, ?_⟩
    · simp [note, Ledger.noteNotification, keepAlives, counts]
    · simp [note, Ledger.noteNotification, notifications, counts]

theorem setTask {generation : Nat} (counted : multiplexer.Counted seen)
    (distinct : (multiplexer.workers.map Worker.generation).Nodup)
    (found : multiplexer.worker? generation = some worker) {task : Task definition σ}
    (same : task.told = worker.task.told) :
    (multiplexer.setTask generation task).Counted seen := by
  have total := total_setTask distinct found task Task.told
  refine counted.of_same rfl (by simp [Multiplexer.setTask]) ?_
  have news : (multiplexer.setTask generation task).completions = multiplexer.completions := rfl
  rw [news]
  omega

theorem handedOver {parcel : Parcel} (counted : multiplexer.Counted seen)
    (distinct : (multiplexer.workers.map Worker.generation).Nodup)
    (handed : HandedOver setting parcel multiplexer after) : after.Counted seen := by
  cases handed with
  | nowhere _ => exact counted
  | delivered found delivered =>
    have given := Task.deliver?_delivered delivered
    exact counted.setTask distinct (worker?_of_holder? found) (by rw [Task.told, given.phase]; rfl)
  | refused _ _ picked =>
    refine Counted.picked ?_ picked
    exact counted.of_same rfl rfl rfl

theorem stop (counted : multiplexer.Counted seen) : multiplexer.stop.Counted seen := by
  refine counted.of_same rfl (List.length_map _) ?_
  have kept : Worker.total Task.told multiplexer.stop.workers =
      Worker.total Task.told multiplexer.workers := Worker.total_map _ fun _ => rfl
  rw [kept]
  rfl

variable [Evaluator σ] {move : Move}

theorem step (counted : multiplexer.Counted seen)
    (distinct : (multiplexer.workers.map Worker.generation).Nodup)
    (step : Step setting multiplexer move after) :
    after.Counted (seen ++ multiplexer.taken move) := by
  cases step with
  | @evict completion rest news _ =>
    have news : multiplexer.completions = [completion] ++ rest := news
    have heard := counted.heard news
    have same : ({ multiplexer with completions := rest }.complete completion) =
        { multiplexer.complete completion with completions := rest } := by
      rw [complete_eq, complete_eq]
    simp only [taken, List.append_nil, same]
    exact heard
  | routeInbound items _ routes =>
    simp only [taken, items]
    refine Counted.routed ?_ routes
    exact counted.of_same rfl rfl rfl
  | routeControl items _ routes =>
    simp only [taken, items]
    refine Counted.routed ?_ routes
    exact counted.of_same rfl rfl rfl
  | handOver _ _ _ handed =>
    simp only [taken, List.append_nil]
    have released : Counted seen { multiplexer with held := none } := counted.of_same rfl rfl rfl
    exact released.handedOver distinct handed
  | noticeClosed _ _ _ => simpa only [taken, List.append_nil] using counted.stop
  | noticeCancelled _ _ => simpa only [taken, List.append_nil] using counted.stop
  | finish _ _ =>
    simp only [taken, List.append_nil]
    exact (counted.heard (List.append_nil _).symm).of_same rfl rfl rfl
  | @work generation taskMove worker result found moved =>
    simp only [taken, List.append_nil]
    have total := total_setTask distinct found result.1 Task.told
    have told := moved.told
    refine counted.of_same moved.traffic (by simp [Multiplexer.setTask]) ?_
    by_cases report : taskMove = .report
    · simp only [Multiplexer.setTask, if_pos report, List.length_append,
        List.length_singleton] at total told ⊢
      omega
    · simp only [Multiplexer.setTask, if_neg report, List.append_nil] at total told ⊢
      omega

end Counted

/-- A conversation that has told its end stands in the table only until the news of it is heard. -/
def Current (multiplexer : Multiplexer definition σ) : Prop :=
  ∀ connection, ∀ worker ∈ multiplexer.workers,
    multiplexer.table.get? connection = some worker.generation →
      worker.task.phase = .reported → ⟨connection, worker.generation⟩ ∈ multiplexer.completions

namespace Current

theorem of_same (current : multiplexer.Current) (workers : after.workers = multiplexer.workers)
    (table : after.table = multiplexer.table)
    (completions : after.completions = multiplexer.completions) : after.Current := by
  unfold Current
  rw [workers, table, completions]
  exact current

theorem erase (current : multiplexer.Current) (connection : String) :
    Current { multiplexer with table := multiplexer.table.erase connection } := by
  intro name worker member entry reported
  simp only [TextMap.get?_erase] at entry
  split at entry
  next => cases entry
  next => exact current name worker member entry reported

theorem picked {attempts : Nat} (current : multiplexer.Current) (orderly : multiplexer.Orderly)
    (picked : Picked setting item connection multiplexer attempts after) : after.Current := by
  cases picked with
  | exhausted => exact current.of_same rfl rfl rfl
  | dismissed _ _ => exact current.of_same rfl rfl rfl
  | found _ => exact current.of_same rfl rfl rfl
  | started _ _ =>
    intro name worker member entry reported
    simp only [spawn, note, List.mem_append, List.mem_singleton, TextMap.get?_insert]
      at member entry ⊢
    -- The new conversation has just begun, and no earlier one has its generation.
    rcases member with old | rfl
    · split at entry
      next =>
        have less := orderly.below worker old
        have same := Option.some.inj entry
        omega
      next => exact current name worker old entry reported
    · cases reported

theorem routed (current : multiplexer.Current) (orderly : multiplexer.Orderly)
    (routes : Routed setting item multiplexer after) : after.Current := by
  cases routes with
  | keptAlive _ => exact current.of_same rfl rfl rfl
  | picked _ picked =>
    have noted : Current (multiplexer.note .noteNotification) := current.of_same rfl rfl rfl
    refine noted.picked ?_ picked
    exact orderly.of_same rfl rfl (List.Subset.refl _) rfl

theorem handedOver {parcel : Parcel} (current : multiplexer.Current)
    (orderly : multiplexer.Orderly) (handed : HandedOver setting parcel multiplexer after) :
    after.Current := by
  cases handed with
  | nowhere _ => exact current
  | @delivered worker task found delivered =>
    have given := Task.deliver?_delivered delivered
    intro name other member entry reported
    rcases orderly.mem_setTask (worker?_of_holder? found) member with rfl | old
    · exact current name worker (holder?_some found).1 entry (given.phase.symm.trans reported)
    · exact current name other old entry reported
  | @refused worker _ found refused picked =>
    obtain ⟨member, entry⟩ := holder?_some found
    have gone := Task.isLive_of_deliver?_none (orderly.isOpen worker member) refused
    have left := orderly.erase (orderly.isAlone_of_entry member entry gone)
    exact (current.erase parcel.connection).picked left picked

theorem heard {completion : Completion} {rest : List Completion} (current : multiplexer.Current)
    (news : multiplexer.completions = completion :: rest) :
    Current ({ multiplexer with completions := rest }.complete completion) := by
  intro name worker member entry reported
  rw [complete_eq] at member entry ⊢
  have told (there : multiplexer.table.get? name = some worker.generation)
      (other : (⟨name, worker.generation⟩ : Completion) ≠ completion) :
      ⟨name, worker.generation⟩ ∈ rest :=
    List.mem_of_ne_of_mem other (news ▸ current name worker member there reported)
  simp only at entry
  split at entry
  next here =>
    rw [TextMap.get?_erase] at entry
    split at entry
    next => cases entry
    next apart => exact told entry fun same => apart (congrArg Completion.connection same)
  next elsewhere => exact told entry fun same => elsewhere (by rw [← same]; exact entry)

variable [Evaluator σ] {move : Move}

theorem step (current : multiplexer.Current) (orderly : multiplexer.Orderly)
    (step : Step setting multiplexer move after) (routing : after.stage = .routing) :
    after.Current := by
  cases step with
  | evict news _ => exact current.heard news
  | routeInbound _ _ routes =>
    refine Current.routed ?_ ?_ routes
    · exact current.of_same rfl rfl rfl
    · exact orderly.of_same rfl rfl (List.Subset.refl _) rfl
  | routeControl _ _ routes =>
    refine Current.routed ?_ ?_ routes
    · exact current.of_same rfl rfl rfl
    · exact orderly.of_same rfl rfl (List.Subset.refl _) rfl
  | handOver _ _ _ handed =>
    refine Current.handedOver ?_ ?_ handed
    · exact current.of_same rfl rfl rfl
    · exact orderly.of_same rfl rfl (List.Subset.refl _) rfl
  | noticeClosed _ _ _ => cases routing
  | noticeCancelled _ _ => cases routing
  | finish _ _ => cases routing
  | @work generation taskMove worker result found moved =>
    obtain ⟨member, own⟩ := worker?_some found
    intro name other inside entry reported
    apply List.mem_append.mpr
    rcases orderly.mem_setTask found inside with rfl | old
    · obtain ⟨holder, there, same, here⟩ := orderly.entry name _ entry
      have one := orderly.eq_of_generation there member same
      rw [if_pos (moved.report_of_reported reported), List.mem_singleton, ← here, one, ← own]
      exact .inr rfl
    · exact .inl (current name other old entry reported)

omit [Evaluator σ] in
theorem live_perm (current : multiplexer.Current) (orderly : multiplexer.Orderly)
    (rests : multiplexer.AllRest) (silent : multiplexer.completions = []) :
    ((multiplexer.workers.filter fun worker => worker.task.isLive).map Worker.connection).Perm
      multiplexer.table.keys := by
  have once : multiplexer.table.keys.Nodup :=
    List.pairwise_map.mpr (multiplexer.table.ordered.imp String.ne_of_lt)
  refine (List.perm_ext_iff_of_nodup ?_ once).mpr fun name => ?_
  · refine List.Nodup.map_on ?_ (List.Nodup.of_map _ orderly.distinct |>.filter _)
    intro first left second right same
    obtain ⟨inside, runs⟩ := List.mem_filter.mp left
    obtain ⟨there, goes⟩ := List.mem_filter.mp right
    have entry := orderly.live first inside runs
    rw [same, orderly.live second there goes] at entry
    exact orderly.eq_of_generation inside there (Option.some.inj entry).symm
  · rw [TextMap.mem_keys, TextMap.contains, List.mem_map]
    constructor
    · rintro ⟨worker, member, rfl⟩
      obtain ⟨inside, runs⟩ := List.mem_filter.mp member
      rw [orderly.live worker inside runs]
      rfl
    · intro listed
      obtain ⟨generation, entry⟩ := Option.isSome_iff_exists.mp listed
      obtain ⟨worker, member, rfl, own⟩ := orderly.entry name generation entry
      refine ⟨worker, List.mem_filter.mpr ⟨member, ?_⟩, own⟩
      rcases rests worker member with reported | ⟨listening, _⟩
      · have told := current name worker member entry reported
        rw [silent] at told
        cases told
      · rw [Task.isLive, listening]

end Current

theorem ledger_of_occur? [Evaluator σ] {occurrence : Occurrence}
    (outside : ∀ move, occurrence ≠ .moved move)
    (occurred : multiplexer.occur? setting occurrence = some after) :
    after.ledger = multiplexer.ledger := by
  cases occurrence with
  | moved move => exact absurd rfl (outside move)
  | offered item =>
    simp only [occur?, offer?] at occurred
    split at occurred <;> cases occurred
    rfl
  | hooked data =>
    simp only [occur?, offerHook] at occurred
    split at occurred <;> cases occurred
    rfl
  | closed => cases occurred; rfl
  | cancelled => cases occurred; rfl

theorem Coherent.routing_of_isIdle [Evaluator σ] (coherent : multiplexer.Coherent)
    (idle : multiplexer.isIdle setting = true) {listed : List String}
    (live : multiplexer.live = .ok listed) : multiplexer.stage = .routing := by
  cases stage : multiplexer.stage with
  | routing => rfl
  | stopping =>
    have reported := coherent.reported_of_stuck (by simp [stage])
      fun worker member => stuck_of_isIdle coherent.distinct idle member
    have allReported : multiplexer.allReported = true := by
      simpa [Multiplexer.allReported] using reported
    have stuck := isIdle_iff.mp idle .finish
    simp [advance?, stage, allReported] at stuck
  | stopped => simp [Multiplexer.live, hasStopped, stage] at live

/-- What the router has made of the items so far, and how that goes together with the counters. -/
structure Balanced (seen : List Notification) (multiplexer : Multiplexer definition σ) : Prop where
  coherent : multiplexer.Coherent
  counted : multiplexer.Counted seen
  current : multiplexer.stage = .routing → multiplexer.Current
  heard : multiplexer.stage = .stopped → multiplexer.completions = []

namespace Balanced

theorem initial : Balanced [] (Multiplexer.initial definition σ) where
  coherent := Orderly.initial.coherent rfl
  counted := ⟨rfl, rfl, rfl, rfl, rfl⟩
  current := fun _ _ _ member => by cases member
  heard := nofun

theorem completed (balanced : multiplexer.Balanced seen)
    (stopped : multiplexer.stage = .stopped) :
    multiplexer.ledger.counters.active = 0 ∧
      multiplexer.ledger.counters.completed = multiplexer.ledger.counters.started := by
  have reported := balanced.coherent.reported stopped
  have each := Worker.total_told_of_rests fun worker member => .inl (reported worker member)
  have none : (multiplexer.workers.filter fun worker => worker.task.isLive) = [] :=
    List.filter_eq_nil_iff.mpr fun worker member => by simp [Task.isLive, reported worker member]
  obtain ⟨started, told, active, _, _⟩ := balanced.counted
  rw [balanced.heard stopped] at told
  simp only [none, List.length_nil] at told each
  omega

variable [Evaluator σ]

theorem step {move : Move} (balanced : multiplexer.Balanced seen)
    (step : Step setting multiplexer move after) :
    after.Balanced (seen ++ multiplexer.taken move) where
  coherent := balanced.coherent.step step
  counted := balanced.counted.step balanced.coherent.distinct step
  current := fun routing =>
    have before := step.routing routing
    (balanced.current before).step (balanced.coherent.routing before) step routing
  heard := fun stopped => by
    rcases step.course balanced.coherent with ⟨routing, same⟩ | ⟨_, rfl⟩ | ⟨_, _, rfl⟩ |
      ⟨_, _, _, same⟩
    · rw [same.stage, routing] at stopped
      cases stopped
    · cases stopped
    · rfl
    · have before := same.stage.symm.trans stopped
      have ended : multiplexer.Ended := ⟨before, balanced.coherent.reported before⟩
      exact (ended.not_step step).elim

theorem outside {occurrence : Occurrence} (balanced : multiplexer.Balanced seen)
    (outside : ∀ move, occurrence ≠ .moved move)
    (occurred : multiplexer.occur? setting occurrence = some after) : after.Balanced seen := by
  obtain ⟨workers, table, completions, _, _, stage⟩ := untouched_of_occur? outside occurred
  refine ⟨balanced.coherent.occur occurred, ?_, fun routing => ?_, fun stopped => ?_⟩
  · refine balanced.counted.of_same ?_ (congrArg List.length workers) ?_
    · rw [ledger_of_occur? outside occurred]
    · rw [workers, completions]
  · exact (balanced.current (stage.symm.trans routing)).of_same workers table completions
  · exact completions.trans (balanced.heard (stage.symm.trans stopped))

theorem run {occurrences : List Occurrence}
    (ran : (Multiplexer.initial definition σ).run? setting occurrences = some multiplexer) :
    multiplexer.Balanced (log setting taken occurrences (Multiplexer.initial definition σ)) := by
  refine log_keeps (fun outside occurred balanced => ?_) (fun step balanced => ?_)
    Balanced.initial ran
  · exact balanced.outside outside occurred
  · exact balanced.step step

theorem completions_of_isIdle (balanced : multiplexer.Balanced seen)
    (room : 0 < setting.capacity) (routing : multiplexer.stage = .routing)
    (idle : multiplexer.isIdle setting = true) : multiplexer.completions = [] := by
  have held := held_of_isIdle (balanced.coherent.routing routing) room routing idle
  have ready : multiplexer.isReady = true := by simp [isReady, routing, held]
  have stuck := isIdle_iff.mp idle .evict
  cases news : multiplexer.completions with
  | nil => rfl
  | cons completion rest => simp [advance?, ready, news] at stuck

theorem active_of_isIdle (balanced : multiplexer.Balanced seen) (room : 0 < setting.capacity)
    (routing : multiplexer.stage = .routing) (idle : multiplexer.isIdle setting = true) :
    multiplexer.ledger.counters.active = multiplexer.table.keys.length := by
  have orderly := balanced.coherent.routing routing
  have rests := orderly.allRest_of_isIdle idle
  have silent := balanced.completions_of_isIdle room routing idle
  have listed := ((balanced.current routing).live_perm orderly rests silent).length_eq
  have each := Worker.total_told_of_rests rests
  obtain ⟨started, told, active, _, _⟩ := balanced.counted
  rw [silent] at told
  rw [List.length_map] at listed
  simp only [List.length_nil] at told
  omega

end Balanced

/-- The conversations that have been started are those that have been completed and those that are
active. The equation holds also where the router has heard of some ends and has still to hear of
others, and each end still to be heard of is that of an active conversation. Each item that is
routed is counted once. At rest those are active that are listed, and in the end nobody is. -/
theorem conversations_are_conserved [Evaluator σ] {occurrences : List Occurrence}
    (ran : (initial definition σ).run? setting occurrences = some multiplexer) :
    multiplexer.ledger.counters.started =
        multiplexer.ledger.counters.completed + multiplexer.ledger.counters.active ∧
      (∀ heard rest, multiplexer.completions = heard ++ rest →
        let hearing := heard.foldl (fun held completion => held.complete completion) multiplexer
        hearing.ledger.counters.started =
            hearing.ledger.counters.completed + hearing.ledger.counters.active ∧
          rest.length ≤ hearing.ledger.counters.active) ∧
      multiplexer.ledger.counters.keepAlives + multiplexer.ledger.counters.notifications =
        (log setting taken occurrences (initial definition σ)).length ∧
      (0 < setting.capacity → multiplexer.isIdle setting = true →
        ∀ listed, multiplexer.live = .ok listed →
          multiplexer.ledger.counters.active = listed.length) ∧
      (multiplexer.stage = .stopped →
        multiplexer.ledger.counters.active = 0 ∧
          multiplexer.ledger.counters.completed = multiplexer.ledger.counters.started) := by
  have balanced := Balanced.run ran
  refine ⟨balanced.counted.active.symm, ?_, ?_, ?_, balanced.completed⟩
  · intro heard rest news
    have later := balanced.counted.heard news
    exact ⟨later.active.symm, later.news_le⟩
  · rw [balanced.counted.keepAlives, balanced.counted.notifications,
      List.length_eq_countP_add_countP Notification.isKeepAlive]
    simp
  · intro room idle listed live
    have routing := balanced.coherent.routing_of_isIdle idle live
    rw [balanced.active_of_isIdle room routing idle]
    simp only [Multiplexer.live, hasStopped, routing] at live
    cases live
    rfl

/-- One conversation ends of itself and another one as the stream closes, and the router has heard
of neither. -/
def farewell : List Occurrence :=
  [.offered .keepAlive, .moved .routeInbound, .offered (heard "bye"), .moved .routeInbound,
    .moved .handOver, .moved (.work 0 .begin), .moved (.work 0 .takeNotification),
    .moved (.work 0 .handle), .moved (.work 0 .report),
    .offered (.status (.message "b" "p" "hello")), .moved .routeInbound, .moved .handOver,
    .moved (.work 1 .begin), .moved (.work 1 .takeNotification), .moved (.work 1 .handle), .closed,
    .moved .noticeClosed, .moved (.work 1 .noticeClosed), .moved (.work 1 .report)]

/-- Both are active then, and a moment later nobody is. -/
theorem farewell_conserved :
    (∃ multiplexer : Multiplexer .echo Lua.State,
      (initial .echo Lua.State).run? spacious farewell = some multiplexer ∧
        multiplexer.completions = [⟨"a", 0⟩, ⟨"b", 1⟩] ∧
        multiplexer.ledger.counters.active = 2 ∧ multiplexer.ledger.counters.notifications = 2 ∧
        multiplexer.ledger.counters.keepAlives = 1 ∧
        (multiplexer.complete ⟨"a", 0⟩).ledger.counters.started =
          (multiplexer.complete ⟨"a", 0⟩).ledger.counters.completed +
            (multiplexer.complete ⟨"a", 0⟩).ledger.counters.active) ∧
      ∃ multiplexer : Multiplexer .echo Lua.State,
        (initial .echo Lua.State).run? spacious (farewell ++ [.moved .finish]) =
            some multiplexer ∧
          multiplexer.stage = .stopped ∧ multiplexer.ledger.counters.started = 2 ∧
          multiplexer.ledger.counters.active = 0 ∧
          multiplexer.ledger.counters.completed = multiplexer.ledger.counters.started := by
  constructor
  · have seen : (((initial .echo Lua.State).run? spacious farewell).any fun multiplexer =>
        multiplexer.completions = [⟨"a", 0⟩, ⟨"b", 1⟩] &&
          multiplexer.ledger.counters.active = 2 &&
          multiplexer.ledger.counters.notifications = 2 &&
          multiplexer.ledger.counters.keepAlives = 1) = true := by
      decide +kernel
    obtain ⟨multiplexer, ran, same⟩ := (Option.any_eq_true _ _).mp seen
    simp only [Bool.and_eq_true, decide_eq_true_eq] at same
    obtain ⟨⟨⟨news, active⟩, notifications⟩, keepAlives⟩ := same
    obtain ⟨_, hearing, _⟩ := conversations_are_conserved ran
    exact ⟨multiplexer, ran, news, active, notifications, keepAlives,
      (hearing [⟨"a", 0⟩] [⟨"b", 1⟩] news).1⟩
  · have seen : (((initial .echo Lua.State).run? spacious (farewell ++ [.moved .finish])).any
        fun multiplexer =>
          multiplexer.stage = .stopped && multiplexer.ledger.counters.started = 2) = true := by
      decide +kernel
    obtain ⟨multiplexer, ran, same⟩ := (Option.any_eq_true _ _).mp seen
    simp only [Bool.and_eq_true, decide_eq_true_eq] at same
    obtain ⟨_, _, _, _, ended⟩ := conversations_are_conserved ran
    exact ⟨multiplexer, ran, same.1, same.2, ended same.1⟩

end Multiplexer
end Parley
