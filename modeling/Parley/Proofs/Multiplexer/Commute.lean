import Parley.Proofs.Multiplexer.Calm
/-!
Moves that can be made in either order.

Where a calm multiplexer can make two moves, one of them is that of a conversation, since the router
has one thing to do at a time. Whatever is done first, the other can still be done, and both ways
end in the same place. Only the attempts of different conversations stand in another order then.
-/

namespace Parley

variable {definition : Definition} {σ : Type}

namespace Ledger

variable {here there : Ledger}

/-- The same counters, and the same attempts under each name in the same order. -/
structure Shuffled (here there : Ledger) : Prop where
  counters : there.counters = here.counters
  attempts : ∀ name, (there.attempts.filter fun attempt => attempt.connection = name) =
    here.attempts.filter fun attempt => attempt.connection = name

namespace Shuffled

theorem refl (ledger : Ledger) : Shuffled ledger ledger := ⟨rfl, fun _ => rfl⟩

theorem symm (shuffled : Shuffled here there) : Shuffled there here :=
  ⟨shuffled.counters.symm, fun name => (shuffled.attempts name).symm⟩

theorem trans {last : Ledger} (first : Shuffled here there) (second : Shuffled there last) :
    Shuffled here last :=
  ⟨second.counters.trans first.counters,
    fun name => (second.attempts name).trans (first.attempts name)⟩

theorem atop (shuffled : Shuffled here there) (fresh : Ledger) :
    Shuffled (fresh.atop here) (fresh.atop there) where
  counters := congrArg fresh.counters.add shuffled.counters
  attempts := fun name => by
    simp only [Ledger.atop, List.filter_append, shuffled.attempts]

end Shuffled

theorem IsOf.filter_of_ne {name other : String} {ledger : Ledger} (isOf : ledger.IsOf name)
    (apart : name ≠ other) :
    (ledger.attempts.filter fun attempt => attempt.connection = other) = [] :=
  List.filter_eq_nil_iff.mpr fun attempt member => by simp [isOf attempt member, apart]

theorem shuffled_atop_atop {name other : String} {first second : Ledger} (left : first.IsOf name)
    (right : second.IsOf other) (apart : name ≠ other) (base : Ledger) :
    Shuffled (first.atop (second.atop base)) (second.atop (first.atop base)) where
  counters := Counters.add_left_comm _ _ _
  attempts := fun any => by
    simp only [atop, List.filter_append]
    by_cases own : name = any
    · rw [right.filter_of_ne fun same => apart (own.trans same.symm), List.nil_append,
        List.nil_append]
    · rw [left.filter_of_ne own, List.nil_append, List.nil_append]

end Ledger

namespace Multiplexer

variable {setting : Setting σ} {multiplexer after here there : Multiplexer definition σ}
  {worker : Worker definition σ} {generation : Nat} {item : Notification}

structure Shuffled (here there : Multiplexer definition σ) : Prop where
  ledger : here.ledger.Shuffled there.ledger
  same : there = { here with ledger := there.ledger }

namespace Shuffled

theorem refl (multiplexer : Multiplexer definition σ) : Shuffled multiplexer multiplexer :=
  ⟨.refl _, rfl⟩

theorem of_eq (same : here = there) : Shuffled here there := same ▸ refl here

theorem symm (shuffled : Shuffled here there) : Shuffled there here :=
  ⟨shuffled.ledger.symm, by rw [shuffled.same]⟩

theorem trans {last : Multiplexer definition σ} (first : Shuffled here there)
    (second : Shuffled there last) : Shuffled here last :=
  ⟨first.ledger.trans second.ledger, by rw [second.same, first.same]⟩

end Shuffled

def working (generation : Nat) (task : Task definition σ) (fresh : Ledger)
    (multiplexer : Multiplexer definition σ) : Multiplexer definition σ :=
  { multiplexer.setTask generation task with ledger := fresh.atop multiplexer.ledger }

theorem setTask_comm {first second : Nat} (apart : first ≠ second)
    (multiplexer : Multiplexer definition σ) (one other : Task definition σ) :
    (multiplexer.setTask first one).setTask second other =
      (multiplexer.setTask second other).setTask first one := by
  simp only [setTask, List.map_map]
  congr 1
  refine List.map_congr_left fun worker _ => ?_
  simp only [Function.comp]
  by_cases here : worker.generation = first
  · have there : worker.generation ≠ second := fun same => apart (here.symm.trans same)
    simp only [if_pos here, if_neg there]
  · by_cases there : worker.generation = second
    · simp only [if_neg here, if_pos there]
    · simp only [if_neg here, if_neg there]

theorem setTask_setTask (multiplexer : Multiplexer definition σ) (generation : Nat)
    (first last : Task definition σ) :
    (multiplexer.setTask generation first).setTask generation last =
      multiplexer.setTask generation last := by
  simp only [setTask, List.map_map]
  congr 1
  refine List.map_congr_left fun worker _ => ?_
  simp only [Function.comp]
  by_cases here : worker.generation = generation
  · simp only [if_pos here]
  · simp only [if_neg here]

section

variable {task : Task definition σ}

theorem Orderly.spawn_working (orderly : multiplexer.Orderly)
    (found : multiplexer.worker? generation = some worker)
    (kept : task.conversation.connection = worker.connection) (setting : Setting σ)
    (connection : String) (fresh : Ledger) :
    (multiplexer.working generation task fresh).spawn setting connection =
      (multiplexer.spawn setting connection).working generation task fresh := by
  have started : (multiplexer.setTask generation task).startedWith connection =
      multiplexer.startedWith connection := by
    rw [startedWith_eq, startedWith_eq, orderly.own_setTask found kept, List.length_map]
  have older : multiplexer.nextGeneration ≠ generation := by
    obtain ⟨member, own⟩ := worker?_some found
    exact fun same => Nat.lt_irrefl _ (own.trans same.symm ▸ orderly.below worker member)
  have same : (multiplexer.working generation task fresh).startedWith connection =
      multiplexer.startedWith connection := started
  rw [Multiplexer.spawn, same]
  simp only [working, Multiplexer.spawn, note, Multiplexer.setTask, List.map_append,
    List.map_cons, List.map_nil, if_neg older]
  rfl

theorem Orderly.pick_working (orderly : multiplexer.Orderly)
    (found : multiplexer.worker? generation = some worker)
    (kept : task.conversation.connection = worker.connection) (setting : Setting σ)
    (item : Notification) (connection : String) (fresh : Ledger) (attempts : Nat) :
    (multiplexer.working generation task fresh).pick setting item connection attempts =
      (multiplexer.pick setting item connection attempts).working generation task fresh := by
  have spawned := orderly.spawn_working found kept setting connection fresh
  have table : (multiplexer.working generation task fresh).table = multiplexer.table := rfl
  cases attempts with
  | zero => rfl
  | succ attempts =>
    simp only [pick, ensure?, table, spawned]
    cases multiplexer.table.contains connection with
    | true => rfl
    | false => cases item.startsConversation <;> rfl

/-- The router does the same whether or not a conversation has gone on meanwhile. -/
theorem Orderly.route_working (orderly : multiplexer.Orderly)
    (found : multiplexer.worker? generation = some worker)
    (kept : task.conversation.connection = worker.connection) (setting : Setting σ)
    (item : Notification) (fresh : Ledger) :
    (multiplexer.working generation task fresh).route setting item =
      (multiplexer.route setting item).working generation task fresh := by
  unfold route
  cases item.connection? with
  | none => rfl
  | some connection =>
    have noted : (multiplexer.note .noteNotification).Orderly :=
      orderly.of_same rfl rfl (List.Subset.refl _) rfl
    exact noted.pick_working found kept setting item connection fresh attemptLimit

end

theorem route_written (multiplexer : Multiplexer definition σ) (setting : Setting σ)
    (item : Notification) :
    ∃ fresh : Ledger, ∀ base : Ledger,
      ({ multiplexer with ledger := base } : Multiplexer definition σ).route setting item =
        { multiplexer.route setting item with ledger := fresh.atop base } := by
  unfold route
  cases item.connection? with
  | none =>
    refine ⟨Ledger.empty.noteKeepAlive, fun base => ?_⟩
    simp [note, Ledger.atop, Ledger.noteKeepAlive, Ledger.empty, Counters.add, Counters.zero,
      Nat.add_comm]
  | some connection =>
    simp only [pick, attemptLimit, ensure?, note]
    by_cases here : multiplexer.table.contains connection = true
    · refine ⟨Ledger.empty.noteNotification, fun base => ?_⟩
      simp [here, Ledger.atop, Ledger.noteNotification, Ledger.empty, Counters.add, Counters.zero,
        Nat.add_comm]
    · by_cases starts : item.startsConversation = true
      · refine ⟨Ledger.empty.noteNotification.noteStart, fun base => ?_⟩
        simp [here, starts, spawn, startedWith, note, Ledger.atop, Ledger.noteNotification,
          Ledger.noteStart, Ledger.empty, Counters.add, Counters.zero, Nat.add_comm]
      · refine ⟨Ledger.empty.noteNotification.noteUnmatched, fun base => ?_⟩
        simp [here, starts, Ledger.atop, Ledger.noteNotification, Ledger.noteUnmatched,
          Ledger.empty, Counters.add, Counters.zero, Nat.add_comm]

def expecting (items : List Notification) (multiplexer : Multiplexer definition σ) :
    Multiplexer definition σ :=
  { multiplexer with
    inbound := { multiplexer.inbound with items := multiplexer.inbound.items ++ items } }

theorem route_expecting (multiplexer : Multiplexer definition σ) (setting : Setting σ)
    (item : Notification) (items : List Notification) :
    (multiplexer.expecting items).route setting item =
      (multiplexer.route setting item).expecting items := by
  unfold route
  cases item.connection? with
  | none => rfl
  | some connection =>
    simp only [pick, attemptLimit, ensure?, note, expecting]
    by_cases here : multiplexer.table.contains connection = true
    · simp only [here, if_true]
    · by_cases starts : item.startsConversation = true
      · simp [here, starts, spawn, startedWith, note]
      · simp [here, starts]

theorem expecting_nil (multiplexer : Multiplexer definition σ) :
    multiplexer.expecting [] = multiplexer := by
  rw [expecting, List.append_nil]

theorem expecting_cons (item : Notification) (items : List Notification)
    (multiplexer : Multiplexer definition σ) :
    multiplexer.expecting (item :: items) = (multiplexer.expecting [item]).expecting items := by
  simp only [expecting, List.append_assoc, List.singleton_append]

theorem Serving.expecting (serving : multiplexer.Serving) (items : List Notification) :
    (multiplexer.expecting items).Serving :=
  ⟨serving.orderly.of_same rfl rfl (List.Subset.refl _) rfl, serving.routing,
    serving.uncancelled, serving.isOpen⟩

theorem Calm.expecting (calm : multiplexer.Calm) {items : List Notification}
    (plain : ∀ item ∈ items, item.isHook = false) : (multiplexer.expecting items).Calm :=
  ⟨calm.serving.expecting items, calm.control, calm.completions,
    fun item member => (List.mem_append.mp member).elim (calm.inbound item) (plain item),
    calm.held, calm.tasks, calm.entry⟩

theorem Calm.of_expecting {items : List Notification} (calm : (multiplexer.expecting items).Calm) :
    multiplexer.Calm :=
  ⟨⟨calm.serving.orderly.of_same rfl rfl (List.Subset.refl _) rfl, calm.serving.routing,
    calm.serving.uncancelled, calm.serving.isOpen⟩, calm.control, calm.completions,
    fun item member => calm.inbound item (List.mem_append_left _ member), calm.held, calm.tasks,
    calm.entry⟩

theorem Flows.expecting [Evaluator σ] {move : Move}
    (flows : Flows setting multiplexer move after) (items : List Notification) :
    Flows setting (multiplexer.expecting items) move (after.expecting items) := by
  cases flows with
  | @routed item rest waiting free =>
    have longer : (multiplexer.expecting items).inbound.items = item :: (rest ++ items) := by
      rw [Multiplexer.expecting, waiting, List.cons_append]
    rw [← route_expecting]
    exact .routed longer free
  | handed held found live room => exact .handed held found live room
  | worked found live moved => exact .worked found live moved

/-- A conversation makes its move after another move as well. If it does not end by it, then the
other move may also come second, and both ways lead to the same. -/
def Beside [Evaluator σ] (setting : Setting σ) (move : Move) (generation : Nat)
    (taskMove : Task.Move) (result : Task definition σ × Ledger)
    (moved worked : Multiplexer definition σ) : Prop :=
  ∃ both, Flows setting moved (.work generation taskMove) both ∧
    (∃ worker ∈ both.workers, worker.task.phase = result.1.phase) ∧
    (result.1.isLive = true → ∃ other, Flows setting worked move other ∧ both.Shuffled other)

variable [Evaluator σ] {refuses : Call → Option ClientError} {move : Move} {taskMove : Task.Move}
  {result : Task definition σ × Ledger}

theorem Beside.of_step {moved worked : Multiplexer definition σ}
    {outcome : Task definition σ × Ledger} (still : moved.worker? generation = some worker)
    (live : worker.task.isLive = true)
    (step : worker.task.Step setting.client false moved.ledger taskMove outcome)
    (phase : outcome.1.phase = result.1.phase)
    (meets : result.1.isLive = true → ∃ other, Flows setting worked move other ∧
      Shuffled { moved.setTask generation outcome.1 with ledger := outcome.2 } other) :
    Beside setting move generation taskMove result moved worked :=
  ⟨_, .worked still live step,
    ⟨_, (worker?_some (worker?_setTask_self still outcome.1)).1, phase⟩, meets⟩

namespace Calm

theorem routed_beside {rest : List Notification} (calm : multiplexer.Calm)
    (client : setting.client = .deciding refuses)
    (items : multiplexer.inbound.items = item :: rest) (free : multiplexer.held = none)
    (found : multiplexer.worker? generation = some worker) (live : worker.task.isLive = true)
    (moved : worker.task.Step setting.client false multiplexer.ledger taskMove result) :
    Beside setting .routeInbound generation taskMove result
      ({ multiplexer with inbound := { multiplexer.inbound with items := rest } }.route setting
        item)
      { multiplexer.setTask generation result.1 with ledger := result.2 } := by
  have kept := moved.connection
  have orderly : Orderly
      { multiplexer with inbound := { multiplexer.inbound with items := rest } } :=
    calm.serving.orderly.of_same rfl rfl (List.Subset.refl _) rfl
  have routes := orderly.route_working found kept setting item
  have routed := route_routed setting item
    { multiplexer with inbound := { multiplexer.inbound with items := rest } }
  generalize Multiplexer.route setting item
    { multiplexer with inbound := { multiplexer.inbound with items := rest } } = next
    at routes routed ⊢
  obtain ⟨more, workers, _⟩ := routed.workers
  have still : next.worker? generation = some worker := by
    rw [Multiplexer.worker?] at found ⊢
    rw [workers, List.find?_append, found]
    rfl
  rw [client] at moved
  obtain ⟨fresh, _, same, made⟩ := moved.written
  have step := made next.ledger
  rw [← client] at step
  refine .of_step still live step rfl fun _ => ⟨_, .routed items free, ?_⟩
  rw [same]
  exact .of_eq (routes fresh).symm

theorem handed_beside {parcel : Parcel} {holder : Worker definition σ} (calm : multiplexer.Calm)
    (client : setting.client = .deciding refuses) (held : multiplexer.held = some parcel)
    (holds : multiplexer.holder? parcel.connection = some holder)
    (takes : holder.task.isLive = true)
    (room : holder.task.notifications.items.length < setting.capacity)
    (found : multiplexer.worker? generation = some worker) (live : worker.task.isLive = true)
    (moved : worker.task.Step setting.client false multiplexer.ledger taskMove result) :
    Beside setting .handOver generation taskMove result
      ({ multiplexer with held := none }.setTask holder.generation
        (holder.task.pushed parcel.item))
      { multiplexer.setTask generation result.1 with ledger := result.2 } := by
  have entry := (holder?_some holds).2
  have opened := (calm.serving.orderly.isOpen worker (worker?_some found).1).1
  have fewer := moved.waiting_le
  rw [client] at moved
  obtain ⟨fresh, _, same, made⟩ := moved.written
  have step := made multiplexer.ledger
  rw [← client] at step
  let released : Multiplexer definition σ :=
    { multiplexer with held := none, ledger := fresh.atop multiplexer.ledger }
  have holderOf (later : Multiplexer definition σ) (table : later.table = multiplexer.table) :
      later.holder? parcel.connection = later.worker? holder.generation := by
    rw [Multiplexer.holder?, table, entry]
    rfl
  by_cases own : holder.generation = generation
  · -- The item comes to the conversation that moves, behind everything that it takes.
    subst own
    cases found.symm.trans (worker?_of_holder? holds)
    have still : ({ multiplexer with held := none }.setTask worker.generation
        (worker.task.pushed parcel.item)).worker? worker.generation = _ :=
      worker?_setTask_self found _
    refine .of_step still live (step.pushed opened parcel.item) rfl fun lives => ?_
    have there := holderOf
      { multiplexer.setTask worker.generation result.1 with ledger := result.2 } rfl
    refine ⟨_, .handed held (there.trans (worker?_setTask_self found result.1)) lives
      (Nat.lt_of_le_of_lt fewer room), ?_⟩
    rw [same]
    have replaced := setTask_setTask released worker.generation (worker.task.pushed parcel.item)
      (result.1.pushed parcel.item)
    exact .of_eq (replaced.trans (setTask_setTask released worker.generation result.1 _).symm)
  · have still : ({ multiplexer with held := none }.setTask holder.generation
        (holder.task.pushed parcel.item)).worker? generation = some worker :=
      (worker?_setTask_of_ne (Ne.symm own) _).trans found
    refine .of_step still live step rfl fun _ => ?_
    have there := holderOf
      { multiplexer.setTask generation result.1 with ledger := result.2 } rfl
    have stays := (worker?_setTask_of_ne own result.1).trans (worker?_of_holder? holds)
    refine ⟨_, .handed held (there.trans stays) takes room, ?_⟩
    rw [same]
    exact .of_eq (setTask_comm own released (holder.task.pushed parcel.item) result.1)

theorem worked_beside {other : Nat} {otherMove : Task.Move} {peer : Worker definition σ}
    {outcome : Task definition σ × Ledger} (calm : multiplexer.Calm)
    (client : setting.client = .deciding refuses) (apart : other ≠ generation)
    (there : multiplexer.worker? other = some peer) (lives : peer.task.isLive = true)
    (went : peer.task.Step setting.client false multiplexer.ledger otherMove outcome)
    (found : multiplexer.worker? generation = some worker) (live : worker.task.isLive = true)
    (moved : worker.task.Step setting.client false multiplexer.ledger taskMove result) :
    Beside setting (.work other otherMove) generation taskMove result
      { multiplexer.setTask other outcome.1 with ledger := outcome.2 }
      { multiplexer.setTask generation result.1 with ledger := result.2 } := by
  have names : worker.connection ≠ peer.connection := by
    intro same
    obtain ⟨member, own⟩ := worker?_some found
    obtain ⟨inside, known⟩ := worker?_some there
    have entry := calm.serving.orderly.live worker member live
    rw [same, calm.serving.orderly.live peer inside lives] at entry
    exact apart (known.symm.trans ((Option.some.inj entry).trans own))
  rw [client] at moved went
  obtain ⟨fresh, isOf, same, made⟩ := moved.written
  obtain ⟨news, belongs, alike, did⟩ := went.written
  have still : (multiplexer.setTask other outcome.1).worker? generation = some worker :=
    (worker?_setTask_of_ne apart.symm _).trans found
  have stays : (multiplexer.setTask generation result.1).worker? other = some peer :=
    (worker?_setTask_of_ne apart _).trans there
  have step := made outcome.2
  rw [← client] at step
  refine .of_step still live step rfl fun _ =>
    ⟨_, .worked stays lives (client ▸ did result.2), ?_, ?_⟩
  · rw [alike, same]
    exact Ledger.shuffled_atop_atop isOf belongs names multiplexer.ledger
  · have swapped := setTask_comm apart multiplexer outcome.1 result.1
    exact congrArg (fun state : Multiplexer definition σ =>
      { state with ledger := news.atop result.2 }) swapped.symm

theorem beside (calm : multiplexer.Calm) (client : setting.client = .deciding refuses)
    (flows : Flows setting multiplexer move after) (apart : move ≠ .work generation taskMove)
    (found : multiplexer.worker? generation = some worker) (live : worker.task.isLive = true)
    (moved : worker.task.Step setting.client false multiplexer.ledger taskMove result) :
    Beside setting move generation taskMove result after
      { multiplexer.setTask generation result.1 with ledger := result.2 } := by
  cases flows with
  | routed items free => exact calm.routed_beside client items free found live moved
  | handed held holds takes room =>
    exact calm.handed_beside client held holds takes room found live moved
  | @worked other otherMove peer outcome there lives went =>
    by_cases own : other = generation
    · -- One conversation has one move only.
      subst own
      cases found.symm.trans there
      have member := (worker?_some found).1
      have opened := (calm.serving.orderly.isOpen worker member).1
      have hooks : worker.task.hooks.items = [] := calm.hooks member live
      exact absurd (congrArg _ ((went.eq_due opened hooks).trans (moved.eq_due opened hooks).symm))
        apart
    · exact calm.worked_beside client own there lives went found live moved

omit [Evaluator σ] in
theorem isLive_of_phase {later : Worker definition σ} {task : Task definition σ}
    (calm : multiplexer.Calm) (member : later ∈ multiplexer.workers)
    (phase : later.task.phase = task.phase) (untold : task.phase ≠ .reported) :
    task.isLive = true := by
  rcases calm.tasks later member with reported | ⟨lives, _⟩
  · exact absurd (phase.symm.trans reported) untold
  · rw [Task.isLive] at lives ⊢
    rw [← phase]
    exact lives

variable {other : Move} {first second : Multiplexer definition σ}

theorem router_diamond (calm : multiplexer.Calm) (client : setting.client = .deciding refuses)
    (one : Flows setting multiplexer move first) (two : Flows setting multiplexer other second)
    (apart : move ≠ other) (router : ∀ generation taskMove, other ≠ .work generation taskMove)
    (left : first.Calm) :
    ∃ both, Flows setting first other both ∧
      ∃ last, Flows setting second move last ∧ both.Shuffled last := by
  cases one with
  | @worked generation taskMove worker result found live moved =>
    obtain ⟨last, follows, _, meets⟩ := calm.beside client two (router _ _) found live moved
    have changed := (worker?_some (worker?_setTask_self found result.1)).1
    have lives := left.isLive_of_phase changed rfl fun told =>
      moved.ne_report live (moved.report_of_reported told)
    obtain ⟨both, also, same⟩ := meets lives
    exact ⟨both, also, last, follows, same.symm⟩
  | routed _ free =>
    cases two with
    | routed _ _ => exact absurd rfl apart
    | handed held _ _ _ => rw [free] at held; cases held
    | worked _ _ _ => exact absurd rfl (router _ _)
  | handed held _ _ _ =>
    cases two with
    | routed _ free => rw [free] at held; cases held
    | handed _ _ _ _ => exact absurd rfl apart
    | worked _ _ _ => exact absurd rfl (router _ _)

/-- Of two different moves each is still possible after the other one, and they may be made in
either order, provided that no conversation ends. It is enough to know that of one order. -/
theorem diamond (calm : multiplexer.Calm) (client : setting.client = .deciding refuses)
    (one : Flows setting multiplexer move first) (two : Flows setting multiplexer other second)
    (apart : move ≠ other) (left : first.Calm) :
    ∃ both, Flows setting first other both ∧
      (both.Calm → second.Calm ∧ ∃ last, Flows setting second move last ∧ both.Shuffled last) := by
  cases two with
  | @worked generation taskMove worker result found live moved =>
    obtain ⟨both, follows, ⟨later, member, phase⟩, meets⟩ :=
      calm.beside client one apart found live moved
    refine ⟨both, follows, fun still => ?_⟩
    have lives := still.isLive_of_phase member phase fun told =>
      moved.ne_report live (moved.report_of_reported told)
    exact ⟨calm.worked found live moved lives, meets lives⟩
  | routed items free =>
    obtain ⟨both, follows, meets⟩ :=
      calm.router_diamond client one (.routed items free) apart nofun left
    exact ⟨both, follows, fun _ => ⟨calm.routed items free, meets⟩⟩
  | handed held found live room =>
    obtain ⟨both, follows, meets⟩ :=
      calm.router_diamond client one (.handed held found live room) apart nofun left
    exact ⟨both, follows, fun _ => ⟨calm.handed held found live room, meets⟩⟩

end Calm

namespace Shuffled

omit [Evaluator σ] in
theorem calm (shuffled : Shuffled here there) (calm : here.Calm) : there.Calm := by
  rw [shuffled.same]
  exact ⟨⟨calm.serving.orderly.of_same rfl rfl (List.Subset.refl _) rfl, calm.serving.routing,
    calm.serving.uncancelled, calm.serving.isOpen⟩, calm.control, calm.completions, calm.inbound,
    calm.held, calm.tasks, calm.entry⟩

omit [Evaluator σ] in
theorem quiet (shuffled : Shuffled here there) (quiet : here.Quiet) : there.Quiet := by
  rw [shuffled.same]
  exact ⟨⟨quiet.serving.orderly.of_same rfl rfl (List.Subset.refl _) rfl, quiet.serving.routing,
    quiet.serving.uncancelled, quiet.serving.isOpen⟩, quiet.rests, quiet.inbound, quiet.control,
    quiet.held, quiet.completions⟩

theorem flows (shuffled : Shuffled here there) (client : setting.client = .deciding refuses)
    (flows : Flows setting here move after) :
    ∃ later, Flows setting there move later ∧ after.Shuffled later := by
  obtain ⟨ledger, same⟩ := shuffled
  generalize there.ledger = base at ledger same
  subst same
  cases flows with
  | @routed item rest items free =>
    let taken : Multiplexer definition σ :=
      { here with inbound := { here.inbound with items := rest } }
    obtain ⟨fresh, written⟩ := taken.route_written setting item
    have wrote : (taken.route setting item).ledger = fresh.atop here.ledger :=
      congrArg Multiplexer.ledger (written here.ledger)
    have moves : Flows setting { here with ledger := base } .routeInbound
        { taken.route setting item with ledger := fresh.atop base } := by
      rw [← written base]
      exact .routed items free
    exact ⟨_, moves, wrote ▸ ledger.atop fresh, rfl⟩
  | handed held found live room => exact ⟨_, .handed held found live room, ledger, rfl⟩
  | @worked generation taskMove worker result found live moved =>
    rw [client] at moved
    obtain ⟨fresh, _, same, made⟩ := moved.written
    have did : worker.task.Step setting.client false base taskMove (result.1, fresh.atop base) :=
      client ▸ made base
    refine ⟨_, .worked found live did, ?_, rfl⟩
    rw [same]
    exact ledger.atop fresh

end Shuffled

end Multiplexer
end Parley
