import Parley.Proofs.Multiplexer.Idle
/-!
`Multiplexer.settle` comes to rest.

It makes moves and nothing else. Once all conversations rest, a round takes something off what the
router has at hand, and a round with nothing at hand ends at rest; so the rounds that are allowed
are enough.
-/

namespace Parley.Multiplexer

variable {definition : Definition} {σ : Type} {setting : Setting σ}
  {multiplexer after : Multiplexer definition σ} {generation : Nat} {worker : Worker definition σ}

/-- The number of times that the router can still take an item in hand or hand it over. -/
def routable (multiplexer : Multiplexer definition σ) : Nat :=
  (attemptLimit + 1) * (multiplexer.inbound.items.length + multiplexer.control.length) +
    multiplexer.held.elim 0 fun parcel => parcel.attempts + 1

def backlog (multiplexer : Multiplexer definition σ) : Nat :=
  multiplexer.routable + multiplexer.completions.length

def Tried (multiplexer : Multiplexer definition σ) : Prop :=
  ∀ parcel, multiplexer.held = some parcel → parcel.attempts < attemptLimit

theorem Tried.backlog_le (tried : multiplexer.Tried) :
    multiplexer.backlog + 2 ≤ multiplexer.routerWork := by
  unfold backlog routable routerWork
  cases held : multiplexer.held with
  | none => simp [attemptLimit]
  | some parcel =>
    have few := tried parcel held
    simp only [attemptLimit, Option.elim_some, Option.toList_some, List.length_singleton] at few ⊢
    omega

theorem worker?_setTask (multiplexer : Multiplexer definition σ) (changed generation : Nat)
    (task : Task definition σ) :
    (multiplexer.setTask changed task).worker? generation =
      (multiplexer.worker? generation).map fun worker =>
        if worker.generation = changed then { worker with task } else worker := by
  simp only [worker?, setTask, List.find?_map]
  congr 2
  funext worker
  simp only [Function.comp]
  split <;> rfl

theorem worker?_setTask_self (found : multiplexer.worker? generation = some worker)
    (task : Task definition σ) :
    (multiplexer.setTask generation task).worker? generation = some { worker with task } := by
  rw [worker?_setTask, found, Option.map_some, if_pos (worker?_some found).2]

theorem worker?_setTask_of_ne {other : Nat} (apart : other ≠ generation)
    (task : Task definition σ) :
    (multiplexer.setTask generation task).worker? other = multiplexer.worker? other := by
  rw [worker?_setTask]
  cases found : multiplexer.worker? other with
  | none => rfl
  | some worker => rw [Option.map_some, if_neg ((worker?_some found).2 ▸ apart)]

theorem generations_setTask (multiplexer : Multiplexer definition σ) (changed : Nat)
    (task : Task definition σ) :
    (multiplexer.setTask changed task).workers.map Worker.generation =
      multiplexer.workers.map Worker.generation := by
  rw [setTask, List.map_map]
  apply List.map_congr_left
  intro worker _
  simp only [Function.comp]
  split <;> rfl

def Lessens (before after : Multiplexer definition σ) : Prop :=
  after.routable < before.routable ∨
    after.routable = before.routable ∧ after.workers = before.workers

theorem Lessens.le (lessens : Lessens multiplexer after) :
    after.routable ≤ multiplexer.routable :=
  lessens.elim Nat.le_of_lt fun same => Nat.le_of_eq same.1

theorem Lessens.trans {middle : Multiplexer definition σ} (earlier : Lessens multiplexer middle)
    (later : Lessens middle after) : Lessens multiplexer after := by
  rcases earlier with less | ⟨same, workers⟩
  · exact .inl (Nat.lt_of_le_of_lt later.le less)
  · rw [Lessens, ← same, ← workers]
    exact later

structure Routes (before after : Multiplexer definition σ) : Prop where
  tried : after.Tried
  backlog : after.backlog < before.backlog
  lessens : Lessens before after

theorem Picked.routable_le {item : Notification} {connection : String} {attempts : Nat}
    (free : multiplexer.held = none) (few : attempts ≤ attemptLimit)
    (picked : Picked setting item connection multiplexer attempts after) :
    after.Tried ∧ after.routable ≤ multiplexer.routable + attempts ∧
      after.completions = multiplexer.completions := by
  cases picked with
  | exhausted => exact ⟨by simp [Tried, note, free], Nat.le_refl _, rfl⟩
  | dismissed _ _ => exact ⟨by simp [Tried, note, free], Nat.le_add_right _ _, rfl⟩
  | found _ | started _ _ =>
    refine ⟨fun parcel held => ?_, ?_, rfl⟩
    · cases held
      exact few
    · simp only [routable, spawn, note, free, Option.elim_none, Option.elim_some]
      omega

theorem Routed.routable_le {item : Notification} (free : multiplexer.held = none)
    (routed : Routed setting item multiplexer after) :
    after.Tried ∧ after.routable ≤ multiplexer.routable + attemptLimit ∧
      after.completions = multiplexer.completions := by
  cases routed with
  | keptAlive _ => exact ⟨by simp [Tried, note, free], Nat.le_add_right _ _, rfl⟩
  | picked _ picked =>
    obtain ⟨tried, bound, same⟩ := picked.routable_le (by exact free) (Nat.le_refl _)
    exact ⟨tried, bound, same⟩

theorem HandedOver.routable_le {parcel : Parcel} (free : multiplexer.held = none)
    (few : parcel.attempts < attemptLimit)
    (handed : HandedOver setting parcel multiplexer after) :
    after.Tried ∧ after.routable ≤ multiplexer.routable + parcel.attempts ∧
      after.completions = multiplexer.completions := by
  cases handed with
  | nowhere _ => exact ⟨by simp [Tried, free], Nat.le_add_right _ _, rfl⟩
  | delivered _ _ => exact ⟨by simp [Tried, setTask, free], Nat.le_add_right _ _, rfl⟩
  | refused _ _ picked =>
    obtain ⟨tried, bound, same⟩ := picked.routable_le (by exact free) (Nat.le_of_lt few)
    exact ⟨tried, bound, same⟩

variable [Evaluator σ] {move : Move}

def Reaches (setting : Setting σ) (before after : Multiplexer definition σ) : Prop :=
  ∃ moves : List Move, before.run? setting (moves.map .moved) = some after

namespace Reaches

theorem refl (multiplexer : Multiplexer definition σ) : Reaches setting multiplexer multiplexer :=
  ⟨[], rfl⟩

theorem head {next : Multiplexer definition σ}
    (moved : multiplexer.advance? setting move = some next) (later : Reaches setting next after) :
    Reaches setting multiplexer after := by
  obtain ⟨moves, ran⟩ := later
  exact ⟨move :: moves, Option.bind_eq_some_iff.mpr ⟨next, moved, ran⟩⟩

theorem trans {middle : Multiplexer definition σ} (earlier : Reaches setting multiplexer middle)
    (later : Reaches setting middle after) : Reaches setting multiplexer after := by
  obtain ⟨moves, ran⟩ := earlier
  induction moves generalizing multiplexer with
  | nil => cases ran; exact later
  | cons move rest ih =>
    obtain ⟨next, moved, ran⟩ := Option.bind_eq_some_iff.mp ran
    exact .head moved (ih ran)

theorem serving (reaches : Reaches setting multiplexer after) (serving : multiplexer.Serving) :
    after.Serving := by
  obtain ⟨moves, ran⟩ := reaches
  exact (serving.run ran).1

end Reaches

theorem nextOfRouter?_some (next : multiplexer.nextOfRouter? setting = some after) :
    ∃ move ∈ routerMoves, multiplexer.advance? setting move = some after :=
  List.exists_of_findSome?_eq_some next

theorem nextOfWorker?_some (next : multiplexer.nextOfWorker? setting generation = some after) :
    ∃ taskMove, multiplexer.work? setting generation taskMove = some after := by
  obtain ⟨taskMove, _, worked⟩ := List.exists_of_findSome?_eq_some next
  exact ⟨taskMove, worked⟩

theorem reaches_routeFor (setting : Setting σ) (fuel : Nat)
    (multiplexer : Multiplexer definition σ) :
    Reaches setting multiplexer (multiplexer.routeFor setting fuel) := by
  induction fuel generalizing multiplexer with
  | zero => exact .refl _
  | succ fuel ih =>
    unfold routeFor
    split
    next next moved =>
      obtain ⟨move, _, advanced⟩ := nextOfRouter?_some moved
      exact .head advanced (ih next)
    next => exact .refl _

theorem reaches_workFor (setting : Setting σ) (generation fuel : Nat)
    (multiplexer : Multiplexer definition σ) :
    Reaches setting multiplexer (multiplexer.workFor setting generation fuel) := by
  induction fuel generalizing multiplexer with
  | zero => exact .refl _
  | succ fuel ih =>
    unfold workFor
    split
    next next moved =>
      obtain ⟨taskMove, worked⟩ := nextOfWorker?_some moved
      have advanced : multiplexer.advance? setting (.work generation taskMove) = some next := worked
      exact .head advanced (ih next)
    next => exact .refl _

theorem reaches_runWorkers (setting : Setting σ) (workers : List (Worker definition σ))
    (multiplexer : Multiplexer definition σ) :
    Reaches setting multiplexer (workers.foldl (runWorker setting) multiplexer) := by
  induction workers generalizing multiplexer with
  | nil => exact .refl _
  | cons first later ih => exact (reaches_workFor setting _ _ multiplexer).trans (ih _)

theorem reaches_round (setting : Setting σ) (multiplexer : Multiplexer definition σ) :
    Reaches setting multiplexer (multiplexer.round setting) :=
  (reaches_routeFor setting _ multiplexer).trans (reaches_runWorkers setting _ _)

theorem reaches_settleFor (setting : Setting σ) (fuel : Nat)
    (multiplexer : Multiplexer definition σ) :
    Reaches setting multiplexer (multiplexer.settleFor setting fuel) := by
  induction fuel generalizing multiplexer with
  | zero => exact .refl _
  | succ fuel ih =>
    unfold settleFor
    split
    next => exact .refl _
    next => exact (reaches_round setting multiplexer).trans (ih _)

theorem reaches_settle (setting : Setting σ) (multiplexer : Multiplexer definition σ) :
    Reaches setting multiplexer (multiplexer.settle setting) :=
  reaches_settleFor setting _ multiplexer

theorem Serving.routes (serving : multiplexer.Serving) (tried : multiplexer.Tried)
    (step : Step setting multiplexer move after) (router : move ∈ routerMoves) :
    Routes multiplexer after := by
  obtain ⟨_, routing, uncancelled, isOpen⟩ := serving
  cases step with
  | @evict completion rest completions _ =>
    obtain ⟨workers, _, held⟩ := complete_frame completion { multiplexer with completions := rest }
    have left : ({ multiplexer with completions := rest }.complete completion).completions = rest ∧
        ({ multiplexer with completions := rest }.complete completion).routable =
          multiplexer.routable := by
      unfold complete
      dsimp only
      split <;> exact ⟨rfl, rfl⟩
    refine ⟨fun parcel here => tried parcel (held ▸ here), ?_, .inr ⟨left.2, workers⟩⟩
    simp only [backlog, left, completions, List.length_cons]
    omega
  | @routeInbound item rest _ items ready routed =>
    have free := held_of_isReady ready
    obtain ⟨tried, bound, same⟩ := Routed.routable_le (by exact free) routed
    have less : after.routable < multiplexer.routable := by
      simp only [routable, items, List.length_cons, attemptLimit] at bound ⊢
      omega
    exact ⟨tried, by simp only [backlog, same]; omega, .inl less⟩
  | @routeControl data rest _ items ready routed =>
    have free := held_of_isReady ready
    obtain ⟨tried, bound, same⟩ := Routed.routable_le (by exact free) routed
    have less : after.routable < multiplexer.routable := by
      simp only [routable, items, List.length_cons, attemptLimit] at bound ⊢
      omega
    exact ⟨tried, by simp only [backlog, same]; omega, .inl less⟩
  | @handOver parcel _ held _ _ handed =>
    obtain ⟨tried, bound, same⟩ := handed.routable_le rfl (tried parcel held)
    have less : after.routable < multiplexer.routable := by
      simp only [routable, held, Option.elim_none, Option.elim_some] at bound ⊢
      omega
    exact ⟨tried, by simp only [backlog, same]; omega, .inl less⟩
  | noticeClosed _ _ closed => rw [isOpen] at closed; cases closed
  | noticeCancelled _ cancelled => rw [uncancelled] at cancelled; cases cancelled
  | finish stopping _ => rw [routing] at stopping; cases stopping
  | work _ _ => simp [routerMoves] at router

/-- What keeps the router waiting: it has nothing to do, or there is no room for what it has in
hand. -/
theorem Serving.waits (serving : multiplexer.Serving)
    (stuck : multiplexer.nextOfRouter? setting = none) :
    (multiplexer.backlog = 0 ∧ multiplexer.held = none) ∨
      ∃ parcel, multiplexer.held = some parcel ∧ multiplexer.isFull setting parcel = true := by
  have none : ∀ move ∈ routerMoves, multiplexer.advance? setting move = none :=
    List.findSome?_eq_none_iff.mp stuck
  cases held : multiplexer.held with
  | some parcel =>
    have still := none .handOver (by decide)
    simp only [advance?, held, serving.routing, decide_true, Bool.true_and] at still
    split at still
    next => cases still
    next full => exact .inr ⟨parcel, rfl, by simpa using full⟩
  | none =>
    have ready : multiplexer.isReady = true := by simp [isReady, serving.routing, held]
    have evict := none .evict (by decide)
    have inbound := none .routeInbound (by decide)
    have control := none .routeControl (by decide)
    simp only [advance?, ready, if_true] at evict inbound control
    split at evict
    next => cases evict
    next completions =>
      split at inbound
      next => cases inbound
      next items =>
        split at control
        next => cases control
        next hooks => exact .inl ⟨by simp [backlog, routable, completions, items, hooks, held], rfl⟩

structure Waits (setting : Setting σ) (before after : Multiplexer definition σ) : Prop where
  tried : after.Tried
  stuck : after.nextOfRouter? setting = none
  lessens : Lessens before after

theorem Serving.routeFor (serving : multiplexer.Serving) (tried : multiplexer.Tried) {fuel : Nat}
    (enough : multiplexer.backlog < fuel) :
    Waits setting multiplexer (multiplexer.routeFor setting fuel) := by
  induction fuel generalizing multiplexer with
  | zero => exact absurd enough (Nat.not_lt_zero _)
  | succ fuel ih =>
    unfold Multiplexer.routeFor
    split
    next next moved =>
      obtain ⟨move, router, advanced⟩ := nextOfRouter?_some moved
      have step := step_of_advance? advanced
      have routes := serving.routes tried step router
      have later := ih (serving.step step).1 routes.tried
        (Nat.lt_of_lt_of_le routes.backlog (Nat.le_of_lt_succ enough))
      exact ⟨later.tried, later.stuck, routes.lessens.trans later.lessens⟩
    next stuck => exact ⟨tried, stuck, .inr ⟨rfl, rfl⟩⟩

theorem Serving.runRouter (serving : multiplexer.Serving) (tried : multiplexer.Tried) :
    Waits setting multiplexer (multiplexer.runRouter setting) :=
  serving.routeFor tried (by have := tried.backlog_le; omega)

theorem work?_step {taskMove : Task.Move}
    (worked : multiplexer.work? setting generation taskMove = some after) :
    Step setting multiplexer (.work generation taskMove) after :=
  step_of_advance? worked

theorem Serving.nextOfWorker?_of_rests (serving : multiplexer.Serving)
    (rests : ∀ worker, multiplexer.worker? generation = some worker → worker.task.Rests) :
    multiplexer.nextOfWorker? setting generation = none := by
  refine List.findSome?_eq_none_iff.mpr fun taskMove _ => ?_
  refine Option.eq_none_iff_forall_ne_some.mpr fun after worked => ?_
  cases work?_step worked with
  | work found moved =>
    rw [serving.uncancelled] at moved
    have isOpen := (serving.orderly.isOpen _ (worker?_some found).1).1
    exact (rests _ found).not_step isOpen moved

structure Works (generation : Nat) (before after : Multiplexer definition σ) : Prop where
  others : ∀ other, other ≠ generation → after.worker? other = before.worker? other
  generations : after.workers.map Worker.generation = before.workers.map Worker.generation
  isCancelled : after.isCancelled = before.isCancelled
  held : after.held = before.held
  routable : after.routable = before.routable

omit [Evaluator σ] in
theorem Works.refl (generation : Nat) (multiplexer : Multiplexer definition σ) :
    Works generation multiplexer multiplexer :=
  ⟨fun _ _ => rfl, rfl, rfl, rfl, rfl⟩

omit [Evaluator σ] in
theorem Works.trans {middle : Multiplexer definition σ}
    (earlier : Works generation multiplexer middle)
    (later : Works generation middle after) : Works generation multiplexer after where
  others := fun other apart => (later.others other apart).trans (earlier.others other apart)
  generations := later.generations.trans earlier.generations
  isCancelled := later.isCancelled.trans earlier.isCancelled
  held := later.held.trans earlier.held
  routable := later.routable.trans earlier.routable

theorem Step.works {taskMove : Task.Move}
    (step : Step setting multiplexer (.work generation taskMove) after)
    (found : multiplexer.worker? generation = some worker) :
    Works generation multiplexer after ∧
      ∃ later, after.worker? generation = some later ∧ later.task.work < worker.task.work := by
  cases step with
  | @work _ _ _ result here moved =>
    cases found.symm.trans here
    refine ⟨⟨fun other apart => ?_, ?_, rfl, rfl, rfl⟩, ?_⟩
    · exact worker?_setTask_of_ne apart result.1
    · exact generations_setTask multiplexer generation result.1
    · exact ⟨_, worker?_setTask_self found result.1, moved.work_lt⟩

theorem works_workFor (found : multiplexer.worker? generation = some worker) {fuel : Nat}
    (enough : worker.task.work ≤ fuel) :
    Works generation multiplexer (multiplexer.workFor setting generation fuel) ∧
      (multiplexer.workFor setting generation fuel).nextOfWorker? setting generation = none := by
  induction fuel generalizing multiplexer worker with
  | zero =>
    -- There is no move left to be made.
    refine ⟨.refl _ _, List.findSome?_eq_none_iff.mpr fun taskMove _ => ?_⟩
    refine Option.eq_none_iff_forall_ne_some.mpr fun after worked => ?_
    obtain ⟨_, _, _, less⟩ := (work?_step worked).works found
    omega
  | succ fuel ih =>
    unfold Multiplexer.workFor
    split
    next next moved =>
      obtain ⟨taskMove, worked⟩ := nextOfWorker?_some moved
      obtain ⟨works, later, own, less⟩ := (work?_step worked).works found
      obtain ⟨rest, stuck⟩ := ih own (Nat.le_of_lt_succ (Nat.lt_of_lt_of_le less enough))
      exact ⟨works.trans rest, stuck⟩
    next stuck => exact ⟨.refl _ _, stuck⟩

structure Rested (setting : Setting σ) (before after : Multiplexer definition σ) : Prop where
  stuck : ∀ worker ∈ after.workers, worker.task.Stuck setting.client before.isCancelled
  held : after.held = before.held
  routable : after.routable = before.routable

theorem rested_foldl {workers : List (Worker definition σ)}
    (distinct : (multiplexer.workers.map Worker.generation).Nodup)
    (apart : (workers.map Worker.generation).Nodup)
    (found : ∀ worker ∈ workers, multiplexer.worker? worker.generation = some worker)
    (others : ∀ generation worker, multiplexer.worker? generation = some worker →
      worker.task.Stuck setting.client multiplexer.isCancelled ∨ worker ∈ workers) :
    Rested setting multiplexer (workers.foldl (runWorker setting) multiplexer) := by
  induction workers generalizing multiplexer with
  | nil =>
    refine ⟨fun worker member => ?_, rfl, rfl⟩
    simpa using others _ worker (worker?_of_distinct distinct member)
  | cons first later ih =>
    obtain ⟨away, apart⟩ := List.nodup_cons.mp apart
    have ran : Works first.generation multiplexer (multiplexer.runWorker setting first) ∧
        (multiplexer.runWorker setting first).nextOfWorker? setting first.generation = none :=
      works_workFor (found first List.mem_cons_self) (Nat.le_refl _)
    obtain ⟨works, stuck⟩ := ran
    have last := ih (works.generations ▸ distinct) apart
      (fun worker member => by
        rw [works.others _ fun same => away (same ▸ List.mem_map_of_mem member)]
        exact found worker (List.mem_cons_of_mem _ member))
      (fun generation worker here => by
        by_cases same : generation = first.generation
        · subst same
          exact .inl (stuck_of_nextOfWorker? here stuck)
        · rw [works.others _ same] at here
          rcases others generation worker here with rests | member
          · exact .inl (works.isCancelled ▸ rests)
          · rcases List.mem_cons.mp member with rfl | member
            · exact absurd (worker?_some here).2.symm same
            · exact .inr member)
    exact ⟨works.isCancelled ▸ last.stuck, last.held.trans works.held,
      last.routable.trans works.routable⟩

theorem rested_runWorkers (setting : Setting σ)
    (distinct : (multiplexer.workers.map Worker.generation).Nodup) :
    Rested setting multiplexer (multiplexer.workers.foldl (runWorker setting) multiplexer) :=
  rested_foldl distinct distinct (fun _ member => worker?_of_distinct distinct member)
    fun _ _ found => .inr (worker?_some found).1

theorem workFor_of_stuck (stuck : multiplexer.nextOfWorker? setting generation = none)
    (fuel : Nat) : multiplexer.workFor setting generation fuel = multiplexer := by
  cases fuel with
  | zero => rfl
  | succ fuel => rw [workFor, stuck]

theorem Serving.runWorkers_of_rests (serving : multiplexer.Serving)
    (rests : multiplexer.AllRest) (workers : List (Worker definition σ)) :
    workers.foldl (runWorker setting) multiplexer = multiplexer := by
  induction workers with
  | nil => rfl
  | cons first later ih =>
    have stuck : multiplexer.nextOfWorker? setting first.generation = none :=
      serving.nextOfWorker?_of_rests fun worker found => rests worker (worker?_some found).1
    rw [List.foldl_cons, runWorker, workFor_of_stuck stuck]
    exact ih

structure Rounded (setting : Setting σ) (before after : Multiplexer definition σ) : Prop where
  tried : after.Tried
  rests : after.AllRest
  routable_le : after.routable ≤ before.routable
  /-- What is full can be emptied, so that something is handed over. -/
  less : before.AllRest → after.routable < before.routable ∨ after.routable = 0
  idle : before.AllRest → before.routable = 0 → after.isIdle setting = true

theorem Serving.round (serving : multiplexer.Serving) (tried : multiplexer.Tried)
    (room : 0 < setting.capacity) :
    Rounded setting multiplexer (multiplexer.round setting) := by
  have waits : Waits setting multiplexer (multiplexer.runRouter setting) := serving.runRouter tried
  have routed : (multiplexer.runRouter setting).Serving :=
    (reaches_routeFor setting _ multiplexer).serving serving
  have rested : Rested setting (multiplexer.runRouter setting) (multiplexer.round setting) :=
    rested_runWorkers setting routed.orderly.distinct
  have still (rests : multiplexer.AllRest)
      (workers : (multiplexer.runRouter setting).workers = multiplexer.workers) :
      (multiplexer.runRouter setting).AllRest := by
    rw [AllRest, workers]
    exact rests
  refine ⟨fun parcel here => waits.tried parcel (rested.held.symm.trans here),
    fun worker member => (rested.stuck worker member).rests, ?_,
    fun rests => ?_, fun rests none => ?_⟩
  · rw [rested.routable]
    exact waits.lessens.le
  · rw [rested.routable]
    rcases waits.lessens with less | ⟨_, workers⟩
    · exact .inl less
    · rcases routed.waits waits.stuck with ⟨nothing, _⟩ | ⟨parcel, _, full⟩
      · exact .inr (Nat.eq_zero_of_add_eq_zero_right nothing)
      · rw [(still rests workers).isFull room] at full
        cases full
  · rcases waits.lessens with less | ⟨_, workers⟩
    · omega
    · have same : multiplexer.round setting = multiplexer.runRouter setting :=
        routed.runWorkers_of_rests (still rests workers) _
      rw [same]
      simp only [isIdle, waits.stuck, Option.isNone_none, Bool.true_and, List.all_eq_true,
        Option.isNone_iff_eq_none]
      exact fun worker _ => routed.nextOfWorker?_of_rests fun other found =>
        still rests workers other (worker?_some found).1

theorem settleFor_of_isIdle (idle : multiplexer.isIdle setting = true) (fuel : Nat) :
    multiplexer.settleFor setting fuel = multiplexer := by
  cases fuel with
  | zero => rfl
  | succ fuel => rw [settleFor, if_pos idle]

theorem Serving.settleFor (serving : multiplexer.Serving) (tried : multiplexer.Tried)
    (rests : multiplexer.AllRest) (room : 0 < setting.capacity) {fuel : Nat}
    (enough : multiplexer.routable < fuel) :
    (multiplexer.settleFor setting fuel).isIdle setting = true := by
  induction fuel generalizing multiplexer with
  | zero => exact absurd enough (Nat.not_lt_zero _)
  | succ fuel ih =>
    unfold Multiplexer.settleFor
    split
    next idle => exact idle
    next =>
      have rounded := serving.round tried room
      by_cases none : multiplexer.routable = 0
      · have idle := rounded.idle rests none
        rw [settleFor_of_isIdle idle]
        exact idle
      · have fewer : (multiplexer.round setting).routable < fuel := by
          rcases rounded.less rests with less | done <;> omega
        exact ih ((reaches_round setting multiplexer).serving serving) rounded.tried rounded.rests
          fewer

/-- Left to run, a multiplexer that serves comes to where nothing can happen. -/
theorem Serving.settle (serving : multiplexer.Serving) (tried : multiplexer.Tried)
    (room : 0 < setting.capacity) :
    (multiplexer.settle setting).isIdle setting = true := by
  unfold Multiplexer.settle rounds Multiplexer.settleFor
  split
  next idle => exact idle
  next =>
    -- All conversations rest after the first round.
    have rounded := serving.round tried room
    have enough : (multiplexer.round setting).routable < multiplexer.routerWork + 3 := by
      have bound := tried.backlog_le
      have less := rounded.routable_le
      unfold backlog at bound
      omega
    have served := (reaches_round setting multiplexer).serving serving
    exact served.settleFor rounded.tried rounded.rests room enough

theorem Serving.backlog_of_isIdle (serving : multiplexer.Serving) (room : 0 < setting.capacity)
    (idle : multiplexer.isIdle setting = true) :
    multiplexer.backlog = 0 ∧ multiplexer.held = none := by
  have stuck : multiplexer.nextOfRouter? setting = none := by
    simp only [isIdle, Bool.and_eq_true, Option.isNone_iff_eq_none] at idle
    exact idle.1
  rcases serving.waits stuck with nothing | ⟨parcel, held, _⟩
  · exact nothing
  · rw [held_of_isIdle serving.orderly room serving.routing idle] at held
    cases held

end Parley.Multiplexer
