import Parley.Proofs.Multiplexer.Separation
/-!
How a multiplexer comes to its end.

Once nothing more can come through the stream, or the end is wanted, the router closes all channels,
each conversation tells its end, and then everything has stopped. Nothing else keeps such a
multiplexer from rest, and after that nothing happens to it any more.
-/

namespace Parley

variable {definition : Definition} {σ : Type}

theorem Task.Stuck.reported [Evaluator σ] {task : Task definition σ} {client : Client}
    {isCancelled : Bool} (stuck : task.Stuck client isCancelled)
    (closed : task.notifications.isOpen = false) : task.phase = .reported := by
  rcases stuck.rests with reported | ⟨listening, empty⟩
  · exact reported
  · obtain ⟨ledger, none⟩ := stuck.not_step
    have items := (List.append_eq_nil_iff.mp empty).1
    exact (none _ _ (.noticeClosed listening items closed)).elim

namespace Multiplexer

variable {setting : Setting σ} {multiplexer after : Multiplexer definition σ}

structure Coherent (multiplexer : Multiplexer definition σ) : Prop where
  routing : multiplexer.stage = .routing → multiplexer.Orderly
  distinct : (multiplexer.workers.map Worker.generation).Nodup
  closed : multiplexer.stage = .stopping →
    ∀ worker ∈ multiplexer.workers, worker.task.notifications.isOpen = false
  reported : multiplexer.stage = .stopped →
    ∀ worker ∈ multiplexer.workers, worker.task.phase = .reported

structure Ended (multiplexer : Multiplexer definition σ) : Prop where
  stopped : multiplexer.stage = .stopped
  reported : ∀ worker ∈ multiplexer.workers, worker.task.phase = .reported

def Ending (multiplexer : Multiplexer definition σ) : Prop :=
  multiplexer.inbound.isOpen = false ∨ multiplexer.isCancelled = true

theorem Orderly.coherent (orderly : multiplexer.Orderly) (routing : multiplexer.stage = .routing) :
    multiplexer.Coherent where
  routing := fun _ => orderly
  distinct := orderly.distinct
  closed := fun stopping => by rw [routing] at stopping; cases stopping
  reported := fun stopped => by rw [routing] at stopped; cases stopped

theorem finish_ended (allReported : multiplexer.allReported = true) : multiplexer.finish.Ended where
  stopped := rfl
  reported := by
    obtain ⟨table, ledger, same⟩ := exists_finish multiplexer
    rw [same]
    simpa [Multiplexer.allReported] using allReported

theorem Orderly.stop_coherent (orderly : multiplexer.Orderly) : multiplexer.stop.Coherent where
  routing := nofun
  distinct := by
    rw [stop, List.map_map]
    exact orderly.distinct
  closed := fun _ worker member => by
    obtain ⟨other, _, rfl⟩ := List.mem_map.mp member
    rfl
  reported := nofun

variable [Evaluator σ] {move : Move}

theorem Step.course (step : Step setting multiplexer move after)
    (coherent : multiplexer.Coherent) :
    (multiplexer.stage = .routing ∧ SameService multiplexer after) ∨
      (multiplexer.stage = .routing ∧ after = multiplexer.stop) ∨
      (multiplexer.stage = .stopping ∧ multiplexer.allReported = true ∧
        after = multiplexer.finish) ∨
      ∃ generation taskMove, move = .work generation taskMove ∧ SameService multiplexer after := by
  cases step with
  | @evict completion rest _ ready =>
    obtain ⟨_, same⟩ := complete_effort completion { multiplexer with completions := rest }
    exact .inl ⟨stage_of_isReady ready, same.stage, same.isCancelled, same.isOpen⟩
  | routeInbound _ ready routed =>
    obtain ⟨_, same⟩ := Routed.effort_le (by exact held_of_isReady ready) routed
    exact .inl ⟨stage_of_isReady ready, same.stage, same.isCancelled, same.isOpen⟩
  | routeControl _ ready routed =>
    obtain ⟨_, same⟩ := Routed.effort_le (by exact held_of_isReady ready) routed
    exact .inl ⟨stage_of_isReady ready, same.stage, same.isCancelled, same.isOpen⟩
  | handOver _ routing _ handed =>
    have released : Orderly { multiplexer with held := none } :=
      (coherent.routing routing).of_same rfl rfl (List.Subset.refl _) rfl
    obtain ⟨_, same⟩ := handed.effort_le released rfl
    exact .inl ⟨routing, same.stage, same.isCancelled, same.isOpen⟩
  | noticeClosed ready _ _ => exact .inr (.inl ⟨stage_of_isReady ready, rfl⟩)
  | noticeCancelled ready _ => exact .inr (.inl ⟨stage_of_isReady ready, rfl⟩)
  | finish stopping allReported => exact .inr (.inr (.inl ⟨stopping, allReported, rfl⟩))
  | work _ _ => exact .inr (.inr (.inr ⟨_, _, rfl, rfl, rfl, rfl⟩))

theorem Ended.not_step (ended : multiplexer.Ended) : ¬Step setting multiplexer move after := by
  intro step
  have notRouting (routing : multiplexer.stage = .routing) : False := by
    rw [ended.stopped] at routing
    cases routing
  cases step with
  | evict _ ready => exact notRouting (stage_of_isReady ready)
  | routeInbound _ ready _ => exact notRouting (stage_of_isReady ready)
  | routeControl _ ready _ => exact notRouting (stage_of_isReady ready)
  | handOver _ routing _ _ => exact notRouting routing
  | noticeClosed ready _ _ => exact notRouting (stage_of_isReady ready)
  | noticeCancelled ready _ => exact notRouting (stage_of_isReady ready)
  | finish stopping _ => rw [ended.stopped] at stopping; cases stopping
  | work found moved =>
    have reported := ended.reported _ (worker?_some found).1
    cases moved <;> simp_all

theorem Ended.isIdle (ended : multiplexer.Ended) (setting : Setting σ) :
    multiplexer.isIdle setting = true :=
  isIdle_iff.mpr fun _ => Option.eq_none_iff_forall_ne_some.mpr fun _ moved =>
    ended.not_step (step_of_advance? moved)

theorem eq_of_isIdle (idle : multiplexer.isIdle setting = true)
    (reaches : Reaches setting multiplexer after) : after = multiplexer := by
  obtain ⟨moves, ran⟩ := reaches
  cases moves with
  | nil => exact (Option.some.inj ran).symm
  | cons move rest =>
    obtain ⟨next, moved, _⟩ := Option.bind_eq_some_iff.mp ran
    have stuck := isIdle_iff.mp idle move
    rw [show multiplexer.advance? setting move = some next from moved] at stuck
    cases stuck

theorem Ended.eq_of_reaches (ended : multiplexer.Ended)
    (reaches : Reaches setting multiplexer after) : after = multiplexer :=
  eq_of_isIdle (ended.isIdle setting) reaches

theorem Coherent.step (coherent : multiplexer.Coherent)
    (step : Step setting multiplexer move after) : after.Coherent := by
  rcases step.course coherent with ⟨routing, same⟩ | ⟨routing, rfl⟩ | ⟨_, allReported, rfl⟩ |
    ⟨generation, taskMove, rfl, same⟩
  · have goesOn := same.stage.trans routing
    exact ((coherent.routing routing).step step goesOn).coherent goesOn
  · exact (coherent.routing routing).stop_coherent
  · refine ⟨nofun, ?_, nofun, fun _ => (finish_ended allReported).reported⟩
    obtain ⟨table, ledger, same⟩ := exists_finish multiplexer
    rw [same]
    exact coherent.distinct
  · refine ⟨fun routing => ?_, ?_, fun stopping => ?_, fun stopped => ?_⟩
    · exact (coherent.routing (same.stage.symm.trans routing)).step step routing
    · cases step with
      | work _ _ => exact generations_setTask multiplexer generation _ ▸ coherent.distinct
    · have closed := coherent.closed (same.stage.symm.trans stopping)
      cases step with
      | work found moved =>
        refine forall_setTask (P := fun task => task.notifications.isOpen = false) ?_ closed
        exact moved.isOpen.1.trans (closed _ (worker?_some found).1)
    · -- Who has told the end makes no move.
      have ended : multiplexer.Ended :=
        ⟨same.stage.symm.trans stopped, coherent.reported (same.stage.symm.trans stopped)⟩
      exact (ended.not_step step).elim

theorem Coherent.occur {occurrence : Occurrence} (coherent : multiplexer.Coherent)
    (occurred : multiplexer.occur? setting occurrence = some after) : after.Coherent := by
  cases occurrence with
  | moved move => exact coherent.step (step_of_advance? occurred)
  | _ =>
    obtain ⟨workers, table, completions, next, _, stage⟩ := untouched_of_occur? (by simp) occurred
    refine ⟨fun routing => ?_, ?_, ?_, ?_⟩
    · exact (coherent.routing (stage.symm.trans routing)).of_same workers table
        (completions ▸ List.Subset.refl _) next
    · rw [workers]
      exact coherent.distinct
    · rw [workers, stage]
      exact coherent.closed
    · rw [workers, stage]
      exact coherent.reported

theorem Coherent.run {occurrences : List Occurrence} (coherent : multiplexer.Coherent)
    (ran : multiplexer.run? setting occurrences = some after) : after.Coherent := by
  induction occurrences generalizing multiplexer with
  | nil => cases ran; exact coherent
  | cons occurrence rest ih =>
    obtain ⟨next, occurred, later⟩ := Option.bind_eq_some_iff.mp ran
    exact ih (coherent.occur occurred) later

theorem Coherent.reaches (coherent : multiplexer.Coherent)
    (reaches : Reaches setting multiplexer after) : after.Coherent := by
  obtain ⟨moves, ran⟩ := reaches
  exact coherent.run ran

theorem Ending.reaches (ending : multiplexer.Ending) (coherent : multiplexer.Coherent)
    (reaches : Reaches setting multiplexer after) : after.Ending := by
  obtain ⟨moves, ran⟩ := reaches
  induction moves generalizing multiplexer with
  | nil => cases ran; exact ending
  | cons move rest ih =>
    obtain ⟨next, moved, later⟩ := Option.bind_eq_some_iff.mp ran
    have step := step_of_advance? moved
    refine ih ?_ (coherent.step step) later
    unfold Ending at ending ⊢
    rcases step.course coherent with ⟨_, same⟩ | ⟨_, rfl⟩ | ⟨_, _, rfl⟩ | ⟨_, _, _, same⟩
    · rw [same.isOpen, same.isCancelled]
      exact ending
    · exact ending
    · obtain ⟨table, ledger, same⟩ := exists_finish multiplexer
      rw [same]
      exact ending
    · rw [same.isOpen, same.isCancelled]
      exact ending

theorem Coherent.reported_of_stuck (coherent : multiplexer.Coherent)
    (stopping : multiplexer.stage ≠ .routing) {isCancelled : Bool}
    (stuck : ∀ worker ∈ multiplexer.workers, worker.task.Stuck setting.client isCancelled) :
    ∀ worker ∈ multiplexer.workers, worker.task.phase = .reported := by
  cases stage : multiplexer.stage with
  | routing => exact absurd stage stopping
  | stopping =>
    exact fun worker member => (stuck worker member).reported (coherent.closed stage worker member)
  | stopped => exact coherent.reported stage

/-- Where the end is wanted, nothing comes to rest before it. -/
theorem Coherent.ended (coherent : multiplexer.Coherent) (ending : multiplexer.Ending)
    (room : 0 < setting.capacity) (idle : multiplexer.isIdle setting = true) :
    multiplexer.Ended := by
  have none := isIdle_iff.mp idle
  cases stage : multiplexer.stage with
  | routing =>
    have held := held_of_isIdle (coherent.routing stage) room stage idle
    have ready : multiplexer.isReady = true := by simp [isReady, stage, held]
    have inbound := none .routeInbound
    have noticed := none .noticeClosed
    have heard := none .noticeCancelled
    cases items : multiplexer.inbound.items with
    | cons item rest => simp [advance?, ready, items] at inbound
    | nil =>
      rcases ending with closed | cancelled
      · simp [advance?, ready, items, closed] at noticed
      · simp [advance?, ready, cancelled] at heard
  | stopping =>
    have reported := coherent.reported_of_stuck (by simp [stage])
      fun worker member => stuck_of_isIdle coherent.distinct idle member
    have finish := none .finish
    have allReported : multiplexer.allReported = true := by
      simpa [Multiplexer.allReported] using reported
    simp [advance?, stage, allReported] at finish
  | stopped => exact ⟨stage, coherent.reported stage⟩

structure Leaving (multiplexer : Multiplexer definition σ) : Prop where
  orderly : multiplexer.Orderly
  routing : multiplexer.stage = .routing
  ending : multiplexer.Ending
  inbound : multiplexer.inbound.items = []
  control : multiplexer.control = []
  held : multiplexer.held = none
  completions : multiplexer.completions = []

theorem Leaving.nextOfRouter? (leaving : multiplexer.Leaving) (setting : Setting σ) :
    multiplexer.nextOfRouter? setting = some multiplexer.stop := by
  have ready : multiplexer.isReady = true := by simp [isReady, leaving.routing, leaving.held]
  simp only [Multiplexer.nextOfRouter?, routerMoves, List.findSome?_cons, List.findSome?_nil,
    advance?, leaving.held, ready, leaving.completions, leaving.inbound, leaving.control]
  cases cancelled : multiplexer.isCancelled with
  | true => rfl
  | false =>
    rcases leaving.ending with closed | wanted
    · simp [closed]
    · rw [cancelled] at wanted
      cases wanted

structure Told (multiplexer : Multiplexer definition σ) : Prop where
  coherent : multiplexer.Coherent
  stopping : multiplexer.stage ≠ .routing
  reported : ∀ worker ∈ multiplexer.workers, worker.task.phase = .reported

/-- In the first round the router stops, and each conversation tells its end. -/
theorem Leaving.round (leaving : multiplexer.Leaving) (setting : Setting σ) :
    (multiplexer.round setting).Told := by
  have routed : Reaches setting multiplexer.stop (multiplexer.runRouter setting) := by
    unfold runRouter routerWork Multiplexer.routeFor
    rw [leaving.nextOfRouter? setting]
    exact reaches_routeFor setting _ _
  have rested : Rested setting (multiplexer.runRouter setting) (multiplexer.round setting) :=
    rested_runWorkers setting (leaving.orderly.stop_coherent.reaches routed).distinct
  have reached : Reaches setting multiplexer.stop (multiplexer.round setting) :=
    routed.trans (reaches_runWorkers setting _ _)
  have coherent := leaving.orderly.stop_coherent.reaches reached
  have stopping : (multiplexer.round setting).stage ≠ .routing := by
    obtain ⟨moves, ran⟩ := reached
    intro routing
    cases run?_routing ran routing
  exact ⟨coherent, stopping, coherent.reported_of_stuck stopping rested.stuck⟩

theorem Told.nextOfRouter? (told : multiplexer.Told) (stopping : multiplexer.stage = .stopping)
    (setting : Setting σ) : ∃ next, multiplexer.nextOfRouter? setting = some next ∧ next.Ended := by
  have allReported : multiplexer.allReported = true := by
    simpa [Multiplexer.allReported] using told.reported
  cases found : multiplexer.nextOfRouter? setting with
  | none =>
    have stuck := List.findSome?_eq_none_iff.mp found .finish (by decide)
    simp [advance?, stopping, allReported] at stuck
  | some next =>
    refine ⟨next, rfl, ?_⟩
    obtain ⟨move, router, advanced⟩ := nextOfRouter?_some found
    rcases (step_of_advance? advanced).course told.coherent with ⟨routing, _⟩ | ⟨routing, _⟩ |
      ⟨_, _, rfl⟩ | ⟨_, _, rfl, _⟩
    · exact absurd routing told.stopping
    · exact absurd routing told.stopping
    · exact finish_ended allReported
    · simp [routerMoves] at router

theorem Told.runRouter (told : multiplexer.Told) (setting : Setting σ) :
    (multiplexer.runRouter setting).Ended := by
  cases stage : multiplexer.stage with
  | routing => exact absurd stage told.stopping
  | stopping =>
    obtain ⟨next, found, ended⟩ := told.nextOfRouter? stage setting
    unfold Multiplexer.runRouter routerWork Multiplexer.routeFor
    rw [found]
    dsimp only
    rw [ended.eq_of_reaches (reaches_routeFor setting _ next)]
    exact ended
  | stopped =>
    have ended : multiplexer.Ended := ⟨stage, told.reported⟩
    have same : multiplexer.runRouter setting = multiplexer :=
      ended.eq_of_reaches (reaches_routeFor setting _ multiplexer)
    rw [same]
    exact ended

/-- In the second round everything stops. -/
theorem Told.round (told : multiplexer.Told) (setting : Setting σ) :
    (multiplexer.round setting).Ended := by
  have ended := told.runRouter setting
  have same : multiplexer.round setting = multiplexer.runRouter setting :=
    ended.eq_of_reaches (reaches_runWorkers setting _ _)
  exact same ▸ ended

/-- Whoever is at rest when the end is wanted settles at the end. -/
theorem Leaving.settle (leaving : multiplexer.Leaving) (setting : Setting σ) :
    (multiplexer.settle setting).isIdle setting = true := by
  have ended := (leaving.round setting).round setting
  unfold Multiplexer.settle rounds
  unfold Multiplexer.settleFor
  split
  next idle => exact idle
  next =>
    unfold Multiplexer.settleFor
    split
    next idle => exact idle
    next =>
      rw [settleFor_of_isIdle (ended.isIdle setting)]
      exact ended.isIdle setting

end Multiplexer
end Parley
