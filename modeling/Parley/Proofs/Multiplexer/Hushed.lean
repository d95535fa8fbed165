import Parley.Proofs.Multiplexer.Echo
import Parley.Proofs.Multiplexer.Surface
/-!
Echoes that come to a multiplexer at rest.

At rest each conversation that stands in the table listens. So an echo that comes in is dismissed by
the router, or it is handed to a conversation that does nothing on it. While echoes are on their way
the multiplexer is the same as before, apart from them: `hushed` takes them out again, and no move
makes a difference to what is left.
-/

namespace Parley

variable {definition : Definition} {σ : Type}

namespace Multiplexer

variable {setting : Setting σ} {multiplexer after : Multiplexer definition σ}
  {worker : Worker definition σ} {generation : Nat} {connection : String}

/-- Who has told the end stands in the table only for as long as the news of it are on their way. -/
def Announced (multiplexer : Multiplexer definition σ) : Prop :=
  ∀ worker ∈ multiplexer.workers, worker.task.phase = .reported →
    multiplexer.table.get? worker.connection = some worker.generation →
      ⟨worker.connection, worker.generation⟩ ∈ multiplexer.completions

namespace Announced

theorem initial : (initial definition σ).Announced := by
  simp [Announced, Multiplexer.initial]

theorem of_same (announced : multiplexer.Announced) (workers : after.workers = multiplexer.workers)
    (table : after.table = multiplexer.table)
    (completions : after.completions = multiplexer.completions) : after.Announced := by
  rw [Announced, workers, table, completions]
  exact announced

theorem erase (announced : multiplexer.Announced) (connection : String) :
    Announced { multiplexer with table := multiplexer.table.erase connection } := by
  intro worker member reported entry
  simp only [TextMap.get?_erase] at entry
  split at entry
  next => cases entry
  next => exact announced worker member reported entry

theorem picked {item : Notification} {attempts : Nat} (announced : multiplexer.Announced)
    (orderly : multiplexer.Orderly)
    (picked : Picked setting item connection multiplexer attempts after) : after.Announced := by
  cases picked with
  | exhausted => exact announced.of_same rfl rfl rfl
  | dismissed _ _ => exact announced.of_same rfl rfl rfl
  | found _ => exact announced.of_same rfl rfl rfl
  | started _ _ =>
    intro worker member reported entry
    rcases List.mem_append.mp member with old | new
    · simp only [spawn, note, TextMap.get?_insert] at entry
      split at entry
      next =>
        -- The entry is that of the new conversation.
        have less := orderly.below worker old
        rw [Option.some.inj entry] at less
        exact absurd less (Nat.lt_irrefl _)
      next => exact announced worker old reported entry
    · cases List.mem_singleton.mp new
      cases reported

theorem routed {item : Notification} (announced : multiplexer.Announced)
    (orderly : multiplexer.Orderly) (routed : Routed setting item multiplexer after) :
    after.Announced := by
  cases routed with
  | keptAlive _ => exact announced.of_same rfl rfl rfl
  | picked _ picked =>
    refine Announced.picked ?_ ?_ picked
    · exact announced.of_same rfl rfl rfl
    · exact orderly.of_same rfl rfl (List.Subset.refl _) rfl

theorem setTask (announced : multiplexer.Announced) (orderly : multiplexer.Orderly)
    (found : multiplexer.worker? generation = some worker) {task : Task definition σ}
    (kept : task.conversation.connection = worker.connection) (news : List Completion)
    (told : task.phase = .reported → worker.task.phase = .reported ∨
      ⟨worker.connection, generation⟩ ∈ news) :
    Announced { multiplexer.setTask generation task with
      completions := multiplexer.completions ++ news } := by
  obtain ⟨member, same⟩ := worker?_some found
  intro other inside reported entry
  rcases orderly.mem_setTask found inside with rfl | inside
  · have here : Worker.connection ⟨worker.generation, task⟩ = worker.connection := kept
    rw [here] at entry ⊢
    rcases told reported with before | fresh
    · exact List.mem_append_left _ (announced worker member before entry)
    · rw [same]
      exact List.mem_append_right _ fresh
  · exact List.mem_append_left _ (announced other inside reported entry)

theorem handedOver {parcel : Parcel} (announced : multiplexer.Announced)
    (orderly : multiplexer.Orderly) (handed : HandedOver setting parcel multiplexer after) :
    after.Announced := by
  cases handed with
  | nowhere _ => exact announced
  | delivered found delivered =>
    have given := Task.deliver?_delivered delivered
    have went := announced.setTask orderly (worker?_of_holder? found)
      (congrArg Conversation.connection given.conversation) []
      (fun reported => .inl (given.phase.symm.trans reported))
    rw [List.append_nil] at went
    exact went
  | refused found refused picked =>
    obtain ⟨member, entry⟩ := holder?_some found
    have gone := Task.isLive_of_deliver?_none (orderly.isOpen _ member) refused
    have alone := orderly.isAlone_of_entry member entry gone
    exact Announced.picked (announced.erase _) (orderly.erase alone) picked

theorem complete {completion : Completion} {rest : List Completion}
    (announced : multiplexer.Announced) (news : multiplexer.completions = completion :: rest) :
    (complete completion { multiplexer with completions := rest }).Announced := by
  have later (worker : Worker definition σ) (member : worker ∈ multiplexer.workers)
      (reported : worker.task.phase = .reported)
      (entry : multiplexer.table.get? worker.connection = some worker.generation)
      (other : completion ≠ ⟨worker.connection, worker.generation⟩) :
      ⟨worker.connection, worker.generation⟩ ∈ rest := by
    have told := announced worker member reported entry
    rw [news] at told
    rcases List.mem_cons.mp told with same | later
    · exact absurd same.symm other
    · exact later
  unfold Multiplexer.complete
  dsimp only [note]
  split
  next =>
    intro worker member reported entry
    simp only [TextMap.get?_erase] at entry
    split at entry
    next => cases entry
    next apart =>
      exact later worker member reported entry fun same =>
        apart (congrArg Completion.connection same).symm
  next missing =>
    intro worker member reported entry
    refine later worker member reported entry fun same => missing ?_
    rw [same]
    exact entry

variable [Evaluator σ] {move : Move}

theorem work {taskMove : Task.Move} {result : Task definition σ × Ledger}
    (announced : multiplexer.Announced) (orderly : multiplexer.Orderly)
    (found : multiplexer.worker? generation = some worker)
    (step : worker.task.Step setting.client multiplexer.isCancelled multiplexer.ledger taskMove
      result) :
    Announced { multiplexer.setTask generation result.1 with
      ledger := result.2
      completions := multiplexer.completions ++
        if taskMove = .report then [⟨worker.connection, generation⟩] else [] } := by
  refine (announced.setTask orderly found step.connection _ fun reported => .inr ?_).of_same rfl rfl
    rfl
  rw [if_pos (step.report_of_reported reported)]
  exact List.mem_singleton_self _

theorem step (announced : multiplexer.Announced) (orderly : multiplexer.Orderly)
    (step : Step setting multiplexer move after) (routing : after.stage = .routing) :
    after.Announced := by
  cases step with
  | evict completions _ => exact announced.complete completions
  | routeInbound _ _ routed =>
    refine Announced.routed ?_ ?_ routed
    · exact announced.of_same rfl rfl rfl
    · exact orderly.of_same rfl rfl (List.Subset.refl _) rfl
  | routeControl _ _ routed =>
    refine Announced.routed ?_ ?_ routed
    · exact announced.of_same rfl rfl rfl
    · exact orderly.of_same rfl rfl (List.Subset.refl _) rfl
  | handOver _ _ _ handed =>
    refine Announced.handedOver ?_ ?_ handed
    · exact announced.of_same rfl rfl rfl
    · exact orderly.of_same rfl rfl (List.Subset.refl _) rfl
  | noticeClosed _ _ _ => cases routing
  | noticeCancelled _ _ => cases routing
  | finish _ _ => cases routing
  | work found moved => exact announced.work orderly found moved

theorem reaches (announced : multiplexer.Announced) (orderly : multiplexer.Orderly)
    (reaches : Reaches setting multiplexer after) (routing : after.stage = .routing) :
    after.Announced := by
  obtain ⟨moves, ran⟩ := reaches
  induction moves generalizing multiplexer with
  | nil => cases ran; exact announced
  | cons move rest ih =>
    obtain ⟨next, moved, later⟩ := Option.bind_eq_some_iff.mp ran
    have goesOn := run?_routing later routing
    have step := step_of_advance? moved
    exact ih (announced.step orderly step goesOn) (orderly.step step goesOn) later

end Announced
end Multiplexer

def Phase.attends : Phase → Bool
  | .listening => true
  | .handling item => item.isEcho
  | _ => false

def Task.hushed (task : Task definition σ) : Task definition σ :=
  if task.phase.attends then
    { task.surface with
      phase := .listening
      notifications :=
        { task.notifications with
          items := task.notifications.items.filter fun item => !item.isEcho } }
  else task.surface

def Worker.hushed (worker : Worker definition σ) : Worker definition σ :=
  { worker with task := worker.task.hushed }

def Multiplexer.hushed (multiplexer : Multiplexer definition σ) : Multiplexer definition σ :=
  { multiplexer with
    inbound :=
      { multiplexer.inbound with
        items := multiplexer.inbound.items.filter fun item => !item.isEcho }
    workers := multiplexer.workers.map Worker.hushed
    held := multiplexer.held.filter fun parcel => !parcel.item.isEcho
    ledger := multiplexer.ledger.surface }

namespace Task

variable {task : Task definition σ}

theorem hushed_of_attends (attends : task.phase.attends = true) :
    task.hushed = { task.surface with
      phase := .listening
      notifications :=
        { task.notifications with
          items := task.notifications.items.filter fun item => !item.isEcho } } :=
  if_pos attends

theorem hushed_of_not_attends (busy : task.phase.attends = false) : task.hushed = task.surface := by
  rw [hushed, busy]
  rfl

theorem hushed_surface (task : Task definition σ) : task.surface.hushed = task.hushed := by
  have phase : task.surface.phase = task.phase := rfl
  unfold hushed
  rw [phase]
  rfl

theorem hushed_of_rests (rests : task.Rests) : task.hushed = task.surface := by
  rcases rests with reported | ⟨listening, empty⟩
  · apply hushed_of_not_attends
    rw [reported]
    rfl
  · have attends : task.phase.attends = true := by rw [listening]; rfl
    have items := (List.append_eq_nil_iff.mp empty).1
    rw [hushed_of_attends attends]
    simp only [surface, listening, items, List.filter_nil]
    rw [← items]

theorem attends_of_rests (rests : task.hushed.Rests) :
    task.phase = .reported ∨ task.phase.attends = true ∧ task.hooks.items = [] ∧
      ∀ item ∈ task.notifications.items, item.isEcho = true := by
  cases attends : task.phase.attends with
  | true =>
    rw [hushed_of_attends attends] at rests
    rcases rests with reported | ⟨_, empty⟩
    · cases reported
    · obtain ⟨items, hooks⟩ := List.append_eq_nil_iff.mp empty
      refine .inr ⟨rfl, List.map_eq_nil_iff.mp hooks, fun item member => ?_⟩
      simpa using List.filter_eq_nil_iff.mp items item member
  | false =>
    rw [hushed_of_not_attends attends] at rests
    rcases rests with reported | ⟨listening, _⟩
    · exact .inl reported
    · rw [show task.phase = .listening from listening] at attends
      cases attends

theorem hushed_deliver {item : Notification} {after : Task definition σ}
    (attends : task.phase.attends = true) (echo : item.isEcho = true)
    (delivered : task.deliver? item = some after) : after.hushed = task.hushed := by
  obtain ⟨status, rfl, ours⟩ := Notification.exists_status echo
  simp only [deliver?, offer?] at delivered
  split at delivered
  next =>
    cases delivered
    rw [hushed_of_attends attends, hushed_of_attends (by exact attends)]
    simp [surface, Channel.push, Notification.isEcho, ours]
  next => cases delivered

variable [Evaluator σ] {client : Client} {ledger : Ledger} {move : Move}
  {result : Task definition σ × Ledger}

theorem Step.hushed (step : Step client false task ledger move result)
    (ignores : definition.IgnoresOwn) (drained : task.Drained)
    (isOpen : task.notifications.isOpen = true) (rests : task.hushed.Rests) :
    result.1.hushed = task.hushed ∧ result.2.surface = ledger.surface ∧ move ≠ .report := by
  rcases attends_of_rests rests with reported | ⟨attends, hooks, echoes⟩
  · cases step <;> simp_all
  cases step with
  | begin fresh => rw [fresh] at attends; cases attends
  | report ended => rw [ended] at attends; cases attends
  | takeHook _ items => rw [hooks] at items; cases items
  | noticeClosed _ _ closed => rw [isOpen] at closed; cases closed
  | noticeCancelled _ cancelled => cases cancelled
  | @takeNotification item rest listening items =>
    have echo := echoes item (items ▸ List.mem_cons_self)
    refine ⟨?_, rfl, by decide⟩
    rw [hushed_of_attends attends, hushed_of_attends (by exact echo)]
    simp [surface, items, echo]
  | @handle item handling =>
    have echo : item.isEcho = true := by
      rw [handling] at attends
      exact attends
    obtain ⟨shown, noted⟩ := settled_echo client ledger ignores drained handling echo
    refine ⟨?_, noted, by decide⟩
    rw [← hushed_surface, shown, hushed_of_attends attends]
    rfl

end Task

namespace Multiplexer

variable {setting : Setting σ} {multiplexer after : Multiplexer definition σ}
  {worker : Worker definition σ} {generation : Nat} {item : Notification}

structure Murmurs (multiplexer : Multiplexer definition σ) : Prop where
  rests : ∀ worker ∈ multiplexer.hushed.workers, worker.task.Rests
  inbound : multiplexer.hushed.inbound.items = []
  control : multiplexer.control = []
  held : multiplexer.hushed.held = none
  completions : multiplexer.completions = []

namespace Murmurs

theorem rests_hushed (murmurs : multiplexer.Murmurs) (member : worker ∈ multiplexer.workers) :
    worker.task.hushed.Rests :=
  murmurs.rests worker.hushed (List.mem_map_of_mem member)

theorem of_hushed (murmurs : multiplexer.Murmurs) (same : after.hushed = multiplexer.hushed) :
    after.Murmurs where
  rests := by rw [same]; exact murmurs.rests
  inbound := by rw [same]; exact murmurs.inbound
  control := (congrArg Multiplexer.control same).trans murmurs.control
  held := by rw [same]; exact murmurs.held
  completions := (congrArg Multiplexer.completions same).trans murmurs.completions

theorem isEcho_of_inbound (murmurs : multiplexer.Murmurs)
    (member : item ∈ multiplexer.inbound.items) : item.isEcho = true := by
  simpa using List.filter_eq_nil_iff.mp murmurs.inbound item member

theorem isEcho_of_held (murmurs : multiplexer.Murmurs) {parcel : Parcel}
    (held : multiplexer.held = some parcel) : parcel.item.isEcho = true := by
  have none := murmurs.held
  simp only [hushed, held, Option.filter_some] at none
  split at none
  next => cases none
  next echo => simpa using echo

end Murmurs

theorem hushed_setTask (orderly : multiplexer.Orderly)
    (found : multiplexer.worker? generation = some worker) {task : Task definition σ}
    (same : task.hushed = worker.task.hushed) :
    (multiplexer.setTask generation task).hushed = multiplexer.hushed := by
  obtain ⟨before, later, split, changed⟩ := orderly.setTask_split found task
  have workers : (multiplexer.setTask generation task).workers.map Worker.hushed =
      multiplexer.workers.map Worker.hushed := by
    rw [changed, split]
    simp only [List.map_append, List.map_cons, Worker.hushed, same]
  unfold hushed
  rw [workers]
  rfl

theorem Picked.hushed {connection : String} {attempts : Nat}
    (picked : Picked setting item connection multiplexer attempts after)
    (echo : item.isEcho = true) (free : multiplexer.held = none) (few : 0 < attempts) :
    after.hushed = multiplexer.hushed := by
  rcases picked.of_echo echo few with rfl | ⟨_, _, rfl⟩
  · rfl
  · simp [Multiplexer.hushed, free, echo]

theorem Routed.hushed (routed : Routed setting item multiplexer after)
    (echo : item.isEcho = true) (free : multiplexer.held = none) :
    after.hushed = multiplexer.hushed := by
  cases routed with
  | keptAlive silent =>
    obtain ⟨status, rfl, _⟩ := Notification.exists_status echo
    cases silent
  | picked _ picked => exact (picked.hushed echo free (by decide) :)

theorem HandedOver.hushed {parcel : Parcel} (handed : HandedOver setting parcel multiplexer after)
    (orderly : multiplexer.Orderly) (announced : multiplexer.Announced)
    (murmurs : multiplexer.Murmurs) (echo : parcel.item.isEcho = true) :
    after.hushed = multiplexer.hushed := by
  cases handed with
  | nowhere _ => rfl
  | @delivered worker task found delivered =>
    apply hushed_setTask orderly (worker?_of_holder? found)
    have rests := murmurs.rests_hushed (holder?_some found).1
    rcases Task.attends_of_rests rests with reported | attends
    · have live := (Task.deliver?_delivered delivered).live
      rw [Task.isLive, reported] at live
      cases live
    · exact Task.hushed_deliver attends.1 echo delivered
  | @refused worker _ found refused _ =>
    obtain ⟨member, entry⟩ := holder?_some found
    have gone := Task.isLive_of_deliver?_none (orderly.isOpen worker member) refused
    rcases Task.attends_of_rests (murmurs.rests_hushed member) with reported | ⟨attends, _⟩
    · -- The news of an end are heard before the echo comes in.
      have own : worker.connection = parcel.connection := orderly.connection_of_holder? found
      have told := announced worker member reported (own ▸ entry)
      rw [murmurs.completions] at told
      cases told
    · cases phase : worker.task.phase <;> simp_all [Task.isLive, Phase.attends]

variable [Evaluator σ] {move : Move}

/-- No move makes a difference but to echoes. -/
theorem Step.hushed (step : Step setting multiplexer move after)
    (ignores : definition.IgnoresOwn) (serving : multiplexer.Serving)
    (collected : multiplexer.Collected) (announced : multiplexer.Announced)
    (murmurs : multiplexer.Murmurs) : after.hushed = multiplexer.hushed := by
  obtain ⟨orderly, routing, uncancelled, isOpen⟩ := serving
  cases step with
  | evict completions _ => rw [murmurs.completions] at completions; cases completions
  | routeControl control _ _ => rw [murmurs.control] at control; cases control
  | noticeClosed _ _ closed => rw [isOpen] at closed; cases closed
  | noticeCancelled _ cancelled => rw [uncancelled] at cancelled; cases cancelled
  | finish stopping _ => rw [routing] at stopping; cases stopping
  | @routeInbound item rest _ items ready routed =>
    have echo := murmurs.isEcho_of_inbound (items ▸ List.mem_cons_self)
    rw [Routed.hushed routed echo (held_of_isReady ready)]
    simp [Multiplexer.hushed, items, echo]
  | @handOver parcel _ held _ _ handed =>
    have echo := murmurs.isEcho_of_held held
    have released : Multiplexer.hushed { multiplexer with held := none } = multiplexer.hushed := by
      simp [Multiplexer.hushed, held, Option.filter, echo]
    rw [← released]
    refine HandedOver.hushed handed ?_ ?_ ?_ echo
    · exact orderly.of_same rfl rfl (List.Subset.refl _) rfl
    · exact announced.of_same rfl rfl rfl
    · exact murmurs.of_hushed released
  | @work _ taskMove worker result found moved =>
    obtain ⟨member, _⟩ := worker?_some found
    rw [uncancelled] at moved
    obtain ⟨same, noted, unreported⟩ := moved.hushed ignores (collected.drained worker member)
      (orderly.isOpen worker member).1 (murmurs.rests_hushed member)
    rw [if_neg unreported, List.append_nil]
    have set := hushed_setTask orderly found same
    calc Multiplexer.hushed { multiplexer.setTask _ result.1 with
            ledger := result.2, completions := multiplexer.completions }
      _ = { (multiplexer.setTask _ result.1).hushed with ledger := result.2.surface } := rfl
      _ = { multiplexer.hushed with ledger := multiplexer.ledger.surface } := by rw [set, noted]
      _ = multiplexer.hushed := rfl

theorem Murmurs.reaches (murmurs : multiplexer.Murmurs) (ignores : definition.IgnoresOwn)
    (serving : multiplexer.Serving) (collected : multiplexer.Collected)
    (announced : multiplexer.Announced) (reaches : Reaches setting multiplexer after) :
    after.hushed = multiplexer.hushed := by
  obtain ⟨moves, ran⟩ := reaches
  induction moves generalizing multiplexer with
  | nil => cases ran; rfl
  | cons move rest ih =>
    obtain ⟨next, moved, later⟩ := Option.bind_eq_some_iff.mp ran
    have step := step_of_advance? moved
    have served := (serving.step step).1
    have same := step.hushed ignores serving collected announced murmurs
    have went := announced.step serving.orderly step served.routing
    exact (ih (murmurs.of_hushed same) served (collected.step step) went later).trans same

structure AtRest (multiplexer : Multiplexer definition σ) : Prop where
  quiet : multiplexer.Quiet
  collected : multiplexer.Collected
  announced : multiplexer.Announced

omit [Evaluator σ] in
theorem hushed_of_quiet (quiet : multiplexer.Quiet) : multiplexer.hushed = multiplexer.surface := by
  have workers : multiplexer.workers.map Worker.hushed =
      multiplexer.workers.map Worker.surface := by
    apply List.map_congr_left
    intro worker member
    rw [Worker.hushed, Task.hushed_of_rests (quiet.rests worker member)]
    rfl
  unfold hushed surface
  rw [workers, quiet.held]
  simp only [quiet.inbound, List.filter_nil, Option.filter_none]
  rw [← quiet.inbound]

namespace AtRest

variable {items : List Notification}

omit [Evaluator σ] in
theorem initial : (Multiplexer.initial definition σ).AtRest :=
  ⟨.initial, .initial, .initial⟩

omit [Evaluator σ] in
theorem hushed_entered (atRest : multiplexer.AtRest) (echoes : ∀ item ∈ items, item.isEcho = true) :
    hushed { multiplexer with inbound := { multiplexer.inbound with items } } =
      multiplexer.surface := by
  have none : items.filter (fun item => !item.isEcho) = [] := by
    simpa [List.filter_eq_nil_iff] using echoes
  rw [← hushed_of_quiet atRest.quiet, hushed, hushed]
  simp only [none, atRest.quiet.inbound, List.filter_nil]

omit [Evaluator σ] in
theorem murmurs (atRest : multiplexer.AtRest) (echoes : ∀ item ∈ items, item.isEcho = true) :
    Murmurs { multiplexer with inbound := { multiplexer.inbound with items } } := by
  have same := atRest.hushed_entered echoes
  refine ⟨?_, ?_, atRest.quiet.control, ?_, atRest.quiet.completions⟩
  · rw [same]
    intro worker member
    obtain ⟨other, inside, rfl⟩ := List.mem_map.mp member
    exact (atRest.quiet.rests other inside : other.task.surface.Rests)
  · rw [same]
    exact atRest.quiet.inbound
  · rw [same]
    exact atRest.quiet.held

/-- Of echoes that come in at rest nothing shows at the next rest. -/
theorem echoes (atRest : multiplexer.AtRest) (ignores : definition.IgnoresOwn)
    (room : 0 < setting.capacity) (echoes : ∀ item ∈ items, item.isEcho = true)
    (reaches : Reaches setting
      { multiplexer with inbound := { multiplexer.inbound with items } } after)
    (idle : after.isIdle setting = true) : after.surface = multiplexer.surface := by
  obtain ⟨orderly, routing, uncancelled, isOpen⟩ := atRest.quiet.serving
  have serving : Serving { multiplexer with inbound := { multiplexer.inbound with items } } :=
    ⟨orderly.of_same rfl rfl (List.Subset.refl _) rfl, routing, uncancelled, isOpen⟩
  have collected : Collected { multiplexer with inbound := { multiplexer.inbound with items } } :=
    atRest.collected.of_same rfl (.inl rfl)
  have announced : Announced { multiplexer with inbound := { multiplexer.inbound with items } } :=
    atRest.announced.of_same rfl rfl rfl
  calc after.surface
    _ = after.hushed := (hushed_of_quiet ((reaches.serving serving).quiet room idle)).symm
    _ = hushed { multiplexer with inbound := { multiplexer.inbound with items } } :=
      (atRest.murmurs echoes).reaches ignores serving collected announced reaches
    _ = multiplexer.surface := atRest.hushed_entered echoes

end AtRest
end Multiplexer
end Parley
