import Mathlib.Data.List.Nodup
import Parley.Lua.Evaluator
import Parley.Proofs.Multiplexer.Step
/-!
The table and the conversations.

For as long as items are routed, each conversation that runs stands in the table under its
connection, and so there is at most one for a connection. It leaves the table in two ways only: by
the news of its end, which names its generation, and when it takes an item no more.
-/

namespace Parley.Multiplexer

variable {definition : Definition} {σ : Type} {setting : Setting σ}
  {multiplexer after : Multiplexer definition σ} {worker : Worker definition σ}
  {connection : String} {generation : Nat}

theorem worker?_some (found : multiplexer.worker? generation = some worker) :
    worker ∈ multiplexer.workers ∧ worker.generation = generation :=
  ⟨List.mem_of_find?_eq_some found, by simpa using List.find?_some found⟩

theorem holder?_some (found : multiplexer.holder? connection = some worker) :
    worker ∈ multiplexer.workers ∧
      multiplexer.table.get? connection = some worker.generation := by
  obtain ⟨generation, entry, here⟩ := Option.bind_eq_some_iff.mp found
  obtain ⟨member, same⟩ := worker?_some here
  exact ⟨member, same ▸ entry⟩

theorem worker?_of_holder? (found : multiplexer.holder? connection = some worker) :
    multiplexer.worker? worker.generation = some worker := by
  obtain ⟨generation, _, here⟩ := Option.bind_eq_some_iff.mp found
  rw [(worker?_some here).2]
  exact here

theorem worker?_of_distinct (distinct : (multiplexer.workers.map Worker.generation).Nodup)
    (member : worker ∈ multiplexer.workers) :
    multiplexer.worker? worker.generation = some worker := by
  cases found : multiplexer.worker? worker.generation with
  | none => simpa using List.find?_eq_none.mp found worker member
  | some other =>
    obtain ⟨present, same⟩ := worker?_some found
    rw [List.inj_on_of_nodup_map distinct present member same]

def IsAlone (multiplexer : Multiplexer definition σ) (connection : String) : Prop :=
  ∀ worker ∈ multiplexer.workers, worker.connection = connection → worker.task.isLive = false

/-- How the table, the conversations and the news of their ends go together while items are
routed. -/
structure Orderly (multiplexer : Multiplexer definition σ) : Prop where
  distinct : (multiplexer.workers.map Worker.generation).Nodup
  below : ∀ worker ∈ multiplexer.workers, worker.generation < multiplexer.nextGeneration
  entry : ∀ connection generation, multiplexer.table.get? connection = some generation →
    ∃ worker ∈ multiplexer.workers,
      worker.generation = generation ∧ worker.connection = connection
  live : ∀ worker ∈ multiplexer.workers, worker.task.isLive = true →
    multiplexer.table.get? worker.connection = some worker.generation
  isOpen : ∀ worker ∈ multiplexer.workers,
    worker.task.notifications.isOpen = true ∧ worker.task.hooks.isOpen = true
  news : ∀ completion ∈ multiplexer.completions, ∃ worker ∈ multiplexer.workers,
    worker.generation = completion.generation ∧ worker.task.isLive = false

theorem complete_eq (completion : Completion) (multiplexer : Multiplexer definition σ) :
    multiplexer.complete completion =
      { multiplexer with
        table :=
          if multiplexer.table.get? completion.connection = some completion.generation then
            multiplexer.table.erase completion.connection
          else multiplexer.table
        ledger := multiplexer.ledger.noteCompletion } := by
  unfold complete note
  dsimp only
  split <;> rfl

theorem complete_frame (completion : Completion) (multiplexer : Multiplexer definition σ) :
    (multiplexer.complete completion).workers = multiplexer.workers ∧
      (multiplexer.complete completion).stage = multiplexer.stage ∧
      (multiplexer.complete completion).held = multiplexer.held := by
  rw [complete_eq]
  exact ⟨rfl, rfl, rfl⟩

theorem exists_finish (multiplexer : Multiplexer definition σ) :
    ∃ table ledger, multiplexer.finish =
      { multiplexer with table, ledger, completions := [], stage := .stopped } := by
  have told (completions : List Completion) (before : Multiplexer definition σ) :
      ∃ table ledger, completions.foldl (fun held completion => held.complete completion) before =
        { before with table, ledger } := by
    induction completions generalizing before with
    | nil => exact ⟨before.table, before.ledger, rfl⟩
    | cons completion rest ih =>
      obtain ⟨table, ledger, same⟩ := ih (before.complete completion)
      refine ⟨table, ledger, ?_⟩
      rw [List.foldl_cons, same, complete_eq]
  obtain ⟨table, ledger, same⟩ := told multiplexer.completions multiplexer
  exact ⟨table, ledger, by rw [finish, same]⟩

theorem forall_setTask {P : Task definition σ → Prop} {generation : Nat}
    {task : Task definition σ} (new : P task)
    (old : ∀ worker ∈ multiplexer.workers, P worker.task) :
    ∀ worker ∈ (multiplexer.setTask generation task).workers, P worker.task := by
  intro worker member
  obtain ⟨other, inside, rfl⟩ := List.mem_map.mp member
  split
  next => exact new
  next => exact old other inside

theorem exists_setTask_split
    (distinct : (multiplexer.workers.map Worker.generation).Nodup)
    (found : multiplexer.worker? generation = some worker) (task : Task definition σ) :
    ∃ before later, multiplexer.workers = before ++ worker :: later ∧
      (multiplexer.setTask generation task).workers =
        before ++ { worker with task } :: later := by
  obtain ⟨member, own⟩ := worker?_some found
  obtain ⟨before, later, split⟩ := List.append_of_mem member
  rw [split, List.map_append, List.map_cons] at distinct
  have apart := List.nodup_middle.mp distinct
  -- The generation occurs once, so the map over all conversations changes this one only.
  have others : ∀ other ∈ before ++ later, other.generation ≠ generation := by
    intro other inside same
    apply (List.nodup_cons.mp apart).1
    rw [← List.map_append]
    exact List.mem_map.mpr ⟨other, inside, same.trans own.symm⟩
  have unchanged {list : List (Worker definition σ)}
      (away : ∀ other ∈ list, other.generation ≠ generation) :
      (list.map fun other =>
        if other.generation = generation then { other with task } else other) = list := by
    conv_rhs => rw [← List.map_id list]
    exact List.map_congr_left fun other inside => if_neg (away other inside)
  refine ⟨before, later, split, ?_⟩
  simp only [setTask, split, List.map_append, List.map_cons, if_pos own]
  rw [unchanged fun other inside => others other (List.mem_append_left _ inside),
    unchanged fun other inside => others other (List.mem_append_right _ inside)]

namespace Orderly

theorem initial : (Multiplexer.initial definition σ).Orderly where
  distinct := List.nodup_nil
  below := by simp [Multiplexer.initial]
  entry := by simp [Multiplexer.initial]
  live := by simp [Multiplexer.initial]
  isOpen := by simp [Multiplexer.initial]
  news := by simp [Multiplexer.initial]

theorem of_same (orderly : multiplexer.Orderly) (workers : after.workers = multiplexer.workers)
    (table : after.table = multiplexer.table)
    (completions : after.completions ⊆ multiplexer.completions)
    (next : after.nextGeneration = multiplexer.nextGeneration) : after.Orderly where
  distinct := workers ▸ orderly.distinct
  below := by rw [workers, next]; exact orderly.below
  entry := by rw [workers, table]; exact orderly.entry
  live := by rw [workers, table]; exact orderly.live
  isOpen := by rw [workers]; exact orderly.isOpen
  news := fun completion member => by rw [workers]; exact orderly.news _ (completions member)

theorem eq_of_generation (orderly : multiplexer.Orderly) {first second : Worker definition σ}
    (left : first ∈ multiplexer.workers) (right : second ∈ multiplexer.workers)
    (same : first.generation = second.generation) : first = second :=
  List.inj_on_of_nodup_map orderly.distinct left right same

theorem worker?_of_mem (orderly : multiplexer.Orderly)
    (member : worker ∈ multiplexer.workers) :
    multiplexer.worker? worker.generation = some worker :=
  worker?_of_distinct orderly.distinct member

theorem holder? (orderly : multiplexer.Orderly)
    (entry : multiplexer.table.get? connection = some generation) :
    ∃ worker, multiplexer.holder? connection = some worker ∧ worker.generation = generation ∧
      worker.connection = connection := by
  obtain ⟨worker, member, same, own⟩ := orderly.entry connection generation entry
  refine ⟨worker, ?_, same, own⟩
  rw [Multiplexer.holder?, entry, ← same]
  exact orderly.worker?_of_mem member

theorem connection_of_holder? (orderly : multiplexer.Orderly)
    (found : multiplexer.holder? connection = some worker) : worker.connection = connection := by
  obtain ⟨other, here, _, own⟩ := orderly.holder? (holder?_some found).2
  have same : other = worker := Option.some.inj (here.symm.trans found)
  exact same ▸ own

theorem setTask_split (orderly : multiplexer.Orderly)
    (found : multiplexer.worker? generation = some worker) (task : Task definition σ) :
    ∃ before later, multiplexer.workers = before ++ worker :: later ∧
      (multiplexer.setTask generation task).workers =
        before ++ { worker with task } :: later :=
  exists_setTask_split orderly.distinct found task

theorem mem_setTask (orderly : multiplexer.Orderly)
    (found : multiplexer.worker? generation = some worker) {task : Task definition σ}
    {other : Worker definition σ}
    (member : other ∈ (multiplexer.setTask generation task).workers) :
    other = { worker with task } ∨ other ∈ multiplexer.workers := by
  obtain ⟨before, later, split, changed⟩ := orderly.setTask_split found task
  rw [changed] at member
  rw [split]
  simp only [List.mem_append, List.mem_cons] at member ⊢
  tauto

theorem setTask (orderly : multiplexer.Orderly)
    (found : multiplexer.worker? generation = some worker) {task : Task definition σ}
    (connection : task.conversation.connection = worker.connection)
    (live : task.isLive = true → worker.task.isLive = true)
    (isOpen : task.notifications.isOpen = true ∧ task.hooks.isOpen = true) :
    (multiplexer.setTask generation task).Orderly := by
  obtain ⟨before, later, split, changed⟩ := orderly.setTask_split found task
  have kept : ∀ other ∈ multiplexer.workers,
      other = worker ∨ other ∈ (multiplexer.setTask generation task).workers := by
    intro other member
    rw [split] at member
    rw [changed]
    simp only [List.mem_append, List.mem_cons] at member ⊢
    tauto
  have own : { worker with task } ∈ (multiplexer.setTask generation task).workers := by
    rw [changed]
    exact List.mem_append_right _ List.mem_cons_self
  have member := (worker?_some found).1
  refine ⟨?_, ?_, ?_, ?_, ?_, ?_⟩
  · have distinct := orderly.distinct
    rw [split] at distinct
    rw [changed]
    simpa using distinct
  · intro other inside
    rcases orderly.mem_setTask found inside with rfl | inside
    · exact orderly.below worker member
    · exact orderly.below other inside
  · intro name number entry
    obtain ⟨other, inside, same, here⟩ := orderly.entry name number entry
    rcases kept other inside with rfl | inside
    · exact ⟨_, own, same, connection.trans here⟩
    · exact ⟨other, inside, same, here⟩
  · intro other inside runs
    rcases orderly.mem_setTask found inside with rfl | inside
    · show multiplexer.table.get? task.conversation.connection = some worker.generation
      rw [connection]
      exact orderly.live worker member (live runs)
    · exact orderly.live other inside runs
  · intro other inside
    rcases orderly.mem_setTask found inside with rfl | inside
    · exact isOpen
    · exact orderly.isOpen other inside
  · intro completion told
    obtain ⟨other, inside, same, gone⟩ := orderly.news completion told
    rcases kept other inside with rfl | inside
    · refine ⟨_, own, same, ?_⟩
      cases runs : task.isLive with
      | false => rfl
      | true => exact absurd (live runs) (by simp [gone])
    · exact ⟨other, inside, same, gone⟩

theorem spawn (orderly : multiplexer.Orderly) (setting : Setting σ)
    (absent : multiplexer.table.get? connection = none) :
    (multiplexer.spawn setting connection).Orderly := by
  refine ⟨?_, ?_, ?_, ?_, ?_, ?_⟩
  · simp only [Multiplexer.spawn, note, List.map_append, List.map_cons, List.map_nil]
    refine List.nodup_append.mpr ⟨orderly.distinct, by simp, ?_⟩
    intro generation old fresh new same
    obtain ⟨worker, member, rfl⟩ := List.mem_map.mp old
    have less := orderly.below worker member
    simp only [List.mem_singleton] at new
    omega
  · intro worker member
    simp only [Multiplexer.spawn, note, List.mem_append, List.mem_singleton] at member ⊢
    rcases member with old | rfl
    · exact Nat.lt_succ_of_lt (orderly.below worker old)
    · exact Nat.lt_succ_self _
  · intro name generation entry
    simp only [Multiplexer.spawn, note, TextMap.get?_insert] at entry ⊢
    split at entry
    next same =>
      cases entry
      exact ⟨_, List.mem_append_right _ List.mem_cons_self, rfl, same.symm⟩
    next =>
      obtain ⟨worker, member, holds⟩ := orderly.entry name generation entry
      exact ⟨worker, List.mem_append_left _ member, holds⟩
  · intro worker member runs
    simp only [Multiplexer.spawn, note, List.mem_append, List.mem_singleton,
      TextMap.get?_insert] at member ⊢
    rcases member with old | rfl
    · have entry := orderly.live worker old runs
      rw [if_neg (fun same => by simp [same, absent] at entry)]
      exact entry
    · exact if_pos rfl
  · intro worker member
    simp only [Multiplexer.spawn, note, List.mem_append, List.mem_singleton] at member
    rcases member with old | rfl
    · exact orderly.isOpen worker old
    · exact ⟨rfl, rfl⟩
  · intro completion told
    obtain ⟨worker, member, holds⟩ := orderly.news completion told
    exact ⟨worker, List.mem_append_left _ member, holds⟩

theorem erase (orderly : multiplexer.Orderly) (alone : multiplexer.IsAlone connection) :
    Orderly { multiplexer with table := multiplexer.table.erase connection } := by
  refine ⟨orderly.distinct, orderly.below, ?_, ?_, orderly.isOpen, orderly.news⟩
  · intro name generation entry
    simp only [TextMap.get?_erase] at entry
    split at entry
    next => cases entry
    next => exact orderly.entry name generation entry
  · intro worker member runs
    have here : worker.connection ≠ connection := by
      intro same
      rw [alone worker member same] at runs
      cases runs
    simp only [TextMap.get?_erase, if_neg here]
    exact orderly.live worker member runs

/-- What runs with a connection stands in the table under it. -/
theorem isAlone_of_absent (orderly : multiplexer.Orderly)
    (absent : multiplexer.table.get? connection = none) : multiplexer.IsAlone connection := by
  intro worker member same
  cases runs : worker.task.isLive with
  | false => rfl
  | true =>
    have entry := orderly.live worker member runs
    rw [same, absent] at entry
    cases entry

theorem isAlone_of_entry (orderly : multiplexer.Orderly) {last : Worker definition σ}
    (member : last ∈ multiplexer.workers)
    (entry : multiplexer.table.get? connection = some last.generation)
    (gone : last.task.isLive = false) : multiplexer.IsAlone connection := by
  intro worker inside same
  cases runs : worker.task.isLive with
  | false => rfl
  | true =>
    have own := orderly.live worker inside runs
    rw [same, entry] at own
    have one := orderly.eq_of_generation member inside (Option.some.inj own)
    rw [← one, gone] at runs
    cases runs

theorem picked {item : Notification} {attempts : Nat} (orderly : multiplexer.Orderly)
    (picked : Picked setting item connection multiplexer attempts after) : after.Orderly := by
  cases picked with
  | exhausted => exact orderly.of_same rfl rfl (List.Subset.refl _) rfl
  | dismissed _ _ => exact orderly.of_same rfl rfl (List.Subset.refl _) rfl
  | found _ => exact orderly.of_same rfl rfl (List.Subset.refl _) rfl
  | started absent _ =>
    exact (orderly.spawn setting absent).of_same rfl rfl (List.Subset.refl _) rfl

theorem routed {item : Notification} (orderly : multiplexer.Orderly)
    (routed : Routed setting item multiplexer after) : after.Orderly := by
  cases routed with
  | keptAlive _ => exact orderly.of_same rfl rfl (List.Subset.refl _) rfl
  | picked _ picked =>
    refine Orderly.picked ?_ picked
    exact orderly.of_same rfl rfl (List.Subset.refl _) rfl

theorem handedOver {parcel : Parcel} (orderly : multiplexer.Orderly)
    (handed : HandedOver setting parcel multiplexer after) : after.Orderly := by
  cases handed with
  | nowhere _ => exact orderly
  | @delivered worker task found delivered =>
    obtain ⟨member, _⟩ := holder?_some found
    have given := Task.deliver?_delivered delivered
    refine orderly.setTask (worker?_of_holder? found) ?_ (fun _ => given.live) ?_
    · exact congrArg Conversation.connection given.conversation
    · rw [given.isOpen.1, given.isOpen.2]
      exact orderly.isOpen worker member
  | @refused worker _ found refused picked =>
    obtain ⟨member, entry⟩ := holder?_some found
    have gone := Task.isLive_of_deliver?_none (orderly.isOpen worker member) refused
    exact Orderly.picked (orderly.erase (orderly.isAlone_of_entry member entry gone)) picked

/-- The news of an end takes away the entry of that conversation only. -/
theorem complete {completion : Completion} (orderly : multiplexer.Orderly)
    (told : ∃ worker ∈ multiplexer.workers,
      worker.generation = completion.generation ∧ worker.task.isLive = false) :
    (multiplexer.complete completion).Orderly := by
  unfold Multiplexer.complete
  dsimp only
  have noted : (multiplexer.note .noteCompletion).Orderly :=
    orderly.of_same rfl rfl (List.Subset.refl _) rfl
  split
  next entry =>
    obtain ⟨worker, member, same, gone⟩ := told
    exact noted.erase (noted.isAlone_of_entry member (same.symm ▸ entry) gone)
  next => exact noted

variable [Evaluator σ] {move : Move}

theorem work {taskMove : Task.Move} {result : Task definition σ × Ledger}
    (orderly : multiplexer.Orderly) (found : multiplexer.worker? generation = some worker)
    (step : worker.task.Step setting.client multiplexer.isCancelled multiplexer.ledger taskMove
      result) :
    Orderly
      { multiplexer.setTask generation result.1 with
        ledger := result.2
        completions :=
          multiplexer.completions ++
            if taskMove = .report then [⟨worker.connection, generation⟩] else [] } := by
  obtain ⟨member, own⟩ := worker?_some found
  have opened := orderly.isOpen worker member
  have set := orderly.setTask found step.connection step.isLive
    (by rw [step.isOpen.1, step.isOpen.2]; exact opened)
  refine ⟨set.distinct, set.below, set.entry, set.live, set.isOpen, ?_⟩
  intro completion told
  rcases List.mem_append.mp told with old | new
  · exact set.news completion old
  · split at new
    next report =>
      subst report
      obtain ⟨_, _, _, changed⟩ := orderly.setTask_split found result.1
      refine ⟨{ worker with task := result.1 }, ?_, ?_, ?_⟩
      · show _ ∈ (multiplexer.setTask generation result.1).workers
        rw [changed]
        exact List.mem_append_right _ List.mem_cons_self
      · rw [List.mem_singleton.mp new]
        exact own
      · simp only [Task.isLive, step.reported]
    next => cases new

end Orderly

theorem stage_of_isReady (ready : multiplexer.isReady = true) : multiplexer.stage = .routing := by
  simp only [isReady, Bool.and_eq_true, decide_eq_true_eq] at ready
  exact ready.1

theorem held_of_isReady (ready : multiplexer.isReady = true) : multiplexer.held = none := by
  simp only [isReady, Bool.and_eq_true, Option.isNone_iff_eq_none] at ready
  exact ready.2

variable [Evaluator σ] {move : Move}

theorem Step.routing (step : Step setting multiplexer move after)
    (routing : after.stage = .routing) : multiplexer.stage = .routing := by
  cases step with
  | evict _ ready => exact stage_of_isReady ready
  | routeInbound _ ready _ => exact stage_of_isReady ready
  | routeControl _ ready _ => exact stage_of_isReady ready
  | handOver _ routing _ _ => exact routing
  | noticeClosed ready _ _ => exact stage_of_isReady ready
  | noticeCancelled ready _ => exact stage_of_isReady ready
  | finish _ _ => cases routing
  | work _ _ => exact routing

theorem Orderly.step (orderly : multiplexer.Orderly) (step : Step setting multiplexer move after)
    (routing : after.stage = .routing) : after.Orderly := by
  cases step with
  | evict completions _ =>
    refine Orderly.complete ?_ (orderly.news _ (completions ▸ List.mem_cons_self))
    exact orderly.of_same rfl rfl (completions ▸ List.subset_cons_self _ _) rfl
  | routeInbound _ _ routed =>
    refine Orderly.routed ?_ routed
    exact orderly.of_same rfl rfl (List.Subset.refl _) rfl
  | routeControl _ _ routed =>
    refine Orderly.routed ?_ routed
    exact orderly.of_same rfl rfl (List.Subset.refl _) rfl
  | handOver _ _ _ handed =>
    refine Orderly.handedOver ?_ handed
    exact orderly.of_same rfl rfl (List.Subset.refl _) rfl
  | noticeClosed _ _ _ => cases routing
  | noticeCancelled _ _ => cases routing
  | finish _ _ => cases routing
  | work found moved => exact orderly.work found moved

theorem occur?_routing {occurrence : Occurrence}
    (occurred : multiplexer.occur? setting occurrence = some after)
    (routing : after.stage = .routing) : multiplexer.stage = .routing := by
  cases occurrence with
  | moved move => exact (step_of_advance? occurred).routing routing
  | _ => exact (untouched_of_occur? (by simp) occurred).stage.symm.trans routing

theorem Orderly.occur {occurrence : Occurrence} (orderly : multiplexer.Orderly)
    (occurred : multiplexer.occur? setting occurrence = some after)
    (routing : after.stage = .routing) : after.Orderly := by
  cases occurrence with
  | moved move => exact orderly.step (step_of_advance? occurred) routing
  | _ =>
    obtain ⟨workers, table, completions, next, _, _⟩ := untouched_of_occur? (by simp) occurred
    exact orderly.of_same workers table (completions ▸ List.Subset.refl _) next

theorem run?_routing {occurrences : List Occurrence}
    (ran : multiplexer.run? setting occurrences = some after)
    (routing : after.stage = .routing) : multiplexer.stage = .routing := by
  induction occurrences generalizing multiplexer with
  | nil => cases ran; exact routing
  | cons occurrence rest ih =>
    obtain ⟨next, occurred, later⟩ := Option.bind_eq_some_iff.mp ran
    exact occur?_routing occurred (ih later)

/-- Whatever happens, all stays in order for as long as items are routed. -/
theorem Orderly.run {occurrences : List Occurrence} (orderly : multiplexer.Orderly)
    (ran : multiplexer.run? setting occurrences = some after)
    (routing : after.stage = .routing) : after.Orderly := by
  induction occurrences generalizing multiplexer with
  | nil => cases ran; exact orderly
  | cons occurrence rest ih =>
    obtain ⟨next, occurred, later⟩ := Option.bind_eq_some_iff.mp ran
    exact ih (orderly.occur occurred (run?_routing later routing)) later

/-- At most one conversation for a connection runs at a time, the table holds all that run, and late
news of an earlier one takes away none of them. -/
theorem one_conversation_per_connection {occurrences : List Occurrence}
    (ran : (initial definition σ).run? setting occurrences = some multiplexer)
    (routing : multiplexer.stage = .routing) :
    (multiplexer.workers.map Worker.generation).Nodup ∧
      (∀ worker ∈ multiplexer.workers, worker.task.isLive = true →
        multiplexer.table.get? worker.connection = some worker.generation ∧
          multiplexer.holder? worker.connection = some worker) ∧
      (∀ first ∈ multiplexer.workers, ∀ second ∈ multiplexer.workers,
        first.task.isLive = true → second.task.isLive = true →
          first.connection = second.connection → first = second) ∧
      ∀ after, multiplexer.advance? setting .evict = some after →
        ∀ worker ∈ multiplexer.workers, worker.task.isLive = true →
          after.holder? worker.connection = some worker := by
  have orderly : multiplexer.Orderly := Orderly.initial.run ran routing
  have held {state : Multiplexer definition σ} (holds : state.Orderly) :
      ∀ worker ∈ state.workers, worker.task.isLive = true →
        state.holder? worker.connection = some worker := by
    intro worker member runs
    obtain ⟨other, found, same, _⟩ := holds.holder? (holds.live worker member runs)
    rw [found, holds.eq_of_generation (holder?_some found).1 member same]
  refine ⟨orderly.distinct, ?_, ?_, ?_⟩
  · intro worker member runs
    exact ⟨orderly.live worker member runs, held orderly worker member runs⟩
  · intro first left second right firstRuns secondRuns same
    have entry := orderly.live first left firstRuns
    rw [same, orderly.live second right secondRuns] at entry
    exact orderly.eq_of_generation left right (Option.some.inj entry).symm
  · intro after evicted worker member runs
    cases step_of_advance? evicted with
    | @evict completion rest completions ready =>
      obtain ⟨workers, stage, _⟩ :=
        complete_frame completion { multiplexer with completions := rest }
      have step : Step setting multiplexer .evict _ := .evict completions ready
      have later := orderly.step step (stage.trans routing)
      exact held later worker (by rw [workers]; exact member) runs

def spacious : Setting Lua.State where
  client := .refusing fun _ => false
  capacity := 16
  scripts := .initial
  pins _ _ := .constant (Fin.last 999999)

/-- A conversation ends, and before the news of it is heard another message comes in. -/
def respawn : List Occurrence :=
  [.offered (.status (.message "c" "p" "bye")), .moved .routeInbound, .moved .handOver,
    .moved (.work 0 .begin), .moved (.work 0 .takeNotification), .moved (.work 0 .handle),
    .moved (.work 0 .report), .offered (.status (.message "c" "p" "hello")),
    .moved .routeInbound, .moved .handOver, .moved .handOver]

/-- The news of the first conversation still comes, and the second one stays. -/
theorem respawned_stays :
    ∃ multiplexer : Multiplexer .clerk Lua.State,
      (initial .clerk Lua.State).run? spacious respawn = some multiplexer ∧
        multiplexer.stage = .routing ∧ multiplexer.completions = [⟨"c", 0⟩] ∧
        (multiplexer.workers.map fun worker => (worker.generation, worker.task.isLive)) =
          [(0, false), (1, true)] ∧
        ∀ after, multiplexer.advance? spacious .evict = some after →
          ∀ worker ∈ multiplexer.workers, worker.task.isLive = true →
            after.holder? worker.connection = some worker := by
  have seen : (((initial .clerk Lua.State).run? spacious respawn).map fun multiplexer =>
      (multiplexer.stage, multiplexer.completions,
        multiplexer.workers.map fun worker => (worker.generation, worker.task.isLive))) =
      some (.routing, [⟨"c", 0⟩], [(0, false), (1, true)]) := by decide +kernel
  obtain ⟨multiplexer, ran, same⟩ := Option.map_eq_some_iff.mp seen
  simp only [Prod.mk.injEq] at same
  have single := one_conversation_per_connection ran same.1
  exact ⟨multiplexer, ran, same.1, same.2.1, same.2.2, single.2.2.2⟩

end Parley.Multiplexer
