import Parley.Proofs.Multiplexer.Mirror
/-!
Runs of two multiplexers in step with each other.

What one can come to by its moves the other can come to as well. If both settle they make the same
choices, and so they stay in step until they rest; conversations with other connections do not
count, since they have no move.
-/

namespace Parley

theorem rel_imp {α β : Type} {R S : α → β → Prop} {left : Option α} {right : Option β}
    (related : Option.Rel R left right)
    (implies : ∀ first second, left = some first → right = some second → R first second →
      S first second) : Option.Rel S left right := by
  cases related with
  | none => exact .none
  | some both => exact .some (implies _ _ rfl rfl both)

theorem rel_findSome? {α β γ : Type} {R : α → β → Prop} {first : γ → Option α}
    {second : γ → Option β} {choices : List γ}
    (related : ∀ choice ∈ choices, Option.Rel R (first choice) (second choice)) :
    Option.Rel R (choices.findSome? first) (choices.findSome? second) := by
  induction choices with
  | nil => exact .none
  | cons choice rest ih =>
    have head := related choice List.mem_cons_self
    rw [List.findSome?_cons, List.findSome?_cons]
    generalize first choice = left at head ⊢
    generalize second choice = right at head ⊢
    cases head with
    | none => exact ih fun other member => related other (List.mem_cons_of_mem _ member)
    | some both => exact .some both

theorem exists_right_of_rel {α β : Type} {R : α → β → Prop} {left : Option α} {right : Option β}
    {first : α} (related : Option.Rel R left right) (some : left = some first) :
    ∃ second, right = .some second ∧ R first second := by
  cases related with
  | none => cases some
  | some both =>
    cases some
    exact ⟨_, rfl, both⟩

theorem exists_left_of_rel {α β : Type} {R : α → β → Prop} {left : Option α} {right : Option β}
    {second : β} (related : Option.Rel R left right) (some : right = some second) :
    ∃ first, left = .some first ∧ R first second := by
  cases related with
  | none => cases some
  | some both =>
    cases some
    exact ⟨_, rfl, both⟩

theorem isNone_of_rel {α β : Type} {R : α → β → Prop} {left : Option α} {right : Option β}
    (related : Option.Rel R left right) : right.isNone = left.isNone := by
  cases related <;> rfl

namespace Multiplexer

variable {definition : Definition} {σ : Type} {setting : Setting σ}
  {multiplexer after here there : Multiplexer definition σ} {connection : String}
  {names : Nat → Nat} {worker : Worker definition σ} {generation : Nat}

structure Twins (connection : String) (names : Nat → Nat)
    (here there : Multiplexer definition σ) : Prop where
  left : here.Busy connection
  right : there.Busy connection
  mirrors : Mirrors connection names here there

def Paired (connection : String) (here there : Multiplexer definition σ) : Prop :=
  ∃ names, Twins connection names here there

def Has (connection : String) (generation : Nat) (multiplexer : Multiplexer definition σ) : Prop :=
  ∃ worker ∈ multiplexer.own connection, worker.generation = generation

variable [Evaluator σ] {move : Move} {refuses : Call → Option ClientError}

theorem Busy.step (busy : multiplexer.Busy connection)
    (client : setting.client = .deciding refuses) (step : Step setting multiplexer move after) :
    after.Busy connection :=
  ⟨(busy.serving.step step).1, (busy.devoted.step busy.serving client step).devoted⟩

theorem Busy.reaches (busy : multiplexer.Busy connection)
    (client : setting.client = .deciding refuses) (reaches : Reaches setting multiplexer after) :
    after.Busy connection :=
  ⟨reaches.serving busy.serving, (busy.devoted.reaches busy.serving client reaches).devoted⟩

theorem Busy.stuck (busy : multiplexer.Busy connection) (setting : Setting σ)
    (found : multiplexer.worker? generation = some worker)
    (foreign : worker.connection ≠ connection) :
    multiplexer.nextOfWorker? setting generation = none := by
  refine busy.serving.nextOfWorker?_of_rests fun other here => ?_
  cases found.symm.trans here
  exact busy.devoted.others worker (worker?_some found).1 foreign

theorem Has.work {changed : Nat} {taskMove : Task.Move}
    (has : Has connection generation multiplexer) (orderly : multiplexer.Orderly)
    (step : Step setting multiplexer (.work changed taskMove) after) :
    Has connection generation after := by
  obtain ⟨worker, inside, same⟩ := has
  cases step with
  | work found moved =>
    obtain ⟨later, stays, alike⟩ := orderly.exists_own_setTask found moved.connection inside
    exact ⟨later, stays, alike.trans same⟩

namespace Twins

theorem router (twins : Twins connection names here there)
    (client : setting.client = .deciding refuses) (router : move ∈ routerMoves) :
    Option.Rel (Paired connection) (here.advance? setting move) (there.advance? setting move) :=
  rel_imp (twins.mirrors.router twins.left twins.right setting router)
    fun _ _ moved also ⟨names, mirrors⟩ =>
      ⟨names, twins.left.step client (step_of_advance? moved),
        twins.right.step client (step_of_advance? also), mirrors⟩

theorem work? (twins : Twins connection names here there)
    (client : setting.client = .deciding refuses) (has : Has connection generation here)
    (taskMove : Task.Move) :
    Option.Rel (Twins connection names) (here.work? setting generation taskMove)
      (there.work? setting (names generation) taskMove) := by
  obtain ⟨worker, inside, rfl⟩ := has
  exact rel_imp (twins.mirrors.work? twins.left twins.right client inside taskMove)
    fun _ _ moved also mirrors =>
      ⟨twins.left.step client (work?_step moved), twins.right.step client (work?_step also),
        mirrors⟩

/-- Whatever one does next the other can do, under its own names. -/
theorem forth (twins : Twins connection names here there)
    (client : setting.client = .deciding refuses)
    (moved : here.advance? setting move = some after) :
    ∃ other later, there.advance? setting other = some later ∧ Paired connection after later := by
  by_cases router : move ∈ routerMoves
  · obtain ⟨later, also, paired⟩ := exists_right_of_rel (twins.router client router) moved
    exact ⟨move, later, also, paired⟩
  · cases step_of_advance? moved with
    | @work generation taskMove worker result found went =>
      have concerned := twins.left.devoted.concerned twins.left.serving.orderly
        twins.left.serving.uncancelled found went
      obtain ⟨member, same⟩ := worker?_some found
      have has : Has connection generation here := ⟨worker, mem_own.mpr ⟨member, concerned⟩, same⟩
      obtain ⟨later, also, both⟩ := exists_right_of_rel (twins.work? client has taskMove) moved
      exact ⟨.work (names generation) taskMove, later, also, names, both⟩
    | _ => simp [routerMoves] at router

theorem back (twins : Twins connection names here there)
    (client : setting.client = .deciding refuses)
    (moved : there.advance? setting move = some after) :
    ∃ other later, here.advance? setting other = some later ∧ Paired connection later after := by
  by_cases router : move ∈ routerMoves
  · obtain ⟨later, also, paired⟩ := exists_left_of_rel (twins.router client router) moved
    exact ⟨move, later, also, paired⟩
  · cases step_of_advance? moved with
    | @work generation taskMove worker result found went =>
      have concerned := twins.right.devoted.concerned twins.right.serving.orderly
        twins.right.serving.uncancelled found went
      obtain ⟨member, same⟩ := worker?_some found
      have inside := mem_own.mpr ⟨member, concerned⟩
      rw [twins.mirrors.own] at inside
      obtain ⟨original, present, named⟩ := List.mem_map.mp inside
      have own : names original.generation = generation :=
        (congrArg Worker.generation named).trans same
      subst own
      have has : Has connection original.generation here := ⟨original, present, rfl⟩
      obtain ⟨later, also, both⟩ := exists_left_of_rel (twins.work? client has taskMove) moved
      exact ⟨.work original.generation taskMove, later, also, names, both⟩
    | _ => simp [routerMoves] at router

end Twins

namespace Paired

theorem forth (paired : Paired connection here there)
    (client : setting.client = .deciding refuses) (reaches : Reaches setting here after) :
    ∃ later, Reaches setting there later ∧ Paired connection after later := by
  obtain ⟨moves, ran⟩ := reaches
  induction moves generalizing here there with
  | nil => cases ran; exact ⟨there, .refl _, paired⟩
  | cons move rest ih =>
    obtain ⟨next, moved, ran⟩ := Option.bind_eq_some_iff.mp ran
    obtain ⟨names, twins⟩ := paired
    obtain ⟨other, beside, also, paired⟩ := twins.forth client moved
    obtain ⟨later, reaches, last⟩ := ih paired ran
    exact ⟨later, .head also reaches, last⟩

theorem back (paired : Paired connection here there)
    (client : setting.client = .deciding refuses) (reaches : Reaches setting there after) :
    ∃ later, Reaches setting here later ∧ Paired connection later after := by
  obtain ⟨moves, ran⟩ := reaches
  induction moves generalizing here there with
  | nil => cases ran; exact ⟨here, .refl _, paired⟩
  | cons move rest ih =>
    obtain ⟨next, moved, ran⟩ := Option.bind_eq_some_iff.mp ran
    obtain ⟨names, twins⟩ := paired
    obtain ⟨other, beside, also, paired⟩ := twins.back client moved
    obtain ⟨later, reaches, last⟩ := ih paired ran
    exact ⟨later, .head also reaches, last⟩

end Paired

namespace Twins

theorem nextOfRouter? (twins : Twins connection names here there)
    (client : setting.client = .deciding refuses) :
    Option.Rel (Paired connection) (here.nextOfRouter? setting) (there.nextOfRouter? setting) :=
  rel_findSome? fun _ router => twins.router client router

theorem nextOfWorker? (twins : Twins connection names here there)
    (client : setting.client = .deciding refuses) (has : Has connection generation here) :
    Option.Rel (Twins connection names) (here.nextOfWorker? setting generation)
      (there.nextOfWorker? setting (names generation)) :=
  rel_findSome? fun taskMove _ => twins.work? client has taskMove

theorem isIdle (twins : Twins connection names here there)
    (client : setting.client = .deciding refuses) :
    there.isIdle setting = here.isIdle setting := by
  have router := isNone_of_rel (twins.nextOfRouter? client)
  have own (worker : Worker definition σ) (inside : worker ∈ here.own connection) :
      (there.nextOfWorker? setting (names worker.generation)).isNone =
        (here.nextOfWorker? setting worker.generation).isNone :=
    isNone_of_rel (twins.nextOfWorker? client ⟨worker, inside, rfl⟩)
  unfold Multiplexer.isIdle
  rw [router]
  congr 1
  rw [Bool.eq_iff_iff, List.all_eq_true, List.all_eq_true]
  constructor
  · intro rest worker member
    by_cases concerned : worker.connection = connection
    · have inside := mem_own.mpr ⟨member, concerned⟩
      have present : worker.renamed names ∈ there.own connection :=
        twins.mirrors.own ▸ List.mem_map_of_mem inside
      rw [← own worker inside]
      exact rest _ (mem_own.mp present).1
    · rw [twins.left.stuck setting (twins.left.serving.orderly.worker?_of_mem member) concerned]
      rfl
  · intro rest worker member
    by_cases concerned : worker.connection = connection
    · have inside := mem_own.mpr ⟨member, concerned⟩
      rw [twins.mirrors.own] at inside
      obtain ⟨original, present, rfl⟩ := List.mem_map.mp inside
      exact (own original present).trans (rest original (mem_own.mp present).1)
    · rw [twins.right.stuck setting (twins.right.serving.orderly.worker?_of_mem member) concerned]
      rfl

end Twins

theorem Paired.routeFor (paired : Paired connection here there)
    (client : setting.client = .deciding refuses) (fuel : Nat) :
    Paired connection (here.routeFor setting fuel) (there.routeFor setting fuel) := by
  induction fuel generalizing here there with
  | zero => exact paired
  | succ fuel ih =>
    obtain ⟨names, twins⟩ := id paired
    have next := twins.nextOfRouter? client
    unfold Multiplexer.routeFor
    generalize here.nextOfRouter? setting = left at next ⊢
    generalize there.nextOfRouter? setting = right at next ⊢
    cases next with
    | none => exact paired
    | some both => exact ih both

theorem Twins.workFor (twins : Twins connection names here there)
    (client : setting.client = .deciding refuses) (has : Has connection generation here)
    (fuel : Nat) :
    Twins connection names (here.workFor setting generation fuel)
      (there.workFor setting (names generation) fuel) := by
  induction fuel generalizing here there with
  | zero => exact twins
  | succ fuel ih =>
    have next := twins.nextOfWorker? client has
    unfold Multiplexer.workFor
    cases moved : here.nextOfWorker? setting generation with
    | none =>
      rw [moved] at next
      have stuck := isNone_of_rel next
      rw [Option.isNone_none, Option.isNone_iff_eq_none] at stuck
      rw [stuck]
      exact twins
    | some after =>
      obtain ⟨later, also, both⟩ := exists_right_of_rel next moved
      obtain ⟨taskMove, worked⟩ := nextOfWorker?_some moved
      rw [also]
      exact ih both (has.work twins.left.serving.orderly (work?_step worked))

theorem Has.workFor {changed : Nat} (has : Has connection generation multiplexer)
    (serving : multiplexer.Serving) (setting : Setting σ) (fuel : Nat) :
    Has connection generation (multiplexer.workFor setting changed fuel) := by
  induction fuel generalizing multiplexer with
  | zero => exact has
  | succ fuel ih =>
    unfold Multiplexer.workFor
    split
    next next moved =>
      obtain ⟨taskMove, worked⟩ := nextOfWorker?_some moved
      have step := work?_step worked
      exact ih (has.work serving.orderly step) (serving.step step).1
    next => exact has

theorem Twins.runWorkers (twins : Twins connection names here there)
    (client : setting.client = .deciding refuses) {workers : List (Worker definition σ)}
    (known : ∀ worker ∈ workers, Has connection worker.generation here) :
    Twins connection names (workers.foldl (runWorker setting) here)
      ((workers.map (Worker.renamed names)).foldl (runWorker setting) there) := by
  induction workers generalizing here there with
  | nil => exact twins
  | cons first later ih =>
    have next := twins.workFor client (known first List.mem_cons_self) first.task.work
    refine ih next fun worker member => ?_
    exact (known worker (List.mem_cons_of_mem _ member)).workFor twins.left.serving setting _

theorem Busy.runWorkers_own (busy : multiplexer.Busy connection)
    (client : setting.client = .deciding refuses) {workers : List (Worker definition σ)}
    (known : ∀ worker ∈ workers, worker.connection ≠ connection →
      multiplexer.worker? worker.generation = some worker) :
    workers.foldl (runWorker setting) multiplexer =
      (workers.filter fun worker => worker.connection = connection).foldl (runWorker setting)
        multiplexer := by
  induction workers generalizing multiplexer with
  | nil => rfl
  | cons first later ih =>
    by_cases concerned : first.connection = connection
    · have reaches : Reaches setting multiplexer (multiplexer.runWorker setting first) :=
        reaches_workFor setting _ _ multiplexer
      have after := busy.reaches client reaches
      rw [List.filter_cons_of_pos (by simpa using concerned), List.foldl_cons, List.foldl_cons]
      refine ih after fun worker member foreign => ?_
      have found := known worker (List.mem_cons_of_mem _ member) foreign
      have present := mem_own.mpr ⟨(worker?_some found).1, rfl⟩
      rw [← ((busy.devoted.reaches busy.serving client reaches).others _ foreign).own] at present
      exact after.serving.orderly.worker?_of_mem (mem_own.mp present).1
    · have stuck := busy.stuck setting (known first List.mem_cons_self concerned) concerned
      rw [List.filter_cons_of_neg (by simpa using concerned), List.foldl_cons, runWorker,
        workFor_of_stuck stuck]
      exact ih busy fun worker member => known worker (List.mem_cons_of_mem _ member)

theorem Busy.runWorkers (busy : multiplexer.Busy connection)
    (client : setting.client = .deciding refuses) :
    multiplexer.workers.foldl (runWorker setting) multiplexer =
      (multiplexer.own connection).foldl (runWorker setting) multiplexer :=
  busy.runWorkers_own client fun _ member _ => busy.serving.orderly.worker?_of_mem member

omit [Evaluator σ] in
theorem Mirrors.routerWork (mirrors : Mirrors connection names here there) :
    there.routerWork = here.routerWork := by
  unfold Multiplexer.routerWork
  rw [mirrors.inbound, mirrors.control, mirrors.held, mirrors.news, List.length_map]

namespace Paired

theorem round (paired : Paired connection here there)
    (client : setting.client = .deciding refuses) :
    Paired connection (here.round setting) (there.round setting) := by
  have work : there.routerWork = here.routerWork :=
    paired.elim fun _ twins => twins.mirrors.routerWork
  obtain ⟨names, twins⟩ := paired.routeFor client here.routerWork
  have own : ∀ worker ∈ (here.routeFor setting here.routerWork).own connection,
      Has connection worker.generation (here.routeFor setting here.routerWork) :=
    fun worker inside => ⟨worker, inside, rfl⟩
  have ran := twins.runWorkers client own
  rw [← twins.mirrors.own, ← twins.left.runWorkers client, ← twins.right.runWorkers client] at ran
  refine ⟨names, ?_⟩
  unfold Multiplexer.round runRouter
  rw [work]
  exact ran

theorem settleFor (paired : Paired connection here there)
    (client : setting.client = .deciding refuses) (fuel : Nat) :
    Paired connection (here.settleFor setting fuel) (there.settleFor setting fuel) := by
  induction fuel generalizing here there with
  | zero => exact paired
  | succ fuel ih =>
    have idle : there.isIdle setting = here.isIdle setting :=
      paired.elim fun _ twins => twins.isIdle client
    unfold Multiplexer.settleFor
    rw [idle]
    split
    next => exact paired
    next => exact ih (paired.round client)

/-- Twins that settle come to the same rest. -/
theorem settle (paired : Paired connection here there)
    (client : setting.client = .deciding refuses) :
    Paired connection (here.settle setting) (there.settle setting) := by
  have work : there.routerWork = here.routerWork :=
    paired.elim fun _ twins => twins.mirrors.routerWork
  unfold Multiplexer.settle rounds
  rw [work]
  exact paired.settleFor client _

end Paired

end Multiplexer
end Parley
