import Parley.Proofs.Multiplexer.Conservation
import Parley.Proofs.Multiplexer.Log
/-!
In which order a conversation handles what comes to it.

Each of its two channels keeps its order, and so hooks stay in order among themselves, and all else
does. Between the channels nothing is promised: where something waits in both, the conversation may
go on with either.
-/

namespace Parley

variable {definition : Definition} {σ : Type}

def Notification.isHook : Notification → Bool
  | .hook _ => true
  | _ => false

inductive Passage where
  /-- The router takes an item. -/
  | taken (item : Notification)
  /-- An item comes into a channel of a conversation. -/
  | arrived (generation : Nat) (item : Notification)
  /-- A conversation takes an item while something waits in its other channel. -/
  | choice (generation : Nat)
  | handled (generation : Nat) (item : Notification)
  deriving DecidableEq

namespace Passage

def allTaken (passages : List Passage) : List Notification :=
  passages.filterMap fun
    | .taken item => some item
    | _ => none

def arrivals (generation : Nat) (passages : List Passage) : List Notification :=
  passages.filterMap fun
    | .arrived own item => if own = generation then some item else none
    | _ => none

def handlings (generation : Nat) (passages : List Passage) : List Notification :=
  passages.filterMap fun
    | .handled own item => if own = generation then some item else none
    | _ => none

/-- A conversation has handled what came to it first, in the order in which it came. -/
def InOrder (generation : Nat) (passages : List Passage) : Prop :=
  handlings generation passages <+: arrivals generation passages

instance (generation : Nat) (passages : List Passage) : Decidable (InOrder generation passages) :=
  inferInstanceAs (Decidable (_ <+: _))

variable {generation : Nat}

@[simp]
theorem arrivals_append (early late : List Passage) :
    arrivals generation (early ++ late) = arrivals generation early ++ arrivals generation late :=
  List.filterMap_append

@[simp]
theorem allTaken_append (early late : List Passage) :
    allTaken (early ++ late) = allTaken early ++ allTaken late :=
  List.filterMap_append

@[simp]
theorem handlings_append (early late : List Passage) :
    handlings generation (early ++ late) =
      handlings generation early ++ handlings generation late :=
  List.filterMap_append

@[simp]
theorem arrivals_handled (own : Nat) (items : List Notification) :
    arrivals generation (items.map (.handled own)) = [] := by
  simp [arrivals]

@[simp]
theorem handlings_handled (items : List Notification) :
    handlings generation (items.map (.handled generation)) = items := by
  simp [handlings]

theorem handlings_handled_of_ne {own : Nat} (other : own ≠ generation)
    (items : List Notification) : handlings generation (items.map (.handled own)) = [] := by
  simp [handlings, other]

@[simp]
theorem arrivals_choice (own : Nat) : arrivals generation [.choice own] = [] := rfl

@[simp]
theorem handlings_choice (own : Nat) : handlings generation [.choice own] = [] := rfl

end Passage

namespace Task

open Passage

variable {task after : Task definition σ} {generation : Nat} {seen more : List Passage}
  {item : Notification}

def line (task : Task definition σ) : (isHook : Bool) → List Notification
  | true => task.hooks.items.map .hook
  | false => task.notifications.items

theorem line_of_delivered (delivered : task.deliver? item = some after) (isHook : Bool) :
    after.line isHook = task.line isHook ++ [item].filter (·.isHook == isHook) := by
  unfold deliver? offerHook? offer? at delivered
  split at delivered
  next data =>
    split at delivered
    next =>
      cases delivered
      cases isHook <;> simp [line, Channel.push, Notification.isHook]
    next => cases delivered
  next other =>
    have kind : item.isHook = false := by
      cases item with
      | hook data => exact absurd rfl (other data)
      | _ => rfl
    split at delivered
    next =>
      cases delivered
      cases isHook <;> simp [line, Channel.push, kind]
    next => cases delivered

def passages (generation : Nat) (task : Task definition σ) : Move → List Passage
  | .takeNotification => if task.line true = [] then [] else [.choice generation]
  | .takeHook => if task.line false = [] then [] else [.choice generation]
  | move => (task.doneBy move).map (.handled generation)

theorem arrivals_passages (task : Task definition σ) (move : Move) (own : Nat) :
    arrivals generation (task.passages own move) = [] := by
  cases move with
  | takeNotification | takeHook => rw [passages]; split <;> rfl
  | _ => exact arrivals_handled own _

theorem handlings_passages (task : Task definition σ) (move : Move) :
    handlings generation (task.passages generation move) = task.doneBy move := by
  cases move with
  | takeNotification | takeHook => rw [passages]; split <;> rfl
  | _ => exact handlings_handled _

theorem handlings_passages_of_ne (task : Task definition σ) (move : Move) {own : Nat}
    (other : own ≠ generation) : handlings generation (task.passages own move) = [] := by
  cases move with
  | takeNotification | takeHook => rw [passages]; split <;> rfl
  | _ => exact handlings_handled_of_ne other _

theorem allTaken_passages (task : Task definition σ) (move : Move) (own : Nat) :
    allTaken (task.passages own move) = [] := by
  cases move with
  | takeNotification | takeHook => rw [passages]; split <;> rfl
  | _ => simp [passages, allTaken]

/-- What has been handled of a kind, what is in hand and what waits in the channel of that kind are
together what has arrived, in the same order. -/
structure InLine (seen : List Passage) (generation : Nat) (task : Task definition σ) : Prop where
  kinds : ∀ isHook,
    (handlings generation seen ++ task.inHand).filter (·.isHook == isHook) ++ task.line isHook =
      (arrivals generation seen).filter (·.isHook == isHook)
  unmixed : .choice generation ∉ seen →
    handlings generation seen ++ task.inHand <+: arrivals generation seen

namespace InLine

theorem of_same (inLine : task.InLine seen generation) (arrived : arrivals generation more = [])
    (handled : handlings generation more ++ after.inHand = task.inHand)
    (line : after.line = task.line) : after.InLine (seen ++ more) generation := by
  refine ⟨fun isHook => ?_, fun unmixed => ?_⟩
  · rw [arrivals_append, handlings_append, arrived, List.append_nil, List.append_assoc, handled,
      line]
    exact inLine.kinds isHook
  · rw [arrivals_append, handlings_append, arrived, List.append_nil, List.append_assoc, handled]
    exact inLine.unmixed fun mixed => unmixed (List.mem_append_left _ mixed)

theorem delivered (inLine : task.InLine seen generation)
    (delivered : task.deliver? item = some after) :
    after.InLine (seen ++ [.arrived generation item]) generation := by
  have arrived : arrivals generation [.arrived generation item] = [item] := by simp [arrivals]
  have handled : handlings generation [.arrived generation item] = [] := rfl
  have inHand : after.inHand = task.inHand := by
    rw [Task.inHand, Task.inHand, (deliver?_delivered delivered).phase]
  refine ⟨fun isHook => ?_, fun unmixed => ?_⟩
  · rw [arrivals_append, handlings_append, arrived, handled, List.append_nil, inHand,
      line_of_delivered delivered, ← List.append_assoc, inLine.kinds, List.filter_append]
  · rw [arrivals_append, handlings_append, arrived, handled, List.append_nil, inHand]
    refine (inLine.unmixed fun mixed => unmixed ?_).trans (List.prefix_append _ _)
    exact List.mem_append_left _ mixed

theorem take {isHook : Bool} {rest : List Notification} (inLine : task.InLine seen generation)
    (free : task.inHand = []) (inHand : after.inHand = [item])
    (first : task.line isHook = item :: rest) (taken : after.line isHook = rest)
    (other : after.line (!isHook) = task.line (!isHook)) :
    after.InLine
      (seen ++ if task.line (!isHook) = [] then [] else [.choice generation]) generation := by
  have arrived : arrivals generation
      (if task.line (!isHook) = [] then [] else [Passage.choice generation]) = [] := by
    split <;> rfl
  have handled : handlings generation
      (if task.line (!isHook) = [] then [] else [Passage.choice generation]) = [] := by
    split <;> rfl
  have before := inLine.kinds
  simp only [free, List.append_nil] at before
  have kind : item.isHook = isHook := by
    have arrived : item ∈ (arrivals generation seen).filter (·.isHook == isHook) := by
      rw [← before isHook, first]
      exact List.mem_append_right _ List.mem_cons_self
    simpa using (List.mem_filter.mp arrived).2
  refine ⟨fun kind' => ?_, fun unmixed => ?_⟩
  · rw [arrivals_append, handlings_append, arrived, handled, List.append_nil, List.append_nil,
      inHand, List.filter_append]
    by_cases own : kind' = isHook
    · rw [own, ← before, first, taken, List.append_assoc]
      simp [kind]
    · rw [Bool.eq_not.mpr own, ← before, other]
      simp [kind]
  · rw [arrivals_append, handlings_append, arrived, handled, List.append_nil, List.append_nil,
      inHand]
    rw [List.mem_append, not_or] at unmixed
    have alone : task.line (!isHook) = [] := by
      by_contra some
      exact unmixed.2 (by rw [if_neg some]; exact List.mem_cons_self)
    -- What has arrived and is not handled is the line, since the other one is empty.
    obtain ⟨left, all⟩ := inLine.unmixed unmixed.1
    rw [free, List.append_nil] at all
    have same (kind' : Bool) : task.line kind' = left.filter (·.isHook == kind') := by
      have here := before kind'
      rw [← all, List.filter_append] at here
      exact List.append_cancel_left here
    have none : ∀ item ∈ left, item.isHook == isHook := by
      intro passed member
      by_contra foreign
      have there : passed ∈ left.filter (·.isHook == !isHook) :=
        List.mem_filter.mpr ⟨member, by simpa [Bool.eq_not] using foreign⟩
      rw [← same, alone] at there
      cases there
    rw [← all, ← List.filter_eq_self.mpr none, ← same, first]
    exact ⟨rest, by simp⟩

variable [Evaluator σ] {client : Client} {isCancelled : Bool} {ledger : Ledger} {move : Move}
  {result : Task definition σ × Ledger}

theorem step (inLine : task.InLine seen generation)
    (step : Step client isCancelled task ledger move result) :
    result.1.InLine (seen ++ task.passages generation move) generation := by
  have arrived : arrivals generation (task.passages generation move) = [] :=
    task.arrivals_passages move generation
  have handled : handlings generation (task.passages generation move) = task.doneBy move :=
    task.handlings_passages move
  cases step with
  | begin fresh =>
    refine inLine.of_same arrived ?_ rfl
    rw [handled, inHand_settled, inHand, fresh]
    rfl
  | handle handling =>
    refine inLine.of_same arrived ?_ rfl
    rw [handled, inHand_settled, List.append_nil]
    rfl
  | noticeClosed listening _ _ | noticeCancelled listening _ =>
    refine inLine.of_same arrived ?_ rfl
    rw [handled, inHand, inHand, listening]
    rfl
  | report ended =>
    refine inLine.of_same arrived ?_ rfl
    rw [handled, inHand, inHand, ended]
    rfl
  | takeNotification listening items =>
    have first : task.line false = _ := items
    exact inLine.take (by rw [inHand, listening]) rfl first rfl rfl
  | @takeHook hook rest listening items =>
    have first : task.line true = .hook hook :: rest.map .hook := by
      rw [line, items]
      rfl
    exact inLine.take (by rw [inHand, listening]) rfl first rfl rfl

end InLine

end Task

namespace Multiplexer

open Passage

variable {setting : Setting σ} {multiplexer after : Multiplexer definition σ}
  {worker : Worker definition σ} {connection : String} {item : Notification} {generation : Nat}
  {seen more : List Passage}

def passages (multiplexer : Multiplexer definition σ) : Move → List Passage
  | .handOver =>
    (do
      let parcel ← multiplexer.held
      let worker ← multiplexer.holder? parcel.connection
      let _ ← worker.task.deliver? parcel.item
      return Passage.arrived worker.generation parcel.item).toList
  | .work generation move =>
    (multiplexer.worker? generation).elim [] fun worker => worker.task.passages generation move
  | move => (multiplexer.taken move).map .taken

/-- All conversations keep their lines, and what comes to them has been taken before, in the same
order. -/
structure Aligned (seen : List Passage) (multiplexer : Multiplexer definition σ) : Prop where
  below : ∀ worker ∈ multiplexer.workers, worker.generation < multiplexer.nextGeneration
  unborn : ∀ generation, multiplexer.nextGeneration ≤ generation →
    arrivals generation seen = [] ∧ handlings generation seen = []
  inLine : ∀ worker ∈ multiplexer.workers, worker.task.InLine seen worker.generation
  taken : ∀ generation,
    (arrivals generation seen ++ (multiplexer.held.map Parcel.item).toList).Sublist
      (allTaken seen)

namespace Aligned

theorem of_same (aligned : multiplexer.Aligned seen)
    (workers : after.workers = multiplexer.workers)
    (next : after.nextGeneration = multiplexer.nextGeneration)
    (held : after.held = multiplexer.held ∨ after.held = none) : after.Aligned seen where
  below := by rw [workers, next]; exact aligned.below
  unborn := by rw [next]; exact aligned.unborn
  inLine := by rw [workers]; exact aligned.inLine
  taken := fun generation => by
    rcases held with same | none
    · rw [same]
      exact aligned.taken generation
    · rw [none]
      exact (List.Sublist.append_left (List.nil_sublist _) _).trans (aligned.taken generation)

theorem picked {attempts : Nat} (aligned : multiplexer.Aligned seen)
    (owed : ∀ generation, (arrivals generation seen ++ [item]).Sublist (allTaken seen))
    (picked : Picked setting item connection multiplexer attempts after) :
    after.Aligned seen := by
  cases picked with
  | exhausted => exact aligned.of_same rfl rfl (.inl rfl)
  | dismissed _ _ => exact aligned.of_same rfl rfl (.inl rfl)
  | found _ => exact ⟨aligned.below, aligned.unborn, aligned.inLine, owed⟩
  | started _ _ =>
    obtain ⟨arrived, handled⟩ := aligned.unborn _ (Nat.le_refl multiplexer.nextGeneration)
    refine ⟨?_, fun generation late => ?_, ?_, owed⟩
    · intro worker member
      rcases List.mem_append.mp member with old | new
      · exact Nat.lt_succ_of_lt (aligned.below worker old)
      · rw [List.mem_singleton.mp new]
        exact Nat.lt_succ_self _
    · exact aligned.unborn generation (Nat.le_of_succ_le late)
    · intro worker member
      rcases List.mem_append.mp member with old | new
      · exact aligned.inLine worker old
      · rw [List.mem_singleton.mp new]
        refine ⟨fun isHook => ?_, fun _ => ?_⟩
        · rw [arrived, handled]
          cases isHook <;> rfl
        · rw [arrived, handled]
          exact List.prefix_rfl

theorem routed (aligned : multiplexer.Aligned seen) (free : multiplexer.held = none)
    (routes : Routed setting item multiplexer after) : after.Aligned (seen ++ [.taken item]) := by
  have arrived (generation : Nat) :
      arrivals generation (seen ++ [.taken item]) = arrivals generation seen := by
    rw [arrivals_append]
    exact List.append_nil _
  have handled (generation : Nat) :
      handlings generation (seen ++ [.taken item]) = handlings generation seen := by
    rw [handlings_append]
    exact List.append_nil _
  have taken : allTaken (seen ++ [.taken item]) = allTaken seen ++ [item] := allTaken_append _ _
  have before (generation : Nat) : (arrivals generation seen).Sublist (allTaken seen) := by
    have all := aligned.taken generation
    rw [free] at all
    simpa using all
  have noted : multiplexer.Aligned (seen ++ [.taken item]) := by
    refine ⟨aligned.below, fun generation late => ?_, fun worker member => ?_,
      fun generation => ?_⟩
    · rw [arrived, handled]
      exact aligned.unborn generation late
    · exact (aligned.inLine worker member).of_same rfl rfl rfl
    · rw [arrived, taken, free]
      exact (List.Sublist.append_left (List.nil_sublist _) _).trans
        ((before generation).append_right [item])
  cases routes with
  | keptAlive _ => exact noted.of_same rfl rfl (.inl rfl)
  | picked _ picked =>
    refine Aligned.picked ?_ (fun generation => ?_) picked
    · exact noted.of_same rfl rfl (.inl rfl)
    · rw [arrived, taken]
      exact (before generation).append_right _

theorem setTask (aligned : multiplexer.Aligned seen)
    (found : multiplexer.worker? generation = some worker) {task : Task definition σ}
    (inLine : task.InLine (seen ++ more) generation)
    (other : ∀ own, generation ≠ own → arrivals own more = [] ∧ handlings own more = [])
    (taken : ∀ own,
      (arrivals own (seen ++ more) ++ (multiplexer.held.map Parcel.item).toList).Sublist
        (allTaken (seen ++ more))) :
    (multiplexer.setTask generation task).Aligned (seen ++ more) where
  below := fun changed member => by
    obtain ⟨old, inside, rfl⟩ := List.mem_map.mp member
    have less := aligned.below old inside
    split <;> exact less
  unborn := fun own late => by
    obtain ⟨member, same⟩ := worker?_some found
    have less := aligned.below worker member
    have late : multiplexer.nextGeneration ≤ own := late
    obtain ⟨arrived, handled⟩ := aligned.unborn own late
    obtain ⟨noArrival, noHandling⟩ := other own (by omega)
    rw [arrivals_append, handlings_append, arrived, handled, noArrival, noHandling]
    exact ⟨rfl, rfl⟩
  inLine := fun changed member => by
    obtain ⟨old, inside, rfl⟩ := List.mem_map.mp member
    split
    next own => exact own.symm ▸ inLine
    next foreign =>
      obtain ⟨noArrival, noHandling⟩ := other old.generation (Ne.symm foreign)
      refine (aligned.inLine old inside).of_same noArrival ?_ rfl
      rw [noHandling]
      rfl
  taken := taken

theorem handedOver {parcel : Parcel} (aligned : multiplexer.Aligned seen)
    (held : multiplexer.held = some parcel)
    (handed : HandedOver setting parcel { multiplexer with held := none } after) :
    after.Aligned (seen ++ multiplexer.passages .handOver) := by
  have released : Aligned seen { multiplexer with held := none } :=
    aligned.of_same rfl rfl (.inr rfl)
  have owed (generation : Nat) :
      (arrivals generation seen ++ [parcel.item]).Sublist (allTaken seen) := by
    have all := aligned.taken generation
    rw [held] at all
    exact all
  cases handed with
  | nowhere absent =>
    have absent : multiplexer.holder? parcel.connection = none := absent
    simp only [passages, held, absent, Option.bind_eq_bind, Option.bind_some, Option.bind_none,
      Option.toList_none, List.append_nil]
    exact released
  | @delivered worker task found delivered =>
    have here : multiplexer.holder? parcel.connection = some worker := found
    simp only [passages, held, here, delivered, Option.bind_eq_bind, Option.bind_some,
      Option.pure_def, Option.toList_some]
    have inLine := (aligned.inLine worker (holder?_some here).1).delivered delivered
    refine released.setTask (worker?_of_holder? found) inLine (fun own other => ?_) fun own => ?_
    · exact ⟨by simp [arrivals, other], rfl⟩
    · have arrived : (arrivals own [.arrived worker.generation parcel.item]).Sublist
          [parcel.item] := by
        by_cases same : worker.generation = own <;> simp [arrivals, same]
      rw [arrivals_append, allTaken_append, Option.map_none, Option.toList_none, List.append_nil]
      exact ((List.Sublist.append_left arrived _).trans (owed own)).trans
        (List.sublist_append_left _ _)
  | @refused worker _ found refused picked =>
    have here : multiplexer.holder? parcel.connection = some worker := found
    simp only [passages, held, here, refused, Option.bind_eq_bind, Option.bind_some,
      Option.bind_none, Option.toList_none, List.append_nil]
    refine Aligned.picked ?_ owed picked
    exact released.of_same rfl rfl (.inl rfl)

theorem then_nothing (aligned : multiplexer.Aligned seen) (nothing : more = []) :
    multiplexer.Aligned (seen ++ more) := by
  rw [nothing, List.append_nil]
  exact aligned

theorem stop (aligned : multiplexer.Aligned seen) : multiplexer.stop.Aligned seen where
  below := fun changed member => by
    obtain ⟨old, inside, rfl⟩ := List.mem_map.mp member
    exact aligned.below old inside
  unborn := aligned.unborn
  inLine := fun changed member => by
    obtain ⟨old, inside, rfl⟩ := List.mem_map.mp member
    exact ⟨(aligned.inLine old inside).kinds, (aligned.inLine old inside).unmixed⟩
  taken := aligned.taken

variable [Evaluator σ] {move : Move}

theorem step (aligned : multiplexer.Aligned seen) (step : Step setting multiplexer move after) :
    after.Aligned (seen ++ multiplexer.passages move) := by
  cases step with
  | @evict completion rest _ _ =>
    rw [complete_eq]
    refine then_nothing ?_ rfl
    exact aligned.of_same rfl rfl (.inl rfl)
  | routeInbound items ready routes =>
    simp only [passages, Multiplexer.taken, items]
    refine Aligned.routed ?_ (by exact held_of_isReady ready) routes
    exact aligned.of_same rfl rfl (.inl rfl)
  | routeControl items ready routes =>
    simp only [passages, Multiplexer.taken, items]
    refine Aligned.routed ?_ (by exact held_of_isReady ready) routes
    exact aligned.of_same rfl rfl (.inl rfl)
  | handOver held _ _ handed => exact aligned.handedOver held handed
  | noticeClosed _ _ _ | noticeCancelled _ _ => exact aligned.stop.then_nothing rfl
  | finish _ _ =>
    obtain ⟨table, ledger, same⟩ := exists_finish multiplexer
    rw [same]
    refine then_nothing ?_ rfl
    exact aligned.of_same rfl rfl (.inl rfl)
  | @work generation taskMove worker result found moved =>
    simp only [passages, found, Option.elim_some]
    obtain ⟨member, own⟩ := worker?_some found
    have inLine := (aligned.inLine worker member).step moved
    rw [own] at inLine
    have changed := aligned.setTask found inLine (fun other foreign => ?_) fun other => ?_
    · exact changed.of_same rfl rfl (.inl rfl)
    · exact ⟨Task.arrivals_passages _ _ _, Task.handlings_passages_of_ne _ _ foreign⟩
    · rw [arrivals_append, allTaken_append, Task.arrivals_passages, Task.allTaken_passages,
        List.append_nil, List.append_nil]
      exact aligned.taken other

theorem outside {occurrence : Occurrence} (aligned : multiplexer.Aligned seen)
    (outside : ∀ move, occurrence ≠ .moved move)
    (occurred : multiplexer.occur? setting occurrence = some after) : after.Aligned seen := by
  obtain ⟨workers, _, _, next, held, _⟩ := untouched_of_occur? outside occurred
  exact aligned.of_same workers next (.inl held)

theorem run {occurrences : List Occurrence}
    (ran : (initial definition σ).run? setting occurrences = some multiplexer) :
    multiplexer.Aligned (log setting passages occurrences (initial definition σ)) := by
  have begin : (initial definition σ).Aligned [] :=
    ⟨by simp [initial], fun _ _ => ⟨rfl, rfl⟩, by simp [initial], fun _ => List.nil_sublist _⟩
  refine log_keeps (fun outside occurred aligned => ?_) (fun step aligned => ?_) begin ran
  · exact aligned.outside outside occurred
  · exact aligned.step step

end Aligned

variable [Evaluator σ]

theorem exists_work {move : Task.Move} {result : Task definition σ × Ledger}
    (found : multiplexer.worker? generation = some worker)
    (step : worker.task.Step setting.client multiplexer.isCancelled multiplexer.ledger move result)
    (other : move ≠ .report) :
    ∃ next, multiplexer.advance? setting (.work generation move) = some next ∧
      next.worker? generation = some { worker with task := result.1 } := by
  refine ⟨{ multiplexer.setTask generation result.1 with ledger := result.2 }, ?_,
    worker?_setTask_self found result.1⟩
  simp only [advance?, work?, found, Task.advance?_of_step step, if_neg other,
    Option.bind_eq_bind, Option.bind_some]

def attend (generation : Nat) (take : Task.Move) : List Occurrence :=
  [.moved (.work generation take), .moved (.work generation .handle)]

theorem exists_attend {take : Task.Move} {result : Task definition σ × Ledger}
    (found : multiplexer.worker? generation = some worker)
    (step : worker.task.Step setting.client multiplexer.isCancelled multiplexer.ledger take result)
    (free : worker.task.doneBy take = []) (inHand : result.1.phase = .handling item)
    (seen : List Passage) :
    ∃ after, multiplexer.run? setting (attend generation take) = some after ∧
      handlings generation (seen ++ log setting passages (attend generation take) multiplexer) =
        handlings generation seen ++ [item] ∧
      arrivals generation (seen ++ log setting passages (attend generation take) multiplexer) =
        arrivals generation seen := by
  obtain ⟨next, taken, here⟩ :=
    exists_work found step (by rintro rfl; cases step; cases inHand)
  have handling : result.1.Step setting.client next.isCancelled next.ledger .handle _ :=
    .handle inHand
  obtain ⟨after, handled, _⟩ := exists_work here handling (by simp)
  have hand : Task.doneBy result.1 .handle = [item] := by rw [Task.doneBy, Task.inHand, inHand]
  have written : log setting passages (attend generation take) multiplexer =
      worker.task.passages generation take ++ result.1.passages generation .handle := by
    simp only [attend, log, occur?, taken, handled, Option.elim_some, Occurrence.seen, passages,
      found, here, List.append_nil]
  refine ⟨after, ?_, ?_, ?_⟩
  · simp only [attend, run?, occur?, taken, handled, Option.bind_some]
  · rw [written, handlings_append, handlings_append, Task.handlings_passages,
      Task.handlings_passages, free, hand, List.nil_append]
  · rw [written, arrivals_append, arrivals_append, Task.arrivals_passages,
      Task.arrivals_passages, List.append_nil, List.append_nil]

/-- Where something waits in both lines, to take from one of them breaks the order. -/
theorem exists_misplaced (inLine : worker.task.InLine seen generation)
    (found : multiplexer.worker? generation = some worker)
    (listening : worker.task.phase = .listening) (hooks : worker.task.line true ≠ [])
    (others : worker.task.line false ≠ []) :
    ∃ take after, multiplexer.run? setting (attend generation take) = some after ∧
      ¬InOrder generation
        (seen ++ log setting passages (attend generation take) multiplexer) := by
  obtain ⟨hook, later, queue⟩ := List.exists_cons_of_ne_nil hooks
  obtain ⟨item, rest, items⟩ := List.exists_cons_of_ne_nil others
  have kind (isHook : Bool) (first : Notification) (member : first ∈ worker.task.line isHook) :
      first.isHook = isHook := by
    have arrived : first ∈ (arrivals generation seen).filter (·.isHook == isHook) := by
      rw [← inLine.kinds isHook]
      exact List.mem_append_right _ member
    simpa using (List.mem_filter.mp arrived).2
  have apart : item ≠ hook := by
    rintro rfl
    have isHook := kind true item (queue ▸ List.mem_cons_self)
    rw [kind false item (items ▸ List.mem_cons_self)] at isHook
    cases isHook
  obtain ⟨data, others, waiting, rfl, _⟩ := List.map_eq_cons_iff.mp queue
  have second : worker.task.Step setting.client multiplexer.isCancelled multiplexer.ledger
      .takeHook _ := .takeHook listening waiting
  have first : worker.task.Step setting.client multiplexer.isCancelled multiplexer.ledger
      .takeNotification _ := .takeNotification listening items
  obtain ⟨_, ranHook, handledHook, arrivedHook⟩ := exists_attend found second rfl rfl seen
  obtain ⟨_, ranItem, handledItem, arrivedItem⟩ := exists_attend found first rfl rfl seen
  by_cases kept : InOrder generation
      (seen ++ log setting passages (attend generation .takeHook) multiplexer)
  · refine ⟨.takeNotification, _, ranItem, fun also => ?_⟩
    rw [InOrder, handledItem, arrivedItem] at also
    rw [InOrder, handledHook, arrivedHook] at kept
    -- Both would be the next one of all that has arrived.
    have same := List.prefix_of_prefix_length_le also kept (by simp)
    have equal := same.eq_of_length (by simp)
    exact apart (by simpa using equal)
  · exact ⟨.takeHook, _, ranHook, kept⟩

/-- For each conversation hooks stay in order among themselves, and all other items do. Nothing
comes to it that was not taken before, in the same order. It handles all in the order in which it
came for as long as it never takes an item while something waits in its other channel. Where
something does wait in both, one of the items that it may take next is out of order. -/
theorem order_of_channels {occurrences : List Occurrence}
    (ran : (initial definition σ).run? setting occurrences = some multiplexer)
    (found : multiplexer.worker? generation = some worker) :
    let seen := log setting passages occurrences (initial definition σ)
    (arrivals generation seen).Sublist (allTaken seen) ∧
      (∀ isHook,
        (handlings generation seen ++ worker.task.inHand).filter (·.isHook == isHook) ++
            worker.task.line isHook =
          (arrivals generation seen).filter (·.isHook == isHook)) ∧
      (.choice generation ∉ seen → InOrder generation seen) ∧
      (worker.task.phase = .listening → worker.task.line true ≠ [] →
        worker.task.line false ≠ [] →
          ∃ take after,
            (initial definition σ).run? setting (occurrences ++ attend generation take) =
                some after ∧
              ¬InOrder generation
                (log setting passages (occurrences ++ attend generation take)
                  (initial definition σ))) := by
  have aligned := Aligned.run ran
  obtain ⟨member, rfl⟩ := worker?_some found
  have inLine := aligned.inLine worker member
  refine ⟨?_, inLine.kinds, fun unmixed => ?_, fun listening hooks others => ?_⟩
  · exact (List.sublist_append_left _ _).trans (aligned.taken worker.generation)
  · exact (List.prefix_append _ _).trans (inLine.unmixed unmixed)
  · obtain ⟨take, after, later, misplaced⟩ :=
      exists_misplaced inLine found listening hooks others
    refine ⟨take, after, ?_, ?_⟩
    · rw [run?_append _ ran]
      exact later
    · rw [log_append passages _ ran]
      exact misplaced

def ping : Notification := .hook ⟨"a", .empty⟩

def together : List Occurrence :=
  [.offered ping, .moved .routeInbound, .moved .handOver, .offered (heard "hello"),
    .moved .routeInbound, .moved .handOver, .moved (.work 0 .begin)]

/-- It has not chosen yet, and may choose badly. -/
theorem together_may_be_misplaced :
    ∃ multiplexer : Multiplexer .echo Lua.State,
      (initial .echo Lua.State).run? spacious together = some multiplexer ∧
        InOrder 0 (log spacious passages together (initial .echo Lua.State)) ∧
        ∃ take after,
          (initial .echo Lua.State).run? spacious (together ++ attend 0 take) = some after ∧
            ¬InOrder 0
              (log spacious passages (together ++ attend 0 take) (initial .echo Lua.State)) := by
  have seen : (((initial .echo Lua.State).run? spacious together).any fun multiplexer =>
      (multiplexer.worker? 0).any fun worker =>
        worker.task.phase = .listening && worker.task.line true ≠ [] &&
          worker.task.line false ≠ []) = true := by
    decide +kernel
  obtain ⟨multiplexer, ran, here⟩ := (Option.any_eq_true _ _).mp seen
  obtain ⟨worker, found, waiting⟩ := (Option.any_eq_true _ _).mp here
  simp only [Bool.and_eq_true, decide_eq_true_eq] at waiting
  have unmixed : .choice 0 ∉ log spacious passages together (initial .echo Lua.State) := by
    decide +kernel
  obtain ⟨_, _, ordered, misplaced⟩ := order_of_channels ran found
  exact ⟨multiplexer, ran, ordered unmixed, misplaced waiting.1.1 waiting.1.2 waiting.2⟩

/-- The message is answered before the hook, though the hook was there first. -/
theorem message_overtakes_hook :
    Draft.echo.check = .ok .echo ∧
      ∃ multiplexer : Multiplexer .echo Lua.State,
        (initial .echo Lua.State).run? spacious
            (together ++ attend 0 .takeNotification ++ attend 0 .takeHook) = some multiplexer ∧
          (multiplexer.workers.all fun worker => worker.task.isLive) = true ∧
          ∃ seen, seen = log spacious passages
              (together ++ attend 0 .takeNotification ++ attend 0 .takeHook)
              (initial .echo Lua.State) ∧
            allTaken seen = [ping, heard "hello"] ∧ arrivals 0 seen = [ping, heard "hello"] ∧
            handlings 0 seen = [heard "hello", ping] ∧ ¬InOrder 0 seen := by
  refine ⟨rfl, ?_⟩
  have ran : (((initial .echo Lua.State).run? spacious
      (together ++ attend 0 .takeNotification ++ attend 0 .takeHook)).any fun multiplexer =>
        multiplexer.workers.all fun worker => worker.task.isLive) = true := by
    decide +kernel
  obtain ⟨multiplexer, reached, live⟩ := (Option.any_eq_true _ _).mp ran
  refine ⟨multiplexer, reached, live, _, rfl, ?_⟩
  decide +kernel

end Multiplexer
end Parley
