import Mathlib.Data.List.Perm.Basic
import Parley.Proofs.Machine.Operation
import Parley.Proofs.Machine.Reached
/-!
The order in which the states of a machine are declared does not matter.

A machine knows its place by number, and the numbers are others when the states stand in another
order. What is seen of a place is the state there, and with different names that state is found
under its name wherever it stands.
-/

namespace Parley

variable {here there : Definition} {σ : Type}

structure Definition.Reordered (here there : Definition) : Prop where
  wellFormed : here.WellFormed
  wellFormed' : there.WellFormed
  keepMemory : there.keepMemory = here.keepMemory
  initial : there.initial = here.initial
  states : there.states.Perm here.states

namespace Definition.Reordered

theorem hasState (reordered : here.Reordered there) (name : String) :
    there.hasState name = here.hasState name := by
  rw [Bool.eq_iff_iff, hasState_iff, hasState_iff]
  exact (reordered.states.map State.name).mem_iff

theorem state (reordered : here.Reordered there) {name : String}
    {place : Fin here.states.length} {place' : Fin there.states.length}
    (found : here.stateIndex? name = some place) (found' : there.stateIndex? name = some place') :
    there.states.get place' = here.states.get place := by
  have declared : there.states.get place' ∈ here.states :=
    reordered.states.mem_iff.mp (List.get_mem _ _)
  apply List.inj_on_of_nodup_map reordered.wellFormed.distinct declared (List.get_mem _ _)
  rw [name_of_stateIndex? found, name_of_stateIndex? found']

end Definition.Reordered

namespace Machine

/-- The two machines look the same, each with its states in its own order. -/
structure Alike (left : Machine here σ) (right : Machine there σ) : Prop where
  state : right.state = left.state
  store : right.store = left.store
  checkpoint : right.checkpoint = left.checkpoint
  signal : right.signal = left.signal
  terminated : right.terminated = left.terminated

namespace Alike

theorem new (reordered : here.Reordered there) (scripts : Option σ) (pins : PinStream)
    (signal : EndSignal) :
    Alike (new here scripts pins signal) (new there scripts pins signal) := by
  have start : there.stateIndex? here.initial.target = some there.initialIndex := by
    rw [← reordered.initial]
    exact reordered.wellFormed'.initial
  exact ⟨reordered.state reordered.wellFormed.initial start, rfl, rfl, rfl, rfl⟩

theorem observed {left : Machine here σ} {right : Machine there σ} (alike : Alike left right)
    (answer : Answer) : left.observed answer = right.observed answer := by
  simp only [Machine.observed, memory, alike.state, alike.store, alike.signal, alike.terminated]

theorem noteEnd {left : Machine here σ} {right : Machine there σ} (alike : Alike left right) :
    Alike left.noteEnd right.noteEnd := by
  unfold Machine.noteEnd
  rw [alike.state, alike.terminated, alike.signal]
  split
  next => exact ⟨alike.state, alike.store, alike.checkpoint, rfl, rfl⟩
  next => exact alike

theorem rollback {left : Machine here σ} {right : Machine there σ} (alike : Alike left right) :
    Alike left.rollback right.rollback := by
  unfold Machine.rollback
  rw [alike.checkpoint]
  split
  next =>
    refine ⟨alike.state, ?_, rfl, alike.signal, alike.terminated⟩
    simp only [alike.store]
  next => exact alike

theorem enter (reordered : here.Reordered there) {left : Machine here σ}
    {right : Machine there σ} (alike : Alike left right) {name : String}
    {place : Fin here.states.length} {place' : Fin there.states.length}
    (found : here.stateIndex? name = some place) (found' : there.stateIndex? name = some place') :
    Alike (left.enter place) (right.enter place') := by
  -- Both machines know that they are back by comparing places, and each place has the same name.
  have back : place' = there.initialIndex ↔ place = here.initialIndex := by
    rw [index_initial_iff reordered.wellFormed' found',
      index_initial_iff reordered.wellFormed found, reordered.initial]
  refine noteEnd ⟨reordered.state found found', ?_, rfl, alike.signal, alike.terminated⟩
  simp only [memory, alike.store, reordered.keepMemory, back]

variable [Evaluator σ]

theorem firstFiring_reordered (reordered : here.Reordered there) (content : String)
    (admits : Event → Bool) (transitions : List Transition) (store : Store σ) :
    firstFiring there content admits transitions store =
      firstFiring here content admits transitions store := by
  have targets : retarget there = retarget here := by
    funext transition target
    cases target with
    | none => rfl
    | some name => simp only [retarget, reordered.hasState]
  induction transitions generalizing store with
  | nil => rfl
  | cons transition rest ih => simp only [firstFiring, targets, ih]

theorem find (reordered : here.Reordered there) {left : Machine here σ}
    {right : Machine there σ} (alike : Alike left right) (item : Item) :
    (right.find item).1 = (left.find item).1 ∧ Alike (left.find item).2 (right.find item).2 := by
  have searched := firstFiring_reordered reordered item.content item.admits left.state.transitions
    left.store
  simp only [find_eq, resolve, memory, alike.state, alike.store, searched, true_and]
  exact ⟨alike.state, rfl, rfl, alike.signal, alike.terminated⟩

theorem perform (reordered : here.Reordered there) {left : Machine here σ}
    {right : Machine there σ} (alike : Alike left right) (operation : Operation) :
    (right.perform operation).1 = (left.perform operation).1 ∧
      Alike (left.perform operation).2 (right.perform operation).2 := by
  cases operation with
  | start =>
    simp only [Machine.perform, start, reordered.initial, alike.store, true_and]
    exact ⟨alike.state, rfl, alike.checkpoint, alike.signal, alike.terminated⟩
  | find item =>
    obtain ⟨same, after⟩ := find reordered alike item
    exact ⟨congrArg Answer.found same, after⟩
  | build transition input =>
    simp only [Machine.perform, buildSends, alike.store, true_and]
    exact ⟨alike.state, rfl, alike.checkpoint, alike.signal, alike.terminated⟩
  | rollback => exact ⟨rfl, alike.rollback⟩
  | step transition =>
    have declared := reordered.hasState transition.target
    simp only [Definition.hasState] at declared
    simp only [Machine.perform, step]
    cases found : here.stateIndex? transition.target with
    | none =>
      cases found' : there.stateIndex? transition.target with
      | none => exact ⟨by rw [alike.state], alike⟩
      | some place' => simp [found, found'] at declared
    | some place =>
      cases found' : there.stateIndex? transition.target with
      | none => simp [found, found'] at declared
      | some place' => exact ⟨rfl, alike.enter reordered found found'⟩

end Alike

theorem observe_reordered [Evaluator σ] (reordered : here.Reordered there) (scripts : Option σ)
    (pins : PinStream) (signal : EndSignal) (operations : List Operation) :
    (new here scripts pins signal).observe operations =
      (new there scripts pins signal).observe operations := by
  refine observe_of_related Alike ?_ (.new reordered scripts pins signal)
  intro left right alike operation _
  obtain ⟨answer, after⟩ := alike.perform reordered operation
  exact ⟨after, by rw [answer, after.observed]⟩

end Machine

namespace Draft

variable {draft : Draft} {states : List (String × State)}

theorem Event.readAs_unique (side : Side) : Relator.RightUnique (Event.ReadAs side) := by
  intro written event other first second
  exact Except.ok.inj ((resolve_eq_ok_iff.mpr first).symm.trans (resolve_eq_ok_iff.mpr second))

theorem Transition.madeInto_unique : Relator.RightUnique Transition.MadeInto := by
  rintro written ⟨trigger, sends, target⟩ ⟨trigger', sends', target'⟩
    ⟨⟨event, present, reads⟩, sent, led⟩ ⟨⟨event', present', reads'⟩, sent', led'⟩
  cases present.symm.trans present'
  cases Event.readAs_unique .trigger reads reads'
  cases List.right_unique_forall₂' (Event.readAs_unique .send) sent sent'
  cases led.trans led'.symm
  rfl

theorem State.madeInto_unique : Relator.RightUnique State.MadeInto := by
  rintro entry ⟨name, transitions, terminal⟩ ⟨name', transitions', terminal'⟩
    ⟨named, ends, like⟩ ⟨named', ends', like'⟩
  cases List.right_unique_forall₂' Transition.madeInto_unique like like'
  cases named.trans named'.symm
  cases ends.trans ends'.symm
  rfl

theorem wellWritten_of_perm (same : states.Perm draft.states) (well : draft.WellWritten) :
    { draft with states }.WellWritten := by
  have names : (names { draft with states }).Perm draft.names := same.map _
  obtain ⟨distinct, start, untriggered, sends, transitions⟩ := well
  refine ⟨names.nodup_iff.mpr distinct, names.mem_iff.mpr start, untriggered, sends, ?_⟩
  intro entry member written inside
  obtain ⟨trigger, target, later⟩ := transitions entry (same.mem_iff.mp member) written inside
  exact ⟨trigger, names.mem_iff.mpr target, later⟩

theorem reordered_of_check {definition other : Definition} (same : states.Perm draft.states)
    (accepted : draft.check = .ok definition)
    (accepted' : check { draft with states } = .ok other) : definition.Reordered other := by
  obtain ⟨_, _, _, _, made⟩ := check_eq_ok_iff.mp accepted
  obtain ⟨_, _, _, _, made'⟩ := check_eq_ok_iff.mp accepted'
  have sends := List.right_unique_forall₂' (Event.readAs_unique .send) made'.initialSends
    made.initialSends
  have targets := made'.initialTarget.trans made.initialTarget.symm
  refine ⟨Definition.wellFormed_of_check accepted, Definition.wellFormed_of_check accepted',
    made'.keepMemory.trans made.keepMemory.symm, ?_, ?_⟩
  · calc
      other.initial = ⟨other.initial.sends, other.initial.target⟩ := rfl
      _ = ⟨definition.initial.sends, definition.initial.target⟩ := by rw [sends, targets]
  · exact List.rel_perm_imp State.madeInto_unique made'.states made.states same

end Draft
end Parley
