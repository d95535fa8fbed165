import Mathlib.Data.List.Induction
import Parley.Proofs.Machine.Reset
/-!
What a rollback brings back.

To look for a transition is to remember the memory of before. Building sends writes to the memory but
leaves that alone, and so does a step that goes nowhere. A step that is taken gives it up, and a
rollback uses it up.
-/

namespace Parley

variable {definition : Definition} {σ : Type}

/-- What is done for a transition until it is taken or dropped. A step to a state that there is not
makes no difference. -/
def Operation.Prepares (definition : Definition) : Operation → Prop
  | .start | .build _ _ => True
  | .step transition => definition.hasState transition.target = false
  | .find _ | .rollback => False

namespace Machine

def Settled (machine : Machine definition σ) : Prop := machine.rollback = machine

/-- A rollback brings the memory back to what it was, and does nothing else. -/
structure RollsBackTo (after origin : Machine definition σ) : Prop where
  memory : after.rollback.memory = origin.memory
  place : SamePlace origin after.rollback
  scripts : after.rollback.store.scripts = after.store.scripts
  pins : after.rollback.store.pins = after.store.pins

theorem rollback_checkpoint (machine : Machine definition σ) :
    machine.rollback.checkpoint = none := by
  unfold rollback
  split
  next => rfl
  next nothing => exact nothing

theorem settled_iff {machine : Machine definition σ} :
    machine.Settled ↔ machine.checkpoint = none := by
  constructor
  · intro settled
    rw [← settled]
    exact machine.rollback_checkpoint
  · intro nothing
    unfold Settled rollback
    rw [nothing]

theorem rollback_settled (machine : Machine definition σ) : machine.rollback.Settled :=
  settled_iff.mpr machine.rollback_checkpoint

theorem rollback_pins (machine : Machine definition σ) :
    machine.rollback.store.pins = machine.store.pins := by
  unfold rollback
  split <;> rfl

theorem noteEnd_checkpoint (machine : Machine definition σ) :
    machine.noteEnd.checkpoint = machine.checkpoint := by
  unfold noteEnd
  split <;> rfl

theorem step_settled {machine after : Machine definition σ} {transition : Transition}
    (taken : machine.step transition = .ok after) : after.Settled := by
  unfold step at taken
  split at taken
  next =>
    cases taken
    exact settled_iff.mpr (noteEnd_checkpoint _)
  next => cases taken

theorem step_cases (machine : Machine definition σ) (transition : Transition) :
    (∃ after, definition.hasState transition.target = true ∧ machine.step transition = .ok after) ∨
      (definition.hasState transition.target = false ∧
        machine.step transition =
          .error (.unknownTarget machine.state.name transition.target)) := by
  unfold step Definition.hasState
  cases definition.stateIndex? transition.target with
  | some next => exact .inl ⟨_, rfl, rfl⟩
  | none => exact .inr ⟨rfl, rfl⟩

variable [Evaluator σ]

theorem perform_step_of_unknown (machine : Machine definition σ) {transition : Transition}
    (unknown : definition.hasState transition.target = false) :
    machine.perform (.step transition) =
      (.stepped (.error (.unknownTarget machine.state.name transition.target)), machine) := by
  rcases machine.step_cases transition with ⟨_, known, _⟩ | ⟨_, failed⟩
  · rw [unknown] at known
    cases known
  · simp only [perform, failed]

theorem perform_prepares (machine : Machine definition σ) {operation : Operation}
    (prepares : operation.Prepares definition) :
    SamePlace machine (machine.perform operation).2 ∧
      (machine.perform operation).2.checkpoint = machine.checkpoint := by
  cases operation with
  | start => exact ⟨⟨rfl, rfl, rfl⟩, rfl⟩
  | build transition input => exact ⟨machine.buildSends_samePlace transition input, rfl⟩
  | step transition =>
    rw [machine.perform_step_of_unknown prepares]
    exact ⟨⟨rfl, rfl, rfl⟩, rfl⟩
  | find item => cases prepares
  | rollback => cases prepares

theorem performAll_prepares (machine : Machine definition σ) {operations : List Operation}
    (prepares : ∀ operation ∈ operations, operation.Prepares definition) :
    SamePlace machine (machine.performAll operations) ∧
      (machine.performAll operations).checkpoint = machine.checkpoint := by
  apply performAll_induction
    (motive := fun after => SamePlace machine after ∧ after.checkpoint = machine.checkpoint)
  · exact ⟨⟨rfl, rfl, rfl⟩, rfl⟩
  · intro here ⟨place, kept⟩ operation member
    obtain ⟨stays, keeps⟩ := here.perform_prepares (prepares operation member)
    exact ⟨place.trans stays, keeps.trans kept⟩

theorem performAll_append (machine : Machine definition σ) (earlier later : List Operation) :
    machine.performAll (earlier ++ later) = (machine.performAll earlier).performAll later :=
  List.foldl_append

theorem find_rollsBackTo (machine : Machine definition σ) (item : Item)
    {between : List Operation}
    (prepares : ∀ operation ∈ between, operation.Prepares definition) :
    (machine.performAll (.find item :: between)).RollsBackTo machine := by
  have found := machine.find_samePlace item
  obtain ⟨place, kept⟩ := (machine.find item).2.performAll_prepares prepares
  have remembered := kept.trans (machine.find_checkpoint item)
  exact ⟨rollback_memory remembered, (found.trans place).trans (rollback_samePlace _),
    rollback_scripts _, rollback_pins _⟩

theorem settled_or_find (machine : Machine definition σ) {operation : Operation}
    (ends : ¬operation.Prepares definition) :
    (machine.perform operation).2.Settled ∨ ∃ item, operation = .find item := by
  cases operation with
  | start => exact absurd trivial ends
  | build transition input => exact absurd trivial ends
  | find item => exact .inr ⟨item, rfl⟩
  | rollback => exact .inl machine.rollback_settled
  | step transition =>
    rcases machine.step_cases transition with ⟨after, _, taken⟩ | ⟨unknown, _⟩
    · simp only [perform, taken]
      exact .inl (step_settled taken)
    · exact absurd unknown ends

/-- The invariant of what there is to bring back, along any operations. -/
theorem settled_or_open {machine : Machine definition σ} (settled : machine.Settled)
    (operations : List Operation) :
    (machine.performAll operations).Settled ∨
      ∃ earlier item between, operations = earlier ++ .find item :: between ∧
        ∀ operation ∈ between, operation.Prepares definition := by
  -- The induction is on the end of the list, since it is the last operation that decides.
  induction operations using List.reverseRecOn with
  | nil => exact .inl settled
  | append_singleton operations last ih =>
    rw [performAll_append]
    by_cases prepares : last.Prepares definition
    case neg =>
      rcases settled_or_find (machine.performAll operations) prepares with done | ⟨item, rfl⟩
      · exact .inl done
      · exact .inr ⟨operations, item, [], rfl, by simp⟩
    case pos =>
      rcases ih with done | ⟨earlier, item, between, rfl, prepared⟩
      · have kept := ((machine.performAll operations).perform_prepares prepares).2
        exact .inl (settled_iff.mpr (kept.trans (settled_iff.mp done)))
      · refine .inr ⟨earlier, item, between ++ [last], by simp, ?_⟩
        intro operation member
        rcases List.mem_append.mp member with old | new
        · exact prepared operation old
        · rwa [List.mem_singleton.mp new]

/-- A rollback brings back the memory of before the last search, whatever that and the building of
sends have written. It does so once, and not after a step that has been taken. A step to an unknown
target leaves the machine as it is, with what there is to bring back. So along any operations a
rollback changes nothing, or it undoes the last search. -/
theorem rollback_restores (machine : Machine definition σ) :
    (∀ item between, (∀ operation ∈ between, operation.Prepares definition) →
        (machine.performAll (.find item :: between)).RollsBackTo machine) ∧
      machine.rollback.rollback = machine.rollback ∧
      (∀ transition after, machine.step transition = .ok after → after.rollback = after) ∧
      (∀ transition, definition.hasState transition.target = false →
        machine.perform (.step transition) =
          (.stepped (.error (.unknownTarget machine.state.name transition.target)), machine)) ∧
      (machine.rollback = machine → ∀ operations,
        let after := machine.performAll operations
        after.rollback = after ∨
          ∃ earlier item between, operations = earlier ++ .find item :: between ∧
            (∀ operation ∈ between, operation.Prepares definition) ∧
            after.RollsBackTo (machine.performAll earlier)) := by
  refine ⟨fun item between => machine.find_rollsBackTo item, machine.rollback_settled,
    fun transition after => step_settled, fun transition => machine.perform_step_of_unknown, ?_⟩
  intro settled operations after
  rcases settled_or_open settled operations with done | ⟨earlier, item, between, same, prepares⟩
  · exact .inl done
  · refine .inr ⟨earlier, item, between, same, prepares, ?_⟩
    have undone := (machine.performAll earlier).find_rollsBackTo item prepares
    rwa [← performAll_append, ← same] at undone

/-- Somebody is about to lock the locker, but a message about it cannot be sent, and the locker has
no such state. -/
def lockedInVain : List Operation :=
  [.find (.status (.message "c" "p" "Ann")),
    .build { Transition.locking with
      sends := Transition.locking.sends ++ [⟨.email, .input, none, "", none, true⟩] } "Ann",
    .step (Transition.locking.withTarget "LOST")]

example :
    (locker.performAll lockedInVain).memory.keys = ["OWNER", "PIN"] ∧
      (locker.performAll lockedInVain).rollback.memory.keys = [] := by
  decide +kernel

end Machine

end Parley
