import Parley.Proofs.Machine.Evaluation
import Parley.Proofs.Machine.Item
/-!
The entry points of a machine, and the triggers that are for them.

Each entry point looks at the triggers of one protocol. For the status of a protocol it is the one
that the status names, and nothing keeps it from naming one that has an entry point of its own.
-/

namespace Parley

variable {definition : Definition} {σ : Type}

/-- The protocols with an entry point of their own. No status of them should come. -/
def Protocol.isReserved : Protocol → Bool
  | .answer | .hook | .backend | .transient => true
  | .basicMessage | .issueCredential | .presentProof | .trustPing | .email => false

namespace Item

def Suits (trigger : Event) : Item → Prop
  | .status change =>
    trigger.protocol = change.protocol ∧ (trigger.rule = .ourStatus ↔ change.ours = true)
  | .question _ => trigger.protocol = .answer
  | .hook _ => trigger.protocol = .hook
  | .backend message =>
    trigger.protocol = .backend ∧
      ∀ subject, trigger.typeId = some subject → subject = message.subject
  | .transient _ => trigger.protocol = .transient

theorem admits_iff_suits (item : Item) (trigger : Event) :
    item.admits trigger = true ↔ item.Suits trigger := by
  cases item with
  | status change => cases ours : change.ours <;> simp [admits, Machine.admitsStatus, Suits, ours]
  | backend message => simp [admits, Machine.admitsBackend, Suits, Option.all_eq_true]
  | question _ | hook _ | transient _ => simp [admits, Suits]

end Item

namespace Machine

variable [Evaluator σ]

theorem find_suits {machine : Machine definition σ} {item : Item} {transition : Transition}
    (found : (machine.find item).1 = some transition) : item.Suits transition.trigger := by
  rw [find_eq] at found
  exact (item.admits_iff_suits _).mp (firstFiring_admitted found)

theorem firstFiring_congr (content : String) {admits others : Event → Bool}
    {transitions : List Transition} (store : Store σ)
    (same : ∀ trigger ∈ transitions.map Transition.trigger, admits trigger = others trigger) :
    firstFiring definition content admits transitions store =
      firstFiring definition content others transitions store := by
  induction transitions generalizing store with
  | nil => rfl
  | cons transition rest ih =>
    obtain ⟨first, later⟩ := List.forall_mem_cons.mp same
    simp only [firstFiring, first, fun store => ih store later]

omit [Evaluator σ] in
theorem rule_of_reserved {trigger : Event} (fits : trigger.Fits .trigger)
    (reserved : trigger.protocol.isReserved = true) : trigger.rule ≠ .ourStatus := by
  intro ours
  have allowed := fits.rule
  cases kind : trigger.protocol <;>
    simp [Event.ruleFits, Rule.fitsTrigger, Protocol.isReserved, ours, kind] at allowed reserved

/-- A status that names a reserved protocol is taken for one of the items of its entry point. -/
theorem find_reserved (wellFormed : definition.WellFormed) (machine : Machine definition σ)
    {change : Status} (reserved : change.protocol.isReserved = true)
    (theirs : change.ours = false) :
    machine.find (.status change) =
      machine.resolve change.content fun trigger => trigger.protocol = change.protocol := by
  have same : ∀ trigger ∈ machine.state.transitions.map Transition.trigger,
      admitsStatus change trigger = decide (trigger.protocol = change.protocol) := by
    intro trigger member
    obtain ⟨transition, inside, rfl⟩ := List.mem_map.mp member
    by_cases kind : transition.trigger.protocol = change.protocol
    · have fits := wellFormed.transitions machine.state (List.get_mem _ _) transition inside
      have rule := rule_of_reserved fits.trigger (kind ▸ reserved)
      simp [admitsStatus, kind, rule, theirs]
    · simp [admitsStatus, kind]
  -- The searches differ in triggers for `OUR_STATUS` only, and the check lets none stand here.
  have found : firstFiring definition change.content _ _ machine.store = _ :=
    firstFiring_congr change.content machine.store same
  simp only [find, onStatus, resolve, found]

end Machine
end Parley
