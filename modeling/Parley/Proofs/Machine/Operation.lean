import Parley.Proofs.Machine.Item
/-!
What can be done with a machine from outside, and what is seen of it.

Machines are told apart by what is seen: the answers to operations, and after each of them the name
of the state, whether it is terminal, whether the end has come and been told, and the memory.
-/

namespace Parley

inductive Operation where
  | start
  | find (item : Item)
  | build (transition : Transition) (input : String)
  | step (transition : Transition)
  | rollback

inductive Answer where
  | sends (result : Except Fault (List Send))
  | found (transition : Option Transition)
  | stepped (result : Except Fault Unit)
  | done

structure Observation where
  answer : Answer
  state : String
  terminal : Bool
  terminated : Bool
  signal : EndSignal
  memory : Registers

namespace Machine

variable {definition : Definition} {σ : Type} [Evaluator σ]

/-- A step that fails leaves the machine as it is. -/
def perform (machine : Machine definition σ) : Operation → Answer × Machine definition σ
  | .start =>
    let (sends, after) := machine.start
    (.sends sends, after)
  | .find item =>
    let (found, after) := machine.find item
    (.found found, after)
  | .build transition input =>
    let (sends, after) := machine.buildSends transition input
    (.sends sends, after)
  | .step transition =>
    match machine.step transition with
    | .ok after => (.stepped (.ok ()), after)
    | .error fault => (.stepped (.error fault), machine)
  | .rollback => (.done, machine.rollback)

def performAll (machine : Machine definition σ) (operations : List Operation) :
    Machine definition σ :=
  operations.foldl (fun machine operation => (machine.perform operation).2) machine

omit [Evaluator σ] in
def observed (machine : Machine definition σ) (answer : Answer) : Observation where
  answer := answer
  state := machine.state.name
  terminal := machine.state.terminal
  terminated := machine.terminated
  signal := machine.signal
  memory := machine.memory

def observe (machine : Machine definition σ) : List Operation → List Observation
  | [] => []
  | operation :: rest =>
    let (answer, after) := machine.perform operation
    after.observed answer :: after.observe rest

/-- An invariant that each operation keeps holds after all of them. -/
theorem performAll_induction {motive : Machine definition σ → Prop}
    {machine : Machine definition σ} (operations : List Operation) (start : motive machine)
    (keep : ∀ machine, motive machine → ∀ operation ∈ operations,
      motive (machine.perform operation).2) : motive (machine.performAll operations) := by
  induction operations generalizing machine with
  | nil => exact start
  | cons operation rest ih =>
    obtain ⟨first, later⟩ : (∀ machine, motive machine → motive (machine.perform operation).2) ∧
        ∀ machine, motive machine → ∀ other ∈ rest, motive (machine.perform other).2 :=
      ⟨fun machine held => keep machine held operation List.mem_cons_self,
        fun machine held other member => keep machine held other (List.mem_cons_of_mem _ member)⟩
    exact ih (first machine start) later

/-- Machines look alike as long as operations keep them in a relation in which they are seen as the
same. -/
theorem observe_of_related {other : Definition} {τ : Type} [Evaluator τ]
    (related : Machine definition σ → Machine other τ → Prop) {operations : List Operation}
    (keep : ∀ here there, related here there → ∀ operation ∈ operations,
      related (here.perform operation).2 (there.perform operation).2 ∧
        (here.perform operation).2.observed (here.perform operation).1 =
          (there.perform operation).2.observed (there.perform operation).1)
    {here : Machine definition σ} {there : Machine other τ} (start : related here there) :
    here.observe operations = there.observe operations := by
  induction operations generalizing here there with
  | nil => rfl
  | cons operation rest ih =>
    obtain ⟨later, seen⟩ := keep here there start operation List.mem_cons_self
    have after := ih (fun here there held operation member =>
      keep here there held operation (List.mem_cons_of_mem _ member)) later
    simp only [observe, seen, after]

end Machine
end Parley
