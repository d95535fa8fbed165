import Parley.Script.Evaluator
/-!
The registers that host and script talk through.

Whatever stands in them before a run makes no difference: the input is set, and the answers of the
run are what the evaluator gives back. This is told of single runs first, and then of histories, in
which the host changes the memory between the runs.
-/

namespace Parley

def Register.answers : List String := [output, target, error]

def Register.controls : List String := input :: answers

theorem Register.mem_controls {name : String} : name ∈ controls ↔ name = input ∨ name ∈ answers :=
  List.mem_cons

namespace Script

/-- Two memories that differ in nothing but the registers that host and script talk through. -/
def AgreeOutside (memory other : Registers) : Prop :=
  ∀ key ∉ Register.controls, memory.get? key = other.get? key

theorem AgreeOutside.refl (memory : Registers) : AgreeOutside memory memory := fun _ _ => rfl

theorem AgreeOutside.insert {memory other : Registers} (agree : AgreeOutside memory other)
    (name value : String) : AgreeOutside (memory.insert name value) (other.insert name value) := by
  intro key outside
  simp only [TextMap.get?_insert, agree key outside]

theorem AgreeOutside.insert_left {memory other : Registers} (agree : AgreeOutside memory other)
    {name : String} (control : name ∈ Register.controls) (value : String) :
    AgreeOutside (memory.insert name value) other := by
  intro key outside
  have apart : key ≠ name := fun same => outside (same ▸ control)
  rw [TextMap.get?_insert, if_neg apart, agree key outside]

theorem get?_withoutAnswers (memory : Registers) (key : String) :
    (withoutAnswers memory).get? key =
      if key ∈ Register.answers then none else memory.get? key := by
  simp only [withoutAnswers, TextMap.get?_erase, Register.answers, List.mem_cons,
    List.not_mem_nil, or_false]
  by_cases output : key = Register.output <;> by_cases target : key = Register.target <;>
    by_cases error : key = Register.error <;> simp [output, target, error]

/-- A script finds its input, no answers, and all other registers as they are. -/
theorem get?_prepared (memory : Registers) (input key : String) :
    (prepared memory input).get? key =
      if key = Register.input then some input
      else if key ∈ Register.controls then none else memory.get? key := by
  rw [prepared, get?_withoutAnswers, TextMap.get?_insert]
  by_cases given : key = Register.input
  · subst given
    rfl
  · simp only [Register.mem_controls, given, false_or, if_false]

theorem prepared_congr {memory other : Registers} (agree : AgreeOutside memory other)
    (input : String) : prepared memory input = prepared other input := by
  ext key : 1
  rw [get?_prepared, get?_prepared]
  split
  next => rfl
  next =>
    split
    next => rfl
    next outside => exact agree key outside

section Runs

variable {σ : Type} [Evaluator σ]

theorem run_memory (scripts : σ) (memory : Registers) (script input : String)
    (sentinel : Sentinel) :
    (run scripts memory script input sentinel).2.1 =
      match (Evaluator.run scripts script (prepared memory input)).1 with
      | .ok registers => withoutAnswers registers
      | .error _ => memory := by
  unfold run
  split
  next ran => rw [ran]
  next ran => rw [ran]

/-- What a run comes to does not depend on the registers that host and script talk through. -/
theorem run_congr (scripts : σ) {memory other : Registers} (agree : AgreeOutside memory other)
    (script input : String) (sentinel : Sentinel) :
    let here := run scripts memory script input sentinel
    let there := run scripts other script input sentinel
    here.1 = there.1 ∧ here.2.2 = there.2.2 ∧ AgreeOutside here.2.1 there.2.1 ∧
      ((Evaluator.run scripts script (prepared memory input)).1.isOk = true →
        here.2.1 = there.2.1) := by
  unfold run
  rw [← prepared_congr agree]
  split
  next => exact ⟨rfl, rfl, .refl _, fun _ => rfl⟩
  next failed => exact ⟨rfl, rfl, agree, fun ok => by rw [failed] at ok; cases ok⟩

end Runs

def withoutControls (memory : Registers) : Registers :=
  withoutAnswers (memory.erase Register.input)

theorem agreeOutside_withoutControls (memory : Registers) :
    AgreeOutside memory (withoutControls memory) := by
  intro key outside
  obtain ⟨given, answer⟩ := not_or.mp (mt Register.mem_controls.mpr outside)
  rw [withoutControls, get?_withoutAnswers, if_neg answer, TextMap.get?_erase, if_neg given]

inductive Act where
  /-- The host writes a register, as it does for values that are saved and proofs that are shown. -/
  | write (name value : String)
  /-- The host goes back to a memory that it has kept, or begins a new one. -/
  | restore (memory : Registers)
  | run (script input : String) (sentinel : Sentinel)

/-- What remains of an act of a host that keeps off the registers that it talks to scripts
through. -/
def Act.honest? : Act → Option Act
  | write name value => if name ∈ Register.controls then none else some (write name value)
  | restore memory => some (restore (withoutControls memory))
  | run script input sentinel => some (run script input sentinel)

def history {σ : Type} [Evaluator σ] :
    σ → Registers → List Act → List (Except Failure Outcome) × Registers × σ
  | scripts, memory, [] => ([], memory, scripts)
  | scripts, memory, .write name value :: rest => history scripts (memory.insert name value) rest
  | scripts, _, .restore memory :: rest => history scripts memory rest
  | scripts, memory, .run script input sentinel :: rest =>
    let (outcome, memory, scripts) := run scripts memory script input sentinel
    let (outcomes, final) := history scripts memory rest
    (outcome :: outcomes, final)

variable {σ : Type} [Evaluator σ]

/-- Runs come to the same with a host that keeps off the registers that it talks to scripts through,
whatever was in them at the beginning. -/
theorem history_congr (scripts : σ) {memory other : Registers}
    (agree : AgreeOutside memory other) (acts : List Act) :
    (history scripts memory acts).1 =
        (history scripts other (acts.filterMap Act.honest?)).1 ∧
      (history scripts memory acts).2.2 =
        (history scripts other (acts.filterMap Act.honest?)).2.2 := by
  induction acts generalizing scripts memory other with
  | nil => exact ⟨rfl, rfl⟩
  | cons act rest ih =>
    cases act with
    | write name value =>
      by_cases control : name ∈ Register.controls
      · simp only [List.filterMap_cons, Act.honest?, if_pos control]
        exact ih scripts (agree.insert_left control value)
      · simp only [List.filterMap_cons, Act.honest?, if_neg control]
        exact ih scripts (agree.insert name value)
    | restore kept => exact ih scripts (agreeOutside_withoutControls kept)
    | run script input sentinel =>
      obtain ⟨outcome, evaluator, after, _⟩ := run_congr scripts agree script input sentinel
      obtain ⟨outcomes, last⟩ := ih (run scripts memory script input sentinel).2.2 after
      simp only [List.filterMap_cons, Act.honest?, history]
      rw [outcome, outcomes, last, evaluator]
      exact ⟨rfl, rfl⟩

end Script
end Parley
