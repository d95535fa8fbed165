import Mathlib.Control.Monad.Basic
import Parley.Proofs.Lua.Globals
/-!
What scripts leave behind in global names.

As long as nothing comes between the host and the table of these names, every run starts without the
answers of earlier ones.
-/

namespace Parley.Script

open Interpreter (getGlobal execute)
open RawGlobals (Plain forget ready held)

section Forgetful

variable {σ : Type} [Interpreter σ] [RawGlobals σ]

/-- An interpreter that forgets what scripts have answered before it runs the next one. -/
structure Forgetful (σ : Type) where
  interpreter : σ

instance : Evaluator (Forgetful σ) where
  run forgetful script registers :=
    let (result, interpreter) := evaluate (forget forgetful.interpreter) script registers
    (result, ⟨interpreter⟩)

/-- Whenever a script is run, the interpreter is in a plain state. -/
def PlainAlong : σ → Registers → List Act → Prop
  | _, _, [] => True
  | state, memory, .write name value :: rest => PlainAlong state (memory.insert name value) rest
  | state, _, .restore memory :: rest => PlainAlong state memory rest
  | state, memory, .run script input sentinel :: rest =>
    let ran := run state memory script input sentinel
    Plain state ∧ PlainAlong ran.2.2 ran.2.1 rest

instance PlainAlong.decide [DecidablePred (Plain : σ → Prop)] :
    (state : σ) → (memory : Registers) → (acts : List Act) →
      Decidable (PlainAlong state memory acts)
  | _, _, [] => inferInstanceAs (Decidable True)
  | state, memory, .write name value :: rest => decide state (memory.insert name value) rest
  | state, _, .restore memory :: rest => decide state memory rest
  | state, memory, .run script input sentinel :: rest =>
    have := decide (run state memory script input sentinel).2.2
      (run state memory script input sentinel).2.1 rest
    inferInstanceAs (Decidable (_ ∧ _))

theorem run_forgetful {state : σ} (plain : Plain state) (memory : Registers)
    (script input : String) (sentinel : Sentinel) :
    let here := run state memory script input sentinel
    run (Forgetful.mk state) memory script input sentinel = (here.1, here.2.1, ⟨here.2.2⟩) := by
  have same := evaluate_forget plain script (prepared memory input)
  unfold run Evaluator.run
  simp only [instEvaluatorForgetful, instEvaluator, same]
  generalize evaluate state script (prepared memory input) = result
  obtain ⟨outcome, after⟩ := result
  cases outcome <;> rfl

theorem history_forgetful {state : σ} {memory : Registers} {acts : List Act}
    (plain : PlainAlong state memory acts) :
    (history (Forgetful.mk state) memory acts).1 = (history state memory acts).1 := by
  induction acts generalizing state memory with
  | nil => rfl
  | cons act rest ih =>
    cases act with
    | write name value => exact ih plain
    | restore kept => exact ih plain
    | run script input sentinel =>
      obtain ⟨here, later⟩ := plain
      simp only [history, run_forgetful here, ih later]

/-- A script starts where none of its answers is set, neither as a register nor as a global name. -/
theorem starts_unanswered {state : σ} (plain : Plain state) (memory : Registers)
    (script input : String) :
    untilEnd script input state = execute script (ready input state) ∧
      Plain (ready input state) ∧
      getGlobal Register.input (ready input state) =
        .done (some (.ofText? input), ready input state) ∧
      ∀ name ∈ Register.answers,
        (prepared memory input).get? name = none ∧
          getGlobal name (ready input state) = .done (some .nil, ready input state) := by
  have begun := RawGlobals.plain_ready input plain
  have given := RawGlobals.plain_put Register.input (some input) plain
  have reads (name : String) : getGlobal name (ready input state) =
      .done (some (held name (ready input state)), ready input state) :=
    RawGlobals.getGlobal_eq name begun
  refine ⟨untilEnd_of_plain plain script input, begun, ?_, fun name answer => ⟨?_, ?_⟩⟩
  · rw [reads, ready, RawGlobals.held_forget _ given, if_neg (by decide),
      RawGlobals.held_put _ _ _ plain, if_pos rfl]
  · have apart : name ≠ Register.input := by
      rintro rfl
      exact absurd answer (by decide)
    have control : name ∈ Register.controls := List.mem_cons_of_mem _ answer
    rw [get?_prepared, if_neg apart, if_pos control]
  · rw [reads, ready, RawGlobals.held_forget _ given, if_pos answer]

end Forgetful

/-- The answers of a script are its own. Single runs do not depend on what stands in the registers
that host and script talk through. With an interpreter, and as long as nothing comes between the
host and the table of global names, histories depend neither on what the host writes in these
registers nor on what earlier scripts have answered, and each script starts unanswered. -/
theorem answers_are_own {σ τ : Type} [Evaluator σ] [Interpreter τ] [RawGlobals τ] (scripts : σ)
    (interpreter : τ) (memory : Registers) (script input : String) (sentinel : Sentinel) :
    (∀ other, AgreeOutside memory other →
      let here := run scripts memory script input sentinel
      let there := run scripts other script input sentinel
      here.1 = there.1 ∧ here.2.2 = there.2.2 ∧
        ((Evaluator.run scripts script (prepared memory input)).1.isOk = true →
          here.2.1 = there.2.1)) ∧
      (run scripts memory script input sentinel).2.1 =
        (match (Evaluator.run scripts script (prepared memory input)).1 with
          | .ok registers => withoutAnswers registers
          | .error _ => memory) ∧
      (∀ (other : Registers) (acts : List Act),
        AgreeOutside memory other → PlainAlong interpreter memory acts →
          (history interpreter memory acts).1 =
            (history (Forgetful.mk interpreter) other (acts.filterMap Act.honest?)).1) ∧
      (Plain interpreter →
        ∃ begun : τ, Plain begun ∧
          untilEnd script input interpreter = execute script begun ∧
          getGlobal Register.input begun = .done (some (.ofText? input), begun) ∧
          ∀ name ∈ Register.answers,
            (prepared memory input).get? name = none ∧
              getGlobal name begun = .done (some .nil, begun)) := by
  refine ⟨fun other agree => ?_, run_memory scripts memory script input sentinel,
    fun other acts agree plain => ?_, fun plain => ?_⟩
  · obtain ⟨outcome, evaluator, _, after⟩ := run_congr scripts agree script input sentinel
    exact ⟨outcome, evaluator, after⟩
  · rw [← history_forgetful plain]
    exact (history_congr _ agree acts).1
  · obtain ⟨starts, begun, given, unanswered⟩ := starts_unanswered plain memory script input
    exact ⟨ready input interpreter, begun, starts, given, unanswered⟩

/-- Scripts that answer, and a host that forges their answers meanwhile. -/
def forged : List Act :=
  [.run "OUTPUT = INPUT .. \"!\" TARGET = \"B\" kept = 1" "one" .any,
    .write "OUTPUT" "forged", .write "LINE" "saved", .write "TARGET" "forged",
    .run "ERROR = getRegValue(1, \"LINE\") .. kept" "two" .any]

def planted : Registers := TextMap.empty.insert Register.output "forged"

/-- The second script answers nothing, and says why with what it may see. -/
theorem forged_in_vain :
    AgreeOutside planted .empty ∧ PlainAlong Lua.State.initial planted forged ∧
      Plain Lua.State.initial ∧
      (run Lua.State.initial planted "local n = 1" "in" .any).1 = .error (.missingOutput none) ∧
      (history Lua.State.initial planted forged).1 =
        [.ok ⟨"one!", some "B", true⟩, .error (.missingOutput (some "saved1"))] ∧
      ∃ begun : Lua.State,
        untilEnd "local n = 1" "in" Lua.State.initial = execute "local n = 1" begun ∧
          getGlobal Register.output begun = .done (some .nil, begun) := by
  have agree : AgreeOutside planted .empty :=
    (AgreeOutside.refl .empty).insert_left (by decide) "forged"
  have plain : PlainAlong Lua.State.initial planted forged := by decide +kernel
  have initial : Plain Lua.State.initial := by decide
  obtain ⟨single, _, histories, starts⟩ :=
    answers_are_own Lua.State.initial Lua.State.initial planted "local n = 1" "in" .any
  refine ⟨agree, plain, initial, ?_, ?_, ?_⟩
  · rw [(single .empty agree).1]
    decide +kernel
  · rw [histories .empty forged agree plain]
    decide +kernel
  · obtain ⟨begun, _, started, _, unanswered⟩ := starts initial
    exact ⟨begun, started, (unanswered Register.output (by decide)).2⟩

/-- What one script has put into a metatable answers for all scripts after it. -/
theorem metatable_answers :
    (history Lua.State.initial .empty
        [.run "setmetatable(_G, \x7b__index = \x7bOUTPUT = \"OK\"\x7d\x7d) OUTPUT = \"x\"" "in"
            .any,
          .run "local n = 1" "in" .any]).1 =
        [.ok ⟨"x", none, true⟩, .ok ⟨"OK", none, true⟩] ∧
      (history Lua.State.initial .empty [.run "local n = 1" "in" .any]).1 =
        [.error (.missingOutput none)] := by
  decide +kernel

end Parley.Script
