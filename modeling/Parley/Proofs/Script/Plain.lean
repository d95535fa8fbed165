import Parley.Proofs.Script.Control
import Parley.Script.Host
/-!
Global names without anything in between.

Of an interpreter no more is assumed here than what its language says of a table that has no
metatable: to set or to read a name is just that, and a name set to nil is as if it had never been
set. So in such a state the host gets rid of all answers that earlier scripts have left.
-/

namespace Parley.Script

open Interpreter (setGlobal getGlobal execute)

theorem bind_of_done {σ α β : Type} {first : Session σ α} {rest : α → Session σ β} {value : α}
    {state after : σ} (done : first state = .done (some value, after)) :
    (first >>= rest) state = rest value after := by
  simp only [bind, OptionT.bind, OptionT.mk, StateT.bind, done]
  rfl

/-- The global names of an interpreter as a table. States that no script can tell apart count as
one. -/
class RawGlobals (σ : Type) [Interpreter σ] where
  /-- The table has no metatable, and no finalizer is due that might change it. -/
  Plain : σ → Prop
  put : String → Option String → σ → σ
  held : String → σ → Global
  plain_put {state : σ} (name : String) (value : Option String) :
    Plain state → Plain (put name value state)
  setGlobal_eq {state : σ} (name : String) (value : Option String) :
    Plain state → setGlobal name value state = .done (some (), put name value state)
  getGlobal_eq {state : σ} (name : String) :
    Plain state → getGlobal name state = .done (some (held name state), state)
  held_put {state : σ} (name key : String) (value : Option String) :
    Plain state →
      held key (put name value state) = if key = name then .ofText? value else held key state
  put_nil_put {state : σ} (name : String) (value : Option String) :
    Plain state → put name none (put name value state) = put name none state
  put_nil_comm {state : σ} {name other : String} (value : Option String) :
    Plain state → name ≠ other →
      put other none (put name value state) = put name value (put other none state)

namespace RawGlobals

variable {σ : Type} [Interpreter σ] [RawGlobals σ] {state : σ}

def forget (state : σ) : σ :=
  put Register.error none (put Register.target none (put Register.output none state))

theorem plain_forget (plain : Plain state) : Plain (forget state) :=
  plain_put _ _ (plain_put _ _ (plain_put _ _ plain))

theorem forget_put {name : String} (other : name ∉ Register.answers) (value : Option String)
    (plain : Plain state) : forget (put name value state) = put name value (forget state) := by
  simp only [Register.answers, List.mem_cons, List.not_mem_nil, or_false, not_or] at other
  obtain ⟨output, target, error⟩ := other
  rw [forget, put_nil_comm value plain output,
    put_nil_comm value (plain_put _ _ plain) target,
    put_nil_comm value (plain_put _ _ (plain_put _ _ plain)) error, forget]

theorem forget_forget (plain : Plain state) : forget (forget state) = forget state := by
  have first := plain_put Register.output none plain
  have second := plain_put Register.target none first
  -- To take a name out once more comes to nothing, in whatever order the names were taken out.
  have output : put Register.output none (forget state) = forget state := by
    rw [forget, ← put_nil_comm none second (by decide), ← put_nil_comm none first (by decide),
      put_nil_put _ _ plain]
  have target : put Register.target none (forget state) = forget state := by
    rw [forget, ← put_nil_comm none second (by decide), put_nil_put _ _ first]
  have error : put Register.error none (forget state) = forget state := by
    rw [forget, put_nil_put _ _ second]
  rw [forget, output, target, error]

theorem held_forget (key : String) (plain : Plain state) :
    held key (forget state) = if key ∈ Register.answers then .nil else held key state := by
  have first := plain_put Register.output none plain
  have second := plain_put Register.target none first
  rw [forget, held_put _ _ _ second, held_put _ _ _ first, held_put _ _ _ plain]
  simp only [Register.answers, List.mem_cons, List.not_mem_nil, or_false, Global.ofText?]
  by_cases output : key = Register.output <;> by_cases target : key = Register.target <;>
    by_cases error : key = Register.error <;> simp [output, target, error]

def ready (input : String) (state : σ) : σ := forget (put Register.input (some input) state)

theorem plain_ready (input : String) (plain : Plain state) : Plain (ready input state) :=
  plain_forget (plain_put _ _ plain)

theorem ready_forget (input : String) (plain : Plain state) :
    ready input (forget state) = ready input state := by
  have given : Register.input ∉ Register.answers := by decide
  rw [ready, ← forget_put given _ plain, forget_forget (plain_put _ _ plain), ready]

end RawGlobals

open RawGlobals

variable {σ : Type} [Interpreter σ] [RawGlobals σ] {state : σ}

theorem prepareGlobals_of_plain (plain : Plain state) (input : String) :
    prepareGlobals input state = .done (some (), ready input state) := by
  have first := plain_put Register.input (some input) plain
  have second := plain_put Register.output none first
  have third := plain_put Register.target none second
  rw [prepareGlobals, bind_of_done (setGlobal_eq _ _ plain), bind_of_done (setGlobal_eq _ _ first),
    bind_of_done (setGlobal_eq _ _ second), setGlobal_eq _ _ third]
  rfl

theorem untilEnd_of_plain (plain : Plain state) (script input : String) :
    untilEnd script input state = execute script (ready input state) := by
  rw [untilEnd, bind_of_done (prepareGlobals_of_plain plain input)]

theorem evaluate_forget (plain : Plain state) (script : String) (registers : Registers) :
    evaluate (forget state) script registers = evaluate state script registers := by
  have same (input : String) :
      untilEnd script input (forget state) = untilEnd script input state := by
    rw [untilEnd_of_plain (plain_forget plain), untilEnd_of_plain plain, ready_forget input plain]
  rw [evaluate, same, evaluate]

end Parley.Script
