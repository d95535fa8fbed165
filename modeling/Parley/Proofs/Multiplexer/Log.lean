import Parley.Proofs.Multiplexer.Closing
/-!
What is seen of a run.

An observer looks at each move before it is made and writes something down. What holds at the
beginning of what has been written down and of the state, and is kept by everything that happens,
holds after the run.
-/

namespace Parley.Multiplexer

variable {definition : Definition} {σ α : Type} {setting : Setting σ}
  {multiplexer after : Multiplexer definition σ}

def Occurrence.seen (observe : Multiplexer definition σ → Move → List α)
    (multiplexer : Multiplexer definition σ) : Occurrence → List α
  | .moved move => observe multiplexer move
  | _ => []

def taken (multiplexer : Multiplexer definition σ) : Move → List Notification
  | .routeInbound => multiplexer.inbound.items.take 1
  | .routeControl => (multiplexer.control.take 1).map .hook
  | _ => []

variable [Evaluator σ]

def log (setting : Setting σ) (observe : Multiplexer definition σ → Move → List α) :
    List Occurrence → Multiplexer definition σ → List α
  | [], _ => []
  | occurrence :: rest, multiplexer =>
    occurrence.seen observe multiplexer ++
      (multiplexer.occur? setting occurrence).elim [] (log setting observe rest)

theorem run?_append {early : List Occurrence} (later : List Occurrence)
    (ran : multiplexer.run? setting early = some after) :
    multiplexer.run? setting (early ++ later) = after.run? setting later := by
  induction early generalizing multiplexer with
  | nil => cases ran; rfl
  | cons occurrence rest ih =>
    obtain ⟨next, occurred, goesOn⟩ := Option.bind_eq_some_iff.mp ran
    rw [List.cons_append, run?, occurred, Option.bind_some, ih goesOn]

theorem log_append (observe : Multiplexer definition σ → Move → List α)
    {early : List Occurrence} (later : List Occurrence)
    (ran : multiplexer.run? setting early = some after) :
    log setting observe (early ++ later) multiplexer =
      log setting observe early multiplexer ++ log setting observe later after := by
  induction early generalizing multiplexer with
  | nil => cases ran; rfl
  | cons occurrence rest ih =>
    obtain ⟨next, occurred, goesOn⟩ := Option.bind_eq_some_iff.mp ran
    rw [List.cons_append, log, log, occurred, Option.elim_some, Option.elim_some, ih goesOn,
      List.append_assoc]

theorem log_keeps {observe : Multiplexer definition σ → Move → List α}
    {Holds : List α → Multiplexer definition σ → Prop}
    (outside : ∀ {seen before after} {occurrence : Occurrence},
      (∀ move, occurrence ≠ .moved move) → before.occur? setting occurrence = some after →
        Holds seen before → Holds seen after)
    (inside : ∀ {seen before after move}, Step setting before move after →
      Holds seen before → Holds (seen ++ observe before move) after)
    {occurrences : List Occurrence} {seen : List α} (holds : Holds seen multiplexer)
    (ran : multiplexer.run? setting occurrences = some after) :
    Holds (seen ++ log setting observe occurrences multiplexer) after := by
  induction occurrences generalizing multiplexer seen with
  | nil =>
    cases ran
    rw [log, List.append_nil]
    exact holds
  | cons occurrence rest ih =>
    obtain ⟨next, occurred, later⟩ := Option.bind_eq_some_iff.mp ran
    rw [log, occurred, Option.elim_some, ← List.append_assoc]
    refine ih ?_ later
    cases occurrence with
    | moved move => exact inside (step_of_advance? occurred) holds
    | _ =>
      simp only [Occurrence.seen, List.append_nil]
      exact outside (by simp) occurred holds

end Parley.Multiplexer
