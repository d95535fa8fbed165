import Parley.Definition.Check
import Parley.Diagram
import Parley.Proofs.Text.Lines
/-!
The lines of a diagram.

There is one line for the title, for each arrow and for each end, as long as what the author has
written into them has no line break. A line break in a name or in the data of a trigger ends the
line that it stands in, and what comes after it is a line of its own.
-/

namespace Parley.Diagram

def shownData (trigger : Event) : List String :=
  match trigger.rule with
  | .inputEqual | .inputSave => [trigger.data]
  | _ => []

def shownBy (state : State) : List String :=
  state.transitions.flatMap (fun transition =>
      state.name :: transition.target :: shownData transition.trigger) ++
    if state.terminal then [state.name] else []

def shown (definition : Definition) : List String :=
  definition.name :: definition.initial.target :: definition.states.flatMap shownBy

section Breaks

open Text (breaks)

theorem count_arrow (source target : String) :
    (arrow source target).toList.count '\n' =
      source.toList.count '\n' + target.toList.count '\n' := by
  simp [arrow, String.toList_append]

theorem count_name (protocol : Protocol) : protocol.name.toList.count '\n' = 0 := by
  cases protocol <;> decide

theorem count_ruleName (rule : Rule) : rule.name.toList.count '\n' = 0 := by
  cases rule <;> decide

theorem count_label (trigger : Event) :
    (label trigger).toList.count '\n' = breaks (shownData trigger) := by
  cases rule : trigger.rule <;>
    simp [label, shownData, rule, String.toList_append, count_name, count_ruleName]

theorem breaks_stateLines (state : State) : breaks (stateLines state) = breaks (shownBy state) := by
  rw [stateLines, shownBy, Text.breaks_append, Text.breaks_append]
  congr 1
  · induction state.transitions with
    | nil => rfl
    | cons transition rest ih =>
      rw [List.map_cons, Text.breaks_cons, ih, List.flatMap_cons, Text.breaks_append,
        Text.breaks_cons, Text.breaks_cons, ← count_label]
      simp only [String.toList_append, List.count_append, count_arrow]
      have colon : " : ".toList.count '\n' = 0 := by decide
      omega
  · split
    · have mark : outside.toList.count '\n' = 0 := by decide
      rw [Text.breaks_cons, Text.breaks_cons, count_arrow, mark]
      rfl
    · rfl

theorem breaks_titleLines (name : String) : breaks (titleLines name) = name.toList.count '\n' := by
  rw [titleLines]
  split
  next empty =>
    rw [String.isEmpty_iff.mp empty]
    rfl
  next =>
    have word : "title ".toList.count '\n' = 0 := by decide
    rw [Text.breaks_cons, Text.breaks_nil, String.toList_append, List.count_append, word]
    omega

/-- All line breaks in the lines of a diagram are its author's. -/
theorem breaks_lines (definition : Definition) :
    breaks (lines definition) = breaks (shown definition) := by
  have first : "@startuml".toList.count '\n' = 0 := by decide
  have last : breaks ["@enduml"] = 0 := by decide
  have mark : outside.toList.count '\n' = 0 := by decide
  have states : breaks (definition.states.flatMap stateLines) =
      breaks (definition.states.flatMap shownBy) := by
    simp only [Text.breaks_flatMap, breaks_stateLines]
  simp only [lines, shown, List.cons_append, Text.breaks_cons, Text.breaks_append, count_arrow,
    breaks_titleLines, first, last, mark, states]
  omega

end Breaks

theorem length_stateLines (state : State) :
    (stateLines state).length = state.transitions.length + if state.terminal then 1 else 0 := by
  rw [stateLines, List.length_append, List.length_map]
  split <;> rfl

theorem length_lines (definition : Definition) :
    (lines definition).length =
      3 + (if definition.name.isEmpty then 0 else 1) +
        (definition.states.map fun state => state.transitions.length).sum +
        definition.states.countP State.terminal := by
  have states : (definition.states.flatMap stateLines).length =
      (definition.states.map fun state => state.transitions.length).sum +
        definition.states.countP State.terminal := by
    induction definition.states with
    | nil => rfl
    | cons state rest ih =>
      rw [List.flatMap_cons, List.length_append, ih, length_stateLines, List.map_cons,
        List.sum_cons, List.countP_cons]
      omega
  have title : (titleLines definition.name).length = if definition.name.isEmpty then 0 else 1 := by
    rw [titleLines]
    split <;> rfl
  rw [lines]
  simp only [List.cons_append, List.length_cons, List.length_append, states, title, List.length_nil]
  omega

/-- A diagram has the lines that it is made of just where nothing of what the author has written
into it has a line break, and one more for each line break otherwise. -/
theorem line_per_arrow_iff (definition : Definition) :
    (Text.lines (ofDefinition definition)).length =
        3 + (if definition.name.isEmpty then 0 else 1) +
          (definition.states.map fun state => state.transitions.length).sum +
          definition.states.countP State.terminal + Text.breaks (shown definition) ∧
      (Text.lines (ofDefinition definition) = lines definition ↔
        ∀ text ∈ shown definition, '\n' ∉ text.toList) := by
  have written : ofDefinition definition = Text.unlines (lines definition) := rfl
  rw [written]
  constructor
  · rw [Text.length_lines_unlines, length_lines, breaks_lines]
  · rw [Text.lines_unlines_eq_iff, breaks_lines, Text.breaks_eq_zero_iff]

end Parley.Diagram

namespace Parley

/-- A machine with one state, which listens for a text of two lines. The second one looks like an
arrow to a state that there is not. -/
def Draft.parrot : Draft where
  name := ""
  kind := .conversation
  keepMemory := false
  initial := { trigger := none, sends := [], target := "IDLE" }
  states :=
    [("IDLE",
      { transitions :=
          [{ trigger :=
              some ⟨"basic_message", none, some "INPUT_EQUAL", some "bye\nIDLE --> GONE", none, false⟩
             sends := []
             target := "IDLE" }]
        terminate := false })]

def Definition.parrot : Definition where
  name := ""
  kind := .conversation
  keepMemory := false
  initial := { sends := [], target := "IDLE" }
  states :=
    [⟨"IDLE", [⟨⟨.basicMessage, .inputEqual, none, "bye\nIDLE --> GONE", none, true⟩, [], "IDLE"⟩],
      false⟩]
  initialIndex := ⟨0, by decide⟩
  checksum := Draft.parrot.checksum

/-- The diagram of a machine that is accepted has two arrows for its one transition. -/
theorem Diagram.break_draws_arrow :
    Draft.parrot.check = .ok Definition.parrot ∧
      Text.lines (ofDefinition .parrot) =
        ["@startuml", "[*] --> IDLE", "IDLE --> IDLE : basic_message = bye", "IDLE --> GONE",
          "@enduml"] ∧
      Text.lines (ofDefinition .parrot) ≠ lines .parrot ∧
      (Text.lines (ofDefinition .parrot)).length ≠
        3 + (Definition.parrot.states.map fun state => state.transitions.length).sum := by
  have drawn : Text.lines (ofDefinition .parrot) =
      ["@startuml", "[*] --> IDLE", "IDLE --> IDLE : basic_message = bye", "IDLE --> GONE",
        "@enduml"] := by
    decide +kernel
  refine ⟨rfl, drawn, ?_, ?_⟩
  · rw [drawn]
    decide +kernel
  · rw [drawn]
    decide +kernel

end Parley
