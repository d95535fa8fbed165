import Parley.Lua.Evaluator
import Parley.Proofs.Script.Plain
import Parley.Proofs.Text.Bytes
/-!
The table of global names of Lua programs.

As long as it has no metatable, nothing comes between it and those who set and read names.
-/

namespace Parley.Lua

theorem bytes_ne {text other : String} (apart : text ≠ other) :
    text.toUTF8.toList ≠ other.toUTF8.toList := by
  intro same
  have bytes : Text.bytes text = Text.bytes other := same
  have whole := Text.fromUTF8?_bytes text
  rw [bytes, Text.fromUTF8?_bytes other] at whole
  exact apart (Option.some.inj whole).symm

theorem Value.same_string {held : Value} {bytes : List UInt8} :
    held.same (.string bytes) = true ↔ held = .string bytes := by
  cases held <;> simp [same]

theorem Value.same_of_ne {held : Value} {key other : List UInt8} (apart : key ≠ other)
    (here : held.same (.string key) = true) : held.same (.string other) = false := by
  rw [same_string.mp here]
  simpa [same] using apart

namespace Table

theorem find_erase (key : List UInt8) (table : Table) :
    (table.erase (.string key)).find (.string key) = .nil := by
  induction table with
  | nil => rfl
  | cons entry rest ih =>
    cases same : entry.1.same (.string key) with
    | true => simpa [erase, same] using ih
    | false => simpa [erase, same, find] using ih

theorem find_erase_of_ne {key other : List UInt8} (apart : key ≠ other) (table : Table) :
    (table.erase (.string other)).find (.string key) = table.find (.string key) := by
  induction table with
  | nil => rfl
  | cons entry rest ih =>
    cases gone : entry.1.same (.string other) with
    | true =>
      have kept := Value.same_of_ne apart.symm gone
      simpa [erase, gone, find, kept] using ih
    | false =>
      cases here : entry.1.same (.string key) with
      | true => simp [erase, gone, find, here]
      | false => simpa [erase, gone, find, here] using ih

theorem find_put (key : List UInt8) (value : Value) (table : Table) :
    (table.put (.string key) value).find (.string key) = value := by
  have itself : (Value.string key).same (.string key) = true := Value.same_string.mpr rfl
  induction table with
  | nil => simp [put, find, itself]
  | cons entry rest ih =>
    cases here : entry.1.same (.string key) with
    | true => simp [put, find, here]
    | false => simpa [put, find, here] using ih

theorem find_put_of_ne {key other : List UInt8} (apart : key ≠ other) (value : Value)
    (table : Table) :
    (table.put (.string other) value).find (.string key) = table.find (.string key) := by
  induction table with
  | nil =>
    have kept := Value.same_of_ne apart.symm (Value.same_string.mpr rfl)
    simp [put, find, kept]
  | cons entry rest ih =>
    cases here : entry.1.same (.string other) with
    | true =>
      have elsewhere := Value.same_of_ne apart.symm here
      simp [put, find, here, elsewhere]
    | false =>
      cases found : entry.1.same (.string key) with
      | true => simp [put, find, here, found]
      | false => simpa [put, find, here, found] using ih

theorem erase_put {key other : List UInt8} (apart : key ≠ other) (value : Value) (table : Table) :
    (table.put (.string key) value).erase (.string other) =
      (table.erase (.string other)).put (.string key) value := by
  induction table with
  | nil =>
    have kept := Value.same_of_ne apart (Value.same_string.mpr rfl)
    simp [put, erase, kept]
  | cons entry rest ih =>
    cases here : entry.1.same (.string key) with
    | true =>
      have stays := Value.same_of_ne apart here
      simp [put, erase, here, stays]
    | false =>
      cases gone : entry.1.same (.string other) with
      | true => simpa [put, erase, here, gone] using ih
      | false => simpa [put, erase, here, gone] using ih

theorem erase_put_self (key : List UInt8) (value : Value) (table : Table) :
    (table.put (.string key) value).erase (.string key) = table.erase (.string key) := by
  have itself : (Value.string key).same (.string key) = true := Value.same_string.mpr rfl
  induction table with
  | nil => simp [put, erase, itself]
  | cons entry rest ih =>
    cases here : entry.1.same (.string key) with
    | true => simp [put, erase, here]
    | false => simpa [put, erase, here] using ih

theorem erase_erase (key : Value) (table : Table) :
    (table.erase key).erase key = table.erase key := by
  simp only [erase, List.filter_filter, Bool.and_self]

theorem erase_comm (key other : Value) (table : Table) :
    (table.erase key).erase other = (table.erase other).erase key := by
  simp only [erase, List.filter_filter, Bool.and_comm]

section Set

variable {name other : String} (value : Option String) (table : Table)

theorem find_set (key : String) :
    (table.set (ofText name) (.ofText? value)).find (ofText key) =
      if key = name then .ofText? value else table.find (ofText key) := by
  by_cases same : key = name
  · subst same
    rw [if_pos rfl]
    cases value with
    | none => exact find_erase _ table
    | some text => exact find_put _ _ table
  · have apart := bytes_ne same
    rw [if_neg same]
    cases value with
    | none => exact find_erase_of_ne apart table
    | some text => exact find_put_of_ne apart _ table

theorem erase_set_self :
    (table.set (ofText name) (.ofText? value)).erase (ofText name) =
      table.erase (ofText name) := by
  cases value with
  | none => exact erase_erase _ table
  | some text => exact erase_put_self _ _ table

theorem erase_set (apart : name ≠ other) :
    (table.set (ofText name) (.ofText? value)).erase (ofText other) =
      (table.erase (ofText other)).set (ofText name) (.ofText? value) := by
  cases value with
  | none => exact erase_comm _ _ table
  | some text => exact erase_put (bytes_ne apart) _ table

end Set

end Table

namespace State

/-- The table of global names is there, and no script has given it a metatable. -/
def Plain (state : State) : Prop :=
  globalsAddress < state.tables.size ∧ state.metatables.lookup globalsAddress = none

instance (state : State) : Decidable state.Plain := inferInstanceAs (Decidable (_ ∧ _))

def globals (state : State) : Table := state.tables.getD globalsAddress []

def withGlobals (state : State) (change : Table → Table) : State :=
  { state with tables := state.tables.setIfInBounds globalsAddress (change state.globals) }

theorem Plain.withGlobals {state : State} (plain : state.Plain) (change : Table → Table) :
    (state.withGlobals change).Plain := by
  refine ⟨?_, plain.2⟩
  simpa [State.withGlobals] using plain.1

theorem globals_withGlobals {state : State} (plain : state.Plain) (change : Table → Table) :
    (state.withGlobals change).globals = change state.globals := by
  simp [withGlobals, globals, plain.1]

theorem withGlobals_withGlobals {state : State} (plain : state.Plain)
    (first second : Table → Table) :
    (state.withGlobals first).withGlobals second = state.withGlobals (second ∘ first) := by
  rw [withGlobals, globals_withGlobals plain]
  simp [withGlobals]

end State

theorem bind_of_ok {α β : Type} {first : Run α} {rest : α → Run β} {value : α}
    {state after : State} (done : first state = .done (.ok value, after)) :
    (first >>= rest) state = rest value after := by
  simp only [bind, ExceptT.bind, ExceptT.mk, StateT.bind, done]
  rfl

variable {state : State}

theorem handlerOf_of_plain (plain : state.Plain) (event : String) :
    handlerOf event (.table globalsAddress) state = .done (.ok .nil, state) := by
  have looked : metatable? (.table globalsAddress) state =
      .done (.ok (state.metatables.lookup globalsAddress), state) := rfl
  rw [plain.2] at looked
  rw [handlerOf, bind_of_ok looked]
  rfl

theorem placeHandler_of_plain (plain : state.Plain) (key : Value) :
    placeHandler (.table globalsAddress) key state = .done (.ok .nil, state) := by
  have own : ownField (.table globalsAddress) key state =
      .done (.ok (state.globals.find key), state) := rfl
  rw [placeHandler, bind_of_ok own]
  cases state.globals.find key with
  | nil => exact handlerOf_of_plain plain "__newindex"
  | _ => rfl

theorem readGlobal_of_plain (plain : state.Plain) (name : String) :
    readGlobal name state = .done (.ok (state.globals.find (ofText name)), state) := by
  have own : ownField (.table globalsAddress) (ofText name) state =
      .done (.ok (state.globals.find (ofText name)), state) := rfl
  have found : lookUp (ofText name) chainLimit (.table globalsAddress) state =
      .done (.ok (.value (state.globals.find (ofText name))), state) := by
    rw [chainLimit, lookUp, bind_of_ok own]
    cases state.globals.find (ofText name) with
    | nil =>
      dsimp only
      rw [bind_of_ok (handlerOf_of_plain plain "__index")]
      rfl
    | _ => rfl
  rw [readGlobal, fuelLimit, readIndex, bind_of_ok found, answer]
  rfl

theorem writeGlobal_of_plain (plain : state.Plain) (name : String) (value : Value) :
    writeGlobal name value state =
      .done (.ok (), state.withGlobals (·.set (ofText name) value)) := by
  have assigned : assign (ofText name) value chainLimit (.table globalsAddress) state =
      .done (.ok (.value .nil), state.withGlobals (·.set (ofText name) value)) := by
    rw [chainLimit, assign, bind_of_ok (placeHandler_of_plain plain _)]
    rfl
  rw [writeGlobal, fuelLimit, writeIndex, bind_of_ok assigned, answer]
  rfl

open Script (RawGlobals)

instance : RawGlobals State where
  Plain := State.Plain
  put name value state := state.withGlobals (·.set (ofText name) (.ofText? value))
  held name state := (state.globals.find (ofText name)).toGlobal
  plain_put name value plain := plain.withGlobals _
  setGlobal_eq name value plain := by
    simp only [Script.Interpreter.setGlobal, toSession, writeGlobal_of_plain plain]
    rfl
  getGlobal_eq name plain := by
    simp only [Script.Interpreter.getGlobal, toSession, bind_of_ok (readGlobal_of_plain plain name)]
    rfl
  held_put name key value plain := by
    rw [State.globals_withGlobals plain, Table.find_set]
    split
    next => cases value <;> rfl
    next => rfl
  put_nil_put name value plain := by
    rw [State.withGlobals_withGlobals plain]
    exact congrArg _ (funext (Table.erase_set_self value))
  put_nil_comm value plain apart := by
    rw [State.withGlobals_withGlobals plain, State.withGlobals_withGlobals plain]
    exact congrArg _ (funext fun table => Table.erase_set value table apart)

instance : DecidablePred (RawGlobals.Plain : State → Prop) :=
  inferInstanceAs (DecidablePred State.Plain)

end Parley.Lua
