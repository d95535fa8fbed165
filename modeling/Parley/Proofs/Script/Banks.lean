import Mathlib.Control.Monad.Basic
import Parley.Lua.Evaluator
import Parley.Proofs.Script.Control
/-!
The banks that a script has its registers in.

A script asks for registers and sets them in a dialogue with the host, and may be of any length and
in any language. The host opens the banks for this evaluation, and what it takes over into the
memory in the end is the bank of the memory only.
-/

namespace Parley

def storing (registers : Registers) (sets : List (String × String)) : Registers :=
  sets.foldl (fun registers set => registers.insert set.1 set.2) registers

theorem storing_append (registers : Registers) (first rest : List (String × String)) :
    storing registers (first ++ rest) = storing (storing registers first) rest :=
  List.foldl_append

theorem get?_storing (registers : Registers) (sets : List (String × String)) (key : String) :
    (storing registers sets).get? key = (sets.reverse.lookup key).or (registers.get? key) := by
  induction sets generalizing registers with
  | nil => rfl
  | cons set sets ih =>
    obtain ⟨name, value⟩ := set
    have begun : storing registers ((name, value) :: sets) =
        storing (registers.insert name value) sets := rfl
    rw [begun, ih, TextMap.get?_insert, List.reverse_cons, List.lookup_append, Option.or_assoc,
      List.lookup_cons, List.lookup_nil]
    congr 1
    by_cases here : key = name
    · simp [here]
    · have other : (key == name) = false := by simpa using here
      simp [here, other]

namespace Script

def Banks.bank (banks : Banks) (name : String) : Registers :=
  if name = memoryBank then banks.memory else (banks.scratch.get? name).getD .empty

theorem Banks.get?_eq (banks : Banks) (name key : String) :
    banks.get? name key = (banks.bank name).get? key := by
  unfold get? bank
  split
  next => rfl
  next => cases banks.scratch.get? name <;> rfl

theorem Banks.bank_set (banks : Banks) (name key value other : String) :
    (banks.set name key value).bank other =
      if other = name then (banks.bank name).insert key value else banks.bank other := by
  by_cases memory : name = memoryBank
  · subst memory
    by_cases same : other = memoryBank <;> simp [set, bank, same]
  · by_cases same : other = name
    · subst same
      simp [set, bank, memory]
    · simp [set, bank, memory, same]

theorem Banks.get?_bank_opened (registers : Registers) (name key : String) :
    ((opened registers).bank name).get? key =
      if name = memoryBank then registers.get? key else none := by
  unfold opened bank
  split <;> rfl

inductive HostCall where
  | get (bank key : String) (answer : Except String String)
  | set (bank key value : String) (answer : Except String Unit)

namespace HostCall

def setIn? (bank : String) : HostCall → Option (String × String)
  | get .. => none
  | set other key value _ => if other = bank then some (key, value) else none

def setsIn (bank : String) (calls : List HostCall) : List (String × String) :=
  calls.filterMap (setIn? bank)

theorem storing_setsIn (banks : Banks) (name key value bank : String)
    (answer : Except String Unit) (calls : List HostCall) :
    storing (banks.bank bank) (setsIn bank (.set name key value answer :: calls)) =
      storing ((banks.set name key value).bank bank) (setsIn bank calls) := by
  by_cases here : name = bank
  · subst here
    simp only [setsIn, List.filterMap_cons, setIn?, if_true, Banks.bank_set]
    rfl
  · have elsewhere : bank ≠ name := fun same => here same.symm
    simp only [setsIn, List.filterMap_cons, setIn?, if_neg here, Banks.bank_set,
      if_neg elsewhere]

end HostCall

open HostCall (setsIn)

namespace Dialogue

variable {α β : Type}

def calls : Dialogue α → Option Banks → List HostCall
  | done _, _ => []
  | get bank key next, banks =>
    let answer := getRegister banks bank key
    .get bank key answer :: (next answer).calls banks
  | set bank key value next, banks =>
    let (answer, banks) := setRegister banks bank key value
    .set bank key value answer :: (next answer).calls banks

variable {dialogue : Dialogue α} {banks : Banks}

/-- The host answers with what was in the bank or has been set in it since. -/
theorem answer_of_get {before later : List HostCall} {bank key : String}
    {answer : Except String String}
    (called : dialogue.calls (some banks) = before ++ .get bank key answer :: later) :
    answer =
      match (storing (banks.bank bank) (setsIn bank before)).get? key with
      | some value => .ok value
      | none => .error ("register '" ++ key ++ "' not set in bank " ++ bank) := by
  -- What has been set so far moves from the calls into the banks, one call at a time.
  induction dialogue generalizing banks before with
  | done result => cases before <;> cases called
  | get asked name next ih =>
    cases before with
    | nil =>
      cases called
      rw [getRegister, Banks.get?_eq]
      rfl
    | cons call before =>
      obtain ⟨rfl, rest⟩ := List.cons.inj called
      have answered := ih _ rest
      exact answered
  | set name register value next ih =>
    cases before with
    | nil => cases called
    | cons call before =>
      obtain ⟨rfl, rest⟩ := List.cons.inj called
      rw [HostCall.storing_setsIn]
      exact ih _ rest

theorem answer_of_set {bank key value : String} {answer : Except String Unit}
    (called : .set bank key value answer ∈ dialogue.calls (some banks)) : answer = .ok () := by
  induction dialogue generalizing banks with
  | done result => cases called
  | get asked name next ih =>
    rcases List.mem_cons.mp called with same | later
    · cases same
    · exact ih _ later
  | set name register written next ih =>
    rcases List.mem_cons.mp called with same | later
    · cases same
      rfl
    · exact ih _ later

/-- The banks stay until the host takes them away, with what has been set in each. -/
theorem play_bound (dialogue : Dialogue α) (banks : Banks) :
    ∃ after, (dialogue.play (some banks)).2 = some after ∧
      ∀ name, after.bank name =
        storing (banks.bank name) (setsIn name (dialogue.calls (some banks))) := by
  induction dialogue generalizing banks with
  | done result => exact ⟨banks, rfl, fun _ => rfl⟩
  | get bank key next ih => exact ih _ banks
  | set bank key value next ih =>
    obtain ⟨after, ends, holds⟩ := ih (.ok ()) (banks.set bank key value)
    refine ⟨after, ends, fun name => ?_⟩
    rw [holds]
    exact (HostCall.storing_setsIn banks bank key value name (.ok ()) _).symm

theorem play_bind (first : Dialogue α) (rest : α → Dialogue β) (banks : Option Banks) :
    (first >>= rest).play banks = (rest (first.play banks).1).play (first.play banks).2 := by
  induction first generalizing banks with
  | done result => rfl
  | get bank key next ih => exact ih _ banks
  | set bank key value next ih => exact ih _ _

theorem play_unbound (dialogue : Dialogue α) : (dialogue.play none).2 = none := by
  induction dialogue with
  | done result => rfl
  | get bank key next ih => exact ih _
  | set bank key value next ih => exact ih _

end Dialogue

section Unbound

variable {σ α β : Type}

/-- What comes of a session while no registers are bound. -/
def unbound (session : Session σ α) (state : σ) : Option α × σ := ((session state).play none).1

theorem unbound_bind (first : Session σ α) (rest : α → Session σ β) (state : σ) :
    unbound (first >>= rest) state =
      match unbound first state with
      | (some value, between) => unbound (rest value) between
      | (none, between) => (none, between) := by
  change ((first state >>= _).play none).1 = _
  rw [Dialogue.play_bind, Dialogue.play_unbound, unbound]
  obtain ⟨ran, between⟩ := ((first state).play none).1
  cases ran <;> rfl

end Unbound

section Globals

variable {σ : Type} [Interpreter σ]

def readGlobals : List String → Session σ (List Global)
  | [] => return []
  | name :: rest => do return (← Interpreter.getGlobal name) :: (← readGlobals rest)

def Global.text? (value : Global) : Option String := value.toText?.join

def textsOf (answers : List (String × Global)) : List (String × String) :=
  answers.filterMap fun answer => answer.2.text?.map (answer.1, ·)

theorem textsOf_cons (answer : String × Global) (answers : List (String × Global)) :
    textsOf (answer :: answers) = textsOf [answer] ++ textsOf answers := by
  unfold textsOf
  rw [← List.filterMap_append]
  rfl

theorem lookup_zip_of_notMem {names : List String} {key : String} (absent : key ∉ names)
    (values : List Global) : (names.zip values).lookup key = none := by
  refine List.lookup_eq_none_iff.mpr fun answer among => ?_
  simp only [bne_iff_ne, ne_eq]
  exact fun same => absent (same ▸ (List.of_mem_zip among).1)

/-- A global overrides the register of its name. -/
theorem lookup_textsOf {names : List String} (distinct : names.Nodup) (values : List Global)
    (key : String) :
    (textsOf (names.zip values)).reverse.lookup key =
      ((names.zip values).lookup key).bind Global.text? := by
  induction names generalizing values with
  | nil => rfl
  | cons name names ih =>
    cases values with
    | nil => rfl
    | cons value values =>
      obtain ⟨absent, distinct⟩ := List.nodup_cons.mp distinct
      rw [List.zip_cons_cons, textsOf_cons, List.reverse_append, List.lookup_append, ih distinct,
        List.lookup_cons]
      by_cases here : key = name
      · subst here
        have elsewhere := lookup_zip_of_notMem absent values
        cases holds : value.text? <;> simp [elsewhere, textsOf, holds]
      · have other : (key == name) = false := by simpa using here
        cases holds : value.text? <;> simp [textsOf, holds, other]

theorem readGlobals_cons {name : String} {state between : σ} {value : Global}
    (read : unbound (Interpreter.getGlobal name) state = (some value, between))
    (rest : List String) :
    (unbound (readGlobals (name :: rest)) state).1 =
      (unbound (readGlobals rest) between).1.map (value :: ·) := by
  rw [readGlobals, unbound_bind, read]
  dsimp only
  rw [unbound_bind]
  obtain ⟨values, last⟩ := unbound (readGlobals rest) between
  cases values <;> rfl

theorem readGlobals_cons_of_none {name : String} {state between : σ}
    (read : unbound (Interpreter.getGlobal name) state = (none, between)) (rest : List String) :
    (unbound (readGlobals (name :: rest)) state).1 = none := by
  rw [readGlobals, unbound_bind, read]

/-- What it comes to that values of names are taken over into registers: it fails if they cannot be
read, or if one of them is no text. -/
def TakenOver (names : List String) (registers : Registers) (read : Option (List Global)) :
    Option Registers → Prop
  | some after =>
    ∃ values, read = some values ∧ (∀ value ∈ values, value.toText? ≠ none) ∧
      after = storing registers (textsOf (names.zip values))
  | none => ∀ values, read = some values → ∃ value ∈ values, value.toText? = none

theorem TakenOver.cons {name : String} {names : List String} {registers : Registers}
    {read : Option (List Global)} {value : Global} (fits : value.toText? ≠ none)
    {result : Option Registers}
    (others : TakenOver names (storing registers (textsOf [(name, value)])) read result) :
    TakenOver (name :: names) registers (read.map (value :: ·)) result := by
  cases result with
  | some after =>
    obtain ⟨values, rfl, fit, rfl⟩ := others
    refine ⟨value :: values, rfl, List.forall_mem_cons.mpr ⟨fits, fit⟩, ?_⟩
    rw [List.zip_cons_cons, textsOf_cons (name, value) (names.zip values), storing_append]
  | none =>
    intro values all
    obtain ⟨rest, some, rfl⟩ := Option.map_eq_some_iff.mp all
    obtain ⟨found, among, spoils⟩ := others rest some
    exact ⟨found, List.mem_cons_of_mem _ among, spoils⟩

theorem collectGlobals_takenOver (names : List String) (registers : Registers) (state : σ) :
    TakenOver names registers (unbound (readGlobals names) state).1
      (unbound (collectGlobals names registers) state).1 := by
  induction names generalizing registers state with
  | nil => exact ⟨[], rfl, nofun, rfl⟩
  | cons name rest ih =>
    rw [collectGlobals, unbound_bind]
    cases read : unbound (Interpreter.getGlobal name) state with
    | mk result between =>
      cases result with
      | none =>
        rw [readGlobals_cons_of_none read]
        exact nofun
      | some value =>
        rw [readGlobals_cons read]
        dsimp only
        cases holds : value.toText? with
        | none =>
          intro values all
          obtain ⟨others, _, rfl⟩ := Option.map_eq_some_iff.mp all
          exact ⟨value, List.mem_cons_self, holds⟩
        | some text? =>
          have fits : value.toText? ≠ none := by
            rw [holds]
            exact nofun
          refine .cons fits ?_
          have taken : textsOf [(name, value)] = (text?.map (name, ·)).toList := by
            simp only [textsOf, Global.text?, List.filterMap_cons, holds]
            cases text? <;> rfl
          rw [taken]
          cases text? with
          | none => exact ih registers between
          | some text => exact ih (registers.insert name text) between

end Globals

theorem withoutAnswers_storing (memory : Registers) (sets : List (String × String)) :
    withoutAnswers (storing (withoutAnswers memory) sets) =
      withoutAnswers (storing memory sets) := by
  ext key : 1
  simp only [get?_withoutAnswers, get?_storing]
  split <;> rfl

theorem withoutAnswers_textsOf (memory : Registers) (values : List Global) :
    withoutAnswers (storing memory (textsOf (Register.answers.zip values))) =
      withoutAnswers memory := by
  ext key : 1
  rw [get?_withoutAnswers, get?_withoutAnswers, get?_storing, lookup_textsOf (by decide)]
  split
  next => rfl
  next outside =>
    rw [lookup_zip_of_notMem outside]
    rfl

theorem read_prepared (memory : Registers) (input : String) :
    (prepared memory input).read Register.input = input := by
  rw [TextMap.read, get?_prepared, if_pos rfl]
  rfl

def Broken {σ : Type} (memory : Registers) (ran : Except Failure Outcome × Registers × σ) : Prop :=
  ran.1 = .error .broken ∧ ran.2.1 = memory

/-- What a run comes to whose script has set these registers in the bank of the memory and leaves
these globals to answer in, if they can be read. One that is neither nil nor a text leaves nothing of
the run; otherwise the globals override the registers of their names. -/
def Concludes {σ : Type} (memory : Registers) (input : String) (sets : List (String × String))
    (sentinel : Sentinel) (ran : Except Failure Outcome × Registers × σ) :
    Option (List Global) → Prop
  | none => Broken memory ran
  | some values =>
    ((∃ value ∈ values, value.toText? = none) → Broken memory ran) ∧
      ((∀ value ∈ values, value.toText? ≠ none) →
        ran.2.1 = withoutAnswers (storing (memory.insert Register.input input) sets) ∧
          ∃ registers : Registers, ran.1 = outcome sentinel registers ∧
            ∀ key, registers.get? key =
              (((Register.answers.zip values).lookup key).bind Global.text?).or
                ((storing (prepared memory input) sets).get? key))

theorem TakenOver.concludes {σ : Type} {memory : Registers} {input : String}
    {sets : List (String × String)} {read : Option (List Global)} {result : Option Registers}
    (taken : TakenOver Register.answers (storing (prepared memory input) sets) read result)
    (sentinel : Sentinel) (last : σ) :
    Concludes memory input sets sentinel
      (match result with
        | some registers => (outcome sentinel registers, withoutAnswers registers, last)
        | none => (.error .broken, memory, last)) read := by
  cases result with
  | some registers =>
    obtain ⟨values, rfl, fit, rfl⟩ := taken
    refine ⟨fun ⟨value, among, spoils⟩ => absurd spoils (fit value among), fun _ =>
      ⟨?_, _, rfl, fun key => ?_⟩⟩
    · dsimp only
      rw [withoutAnswers_textsOf, prepared, withoutAnswers_storing]
    · rw [get?_storing, lookup_textsOf (by decide)]
  | none =>
    cases read with
    | none => exact ⟨rfl, rfl⟩
    | some values =>
      obtain ⟨value, among, spoils⟩ := taken values rfl
      exact ⟨fun _ => ⟨rfl, rfl⟩, fun fit => absurd spoils (fit value among)⟩

section Conclusion

variable {σ : Type} [Interpreter σ] {interpreter ended : σ} {memory : Registers}
  {script input : String}

theorem run_of_end {sets : List (String × String)} {banks : Banks}
    (played : (untilEnd script input interpreter).play (some (.opened (prepared memory input))) =
      ((some (), ended), some banks))
    (set : banks.memory = storing (prepared memory input) sets) (sentinel : Sentinel) :
    Concludes memory input sets sentinel (run interpreter memory script input sentinel)
      (unbound (readGlobals Register.answers) ended).1 := by
  have taken := collectGlobals_takenOver Register.answers banks.memory ended
  have collected : (collectGlobals Register.answers banks.memory ended).play none =
      (unbound (collectGlobals Register.answers banks.memory) ended, none) :=
    Prod.ext rfl (Dialogue.play_unbound _)
  have names : [Register.output, Register.target, Register.error] = Register.answers := rfl
  simp only [run, Evaluator.run, evaluate, read_prepared, played, names, collected]
  rw [set] at taken ⊢
  generalize unbound (collectGlobals Register.answers (storing (prepared memory input) sets))
    ended = result at taken ⊢
  obtain ⟨registers, last⟩ := result
  cases registers with
  | some registers => exact taken.concludes sentinel last
  | none => exact taken.concludes sentinel last

theorem run_of_failure {banks : Banks}
    (played : (untilEnd script input interpreter).play (some (.opened (prepared memory input))) =
      ((none, ended), some banks)) (sentinel : Sentinel) :
    Broken memory (run interpreter memory script input sentinel) := by
  simp only [run, Evaluator.run, evaluate, read_prepared, played]
  exact ⟨rfl, rfl⟩

end Conclusion

/-- What is set in another bank is there for this script, but not for the next one. -/
example :
    (history Lua.State.initial .empty
        [.run "setRegValue(2, \"TMP\", \"scratch\") OUTPUT = getRegValue(2, \"TMP\")" "" .any,
          .run "OUTPUT = getRegValue(2, \"TMP\")" "" .any]).1 =
      [.ok ⟨"scratch", none, true⟩, .error .broken] := by
  decide +kernel

end Script
end Parley
