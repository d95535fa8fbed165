import Parley.Lua.Evaluator
import Parley.Proofs.Machine.Entry
import Parley.Proofs.Machine.Reached
/-!
Which transition is found, and what the search leaves in the memory.

The transitions of the current state whose triggers are for the item are tried in their order, until
the rule of one of them holds. A script that is run keeps what it has written, whether or not its
trigger fires, and the next trigger is held against that.
-/

namespace Parley

variable {definition : Definition} {σ : Type}

instance (item : Item) (trigger : Event) : Decidable (item.Suits trigger) :=
  decidable_of_iff _ (item.admits_iff_suits trigger)

variable [Evaluator σ]

theorem Store.ok_of_runScript {store : Store σ} {script input : String}
    {sentinel : Script.Sentinel} {outcome : Script.Outcome}
    (answered : (store.runScript script input sentinel).1 = some (.ok outcome)) :
    outcome.ok = sentinel.accepts outcome.output := by
  unfold runScript at answered
  split at answered
  next => cases answered
  next scripts _ =>
    simp only [Script.run, Option.some.injEq] at answered
    split at answered
    next registers _ _ =>
      simp only [Script.outcome] at answered
      split at answered
      next => cases answered; rfl
      next => cases answered
    next => cases answered

namespace Event

def Answers (event : Event) (content : String) (store : Store σ) (outcome : Script.Outcome) :
    Prop :=
  (store.runScript event.data content .usual).1 = some (.ok outcome)

def Holds (event : Event) (content : String) (store : Store σ) : Prop :=
  match event.rule with
  | .input | .data | .transient | .ourStatus | .inputSave => True
  | .acceptAndInputValues | .notAcceptValues => True
  | .inputEqual => content = event.data
  | .validateEqual => store.memory.read event.data = content
  | .validateNotEqual => store.memory.read event.data ≠ content
  | .lua => ∃ outcome, event.Answers content store outcome ∧ outcome.output = "OK"
  | .format | .formatMem | .genPin => False

def AsksFor (event : Event) (content : String) (store : Store σ) (target : String) : Prop :=
  event.rule = .lua ∧ ∃ outcome, event.Answers content store outcome ∧ outcome.target = some target

/-- What holding a content against the trigger leaves: only a script writes. -/
def tried (event : Event) (content : String) (store : Store σ) : Store σ :=
  if event.rule = .lua then (store.runScript event.data content .usual).2 else store

def fired (event : Event) (content : String) (store : Store σ) : Store σ :=
  if event.rule = .inputSave then store.write event.data content else event.tried content store

variable {event : Event} {content : String} {store : Store σ}

theorem fires_of_not_holds (fails : ¬event.Holds content store) :
    event.fires content store = (none, event.tried content store) := by
  cases rule : event.rule <;> simp only [Holds, rule, not_true_eq_false] at fails
  case lua =>
    simp only [fires, tried, rule, if_true]
    split
    next outcome after ran =>
      have answered : event.Answers content store outcome := by rw [Answers, ran]
      have sad : outcome.ok = false := by
        rw [Store.ok_of_runScript answered]
        simpa [Script.Sentinel.usual, Script.Sentinel.accepts, eq_comm] using
          fun happy => fails ⟨outcome, answered, happy⟩
      rw [ran, sad]
      rfl
    next _ ran => rw [ran]
  all_goals simp [fires, tried, rule, Fired.when, fails]

theorem fires_of_holds (holds : event.Holds content store) :
    ∃ target, event.fires content store = (some ⟨target⟩, event.fired content store) ∧
      ∀ name, target = some name ↔ event.AsksFor content store name := by
  cases rule : event.rule <;> simp only [Holds, rule] at holds
  case lua =>
    obtain ⟨outcome, answered, happy⟩ := holds
    have succeeded : outcome.ok = true := by
      rw [Store.ok_of_runScript answered]
      simp [Script.Sentinel.usual, Script.Sentinel.accepts, happy]
    have ran : store.runScript event.data content .usual =
        (some (.ok outcome), (store.runScript event.data content .usual).2) :=
      Prod.ext answered rfl
    refine ⟨outcome.target, ?_, fun name => ⟨fun asked => ⟨rule, outcome, answered, asked⟩, ?_⟩⟩
    · simp only [fires, fired, tried, rule, if_true, reduceCtorEq, if_false]
      rw [ran]
      simp [succeeded]
    · rintro ⟨_, other, same, asked⟩
      have equal : outcome = other := Except.ok.inj (Option.some.inj (answered.symm.trans same))
      exact equal ▸ asked
  all_goals
    exact ⟨none, by simp [fires, fired, tried, rule, Fired.when, Fired.plain, holds],
      by simp [AsksFor, rule]⟩

theorem tried_of_rule (scriptless : event.rule ≠ .lua) : event.tried content store = store :=
  if_neg scriptless

end Event

namespace Store

def leftBy (content : String) (store : Store σ) (candidates : List Transition) : Store σ :=
  candidates.foldl (fun store candidate => candidate.trigger.tried content store) store

theorem leftBy_cons (content : String) (store : Store σ) (candidate : Transition)
    (rest : List Transition) :
    store.leftBy content (candidate :: rest) =
      (candidate.trigger.tried content store).leftBy content rest := rfl

theorem leftBy_of_rules {content : String} {store : Store σ} {candidates : List Transition}
    (scriptless : ∀ candidate ∈ candidates, candidate.trigger.rule ≠ .lua) :
    store.leftBy content candidates = store := by
  induction candidates with
  | nil => rfl
  | cons candidate rest ih =>
    obtain ⟨first, later⟩ := List.forall_mem_cons.mp scriptless
    rw [leftBy_cons, Event.tried_of_rule first, ih later]

def Misses (content : String) (store : Store σ) (candidates : List Transition) : Prop :=
  ∀ before candidate later, candidates = before ++ candidate :: later →
    ¬candidate.trigger.Holds content (store.leftBy content before)

theorem misses_nil (content : String) (store : Store σ) : store.Misses content [] := by
  intro before candidate later split
  cases before <;> cases split

theorem misses_cons {content : String} {store : Store σ} {candidate : Transition}
    {rest : List Transition} :
    store.Misses content (candidate :: rest) ↔
      ¬candidate.trigger.Holds content store ∧
        (candidate.trigger.tried content store).Misses content rest := by
  constructor
  · intro misses
    refine ⟨misses [] candidate rest rfl, fun before other later split => ?_⟩
    exact misses (candidate :: before) other later (by rw [split, List.cons_append])
  · rintro ⟨first, others⟩ before other later split
    cases before with
    | nil =>
      cases split
      exact first
    | cons head before =>
      cases split
      exact others before other later rfl

theorem misses_or_holds (content : String) (store : Store σ) (candidates : List Transition) :
    store.Misses content candidates ∨
      ∃ before declared later, candidates = before ++ declared :: later ∧
        store.Misses content before ∧
          declared.trigger.Holds content (store.leftBy content before) := by
  induction candidates generalizing store with
  | nil => exact .inl (misses_nil content store)
  | cons candidate rest ih =>
    by_cases holds : candidate.trigger.Holds content store
    · exact .inr ⟨[], candidate, rest, rfl, misses_nil content store, holds⟩
    · rcases ih (candidate.trigger.tried content store) with all | ⟨before, declared, later, split,
        misses, holds'⟩
      · exact .inl (misses_cons.mpr ⟨holds, all⟩)
      · exact .inr ⟨candidate :: before, declared, later, by rw [split, List.cons_append],
          misses_cons.mpr ⟨holds, misses⟩, holds'⟩

end Store

namespace Machine

def candidates (machine : Machine definition σ) (item : Item) : List Transition :=
  machine.state.transitions.filter fun transition => item.Suits transition.trigger

/-- The first candidate whose rule holds on the memory that those before it leave. -/
structure FirstMatch (machine : Machine definition σ) (item : Item) (before : List Transition)
    (declared : Transition) (later : List Transition) : Prop where
  candidates : machine.candidates item = before ++ declared :: later
  misses : machine.store.Misses item.content before
  holds : declared.trigger.Holds item.content (machine.store.leftBy item.content before)

/-- A transition as it is declared, but for a target that its script asks for. -/
structure Follows (definition : Definition) (content : String) (store : Store σ)
    (declared found : Transition) : Prop where
  trigger : found.trigger = declared.trigger
  sends : found.sends = declared.sends
  asked : ∀ target ∈ definition.states.map State.name,
    declared.trigger.AsksFor content store target → found.target = target
  unasked : (∀ target ∈ definition.states.map State.name,
    ¬declared.trigger.AsksFor content store target) → found.target = declared.target

theorem follows_retarget {content : String} {store : Store σ} {declared : Transition}
    {target : Option String}
    (asks : ∀ name, target = some name ↔ declared.trigger.AsksFor content store name) :
    Follows definition content store declared (retarget definition declared target) := by
  cases target with
  | none => exact ⟨rfl, rfl, fun target _ asked => by simpa using (asks target).mpr asked,
      fun _ => rfl⟩
  | some target =>
    have only : ∀ name, declared.trigger.AsksFor content store name → name = target :=
      fun name asked => (Option.some.inj ((asks name).mpr asked)).symm
    by_cases known : definition.hasState target = true
    · simp only [retarget, if_pos known]
      refine ⟨rfl, rfl, fun name _ asked => (only name asked).symm, fun unasked => ?_⟩
      exact absurd ((asks target).mp rfl) (unasked target ((Definition.hasState_iff _).mp known))
    · simp only [retarget, if_neg known]
      refine ⟨rfl, rfl, fun name declared' asked => ?_, fun _ => rfl⟩
      have here := (Definition.hasState_iff _).mpr declared'
      exact absurd (only name asked ▸ here) known

theorem watchedFiring_filter (content : String) (admits : Event → Bool)
    (transitions : List Transition) (store : Store σ) :
    watchedFiring definition content admits transitions store =
      watchedFiring definition content admits
        (transitions.filter fun transition => admits transition.trigger) store := by
  induction transitions generalizing store with
  | nil => rfl
  | cons transition rest ih =>
    by_cases admitted : admits transition.trigger = true
    · simp only [List.filter_cons, watchedFiring, if_pos admitted, ih]
    · simp only [List.filter_cons, watchedFiring, if_neg admitted, ih]

theorem watchedFiring_misses (definition : Definition) {content : String} {admits : Event → Bool}
    {before : List Transition} (rest : List Transition) {store : Store σ}
    (admitted : ∀ candidate ∈ before, admits candidate.trigger = true)
    (misses : store.Misses content before) :
    ∃ seen, seen.map Evaluation.event = before.map Transition.trigger ∧
      watchedFiring definition content admits (before ++ rest) store =
        let (result, later) :=
          watchedFiring definition content admits rest (store.leftBy content before)
        (result, seen ++ later) := by
  induction before generalizing store with
  | nil => exact ⟨[], rfl, rfl⟩
  | cons candidate before ih =>
    obtain ⟨here, there⟩ := List.forall_mem_cons.mp admitted
    obtain ⟨first, others⟩ := Store.misses_cons.mp misses
    obtain ⟨seen, events, found⟩ := ih there others
    refine ⟨⟨candidate.trigger, store⟩ :: seen, by rw [List.map_cons, events, List.map_cons], ?_⟩
    rw [List.cons_append, watchedFiring, if_pos here, Event.fires_of_not_holds first]
    simp only [found, Store.leftBy_cons, List.cons_append]

omit [Evaluator σ] in
theorem mem_candidates {machine : Machine definition σ} {item : Item} {candidate : Transition} :
    candidate ∈ machine.candidates item ↔
      candidate ∈ machine.state.transitions ∧ item.Suits candidate.trigger := by
  simp [candidates]

/-- The search, with what it looks at, goes through the candidates. -/
theorem watchedFiring_candidates (machine : Machine definition σ) (item : Item) :
    watchedFiring definition item.content item.admits machine.state.transitions machine.store =
      watchedFiring definition item.content item.admits (machine.candidates item)
        machine.store := by
  have same : (fun transition : Transition => item.admits transition.trigger) =
      fun transition => decide (item.Suits transition.trigger) := by
    funext transition
    exact Bool.eq_iff_iff.mpr (by rw [item.admits_iff_suits, decide_eq_true_iff])
  rw [watchedFiring_filter, same]
  rfl

theorem search_of_misses {machine : Machine definition σ} {item : Item}
    (misses : machine.store.Misses item.content (machine.candidates item)) :
    ∃ seen, seen.map Evaluation.event = (machine.candidates item).map Transition.trigger ∧
      watchedFiring definition item.content item.admits machine.state.transitions machine.store =
        ((none, machine.store.leftBy item.content (machine.candidates item)), seen) := by
  have admitted : ∀ candidate ∈ machine.candidates item, item.admits candidate.trigger = true :=
    fun candidate member => (item.admits_iff_suits _).mpr (mem_candidates.mp member).2
  obtain ⟨seen, events, found⟩ :=
    watchedFiring_misses definition [] admitted misses
  rw [List.append_nil] at found
  exact ⟨seen, events, by rw [watchedFiring_candidates, found]; simp [watchedFiring]⟩

theorem search_of_match {machine : Machine definition σ} {item : Item}
    {before later : List Transition} {declared : Transition}
    (first : machine.FirstMatch item before declared later) :
    ∃ found seen,
      Follows definition item.content (machine.store.leftBy item.content before) declared found ∧
      seen.map Evaluation.event = (before ++ [declared]).map Transition.trigger ∧
      watchedFiring definition item.content item.admits machine.state.transitions machine.store =
        ((some found,
          declared.trigger.fired item.content (machine.store.leftBy item.content before)),
          seen) := by
  have admitted : ∀ candidate ∈ before ++ declared :: later,
      item.admits candidate.trigger = true := fun candidate member =>
    (item.admits_iff_suits _).mpr (mem_candidates.mp (first.candidates ▸ member)).2
  obtain ⟨target, fires, asks⟩ := Event.fires_of_holds first.holds
  obtain ⟨seen, events, found⟩ := watchedFiring_misses definition
    (declared :: later) (fun candidate member => admitted candidate (List.mem_append_left _ member))
    first.misses
  have here := admitted declared (by simp)
  refine ⟨retarget definition declared target,
    seen ++ [⟨declared.trigger, machine.store.leftBy item.content before⟩],
    follows_retarget asks, by rw [List.map_append, events, List.map_append]; rfl, ?_⟩
  rw [watchedFiring_candidates, first.candidates, found, watchedFiring, if_pos here, fires]

omit [Evaluator σ] in
theorem get?_storeValues {memory : Registers} {values : List ProofValue} {register : String}
    (other : ∀ value ∈ values, value.name ≠ register) :
    (storeValues memory values).get? register = memory.get? register := by
  unfold storeValues
  induction values generalizing memory with
  | nil => rfl
  | cons value rest ih =>
    obtain ⟨first, later⟩ := List.forall_mem_cons.mp other
    rw [List.foldl_cons, ih later, TextMap.get?_insert, if_neg (Ne.symm first)]

/-- The registers that a hit may write without a script. -/
def MayWrite (item : Item) (trigger : Event) (register : String) : Prop :=
  (trigger.rule = .inputSave ∧ register = trigger.data) ∨
    (trigger.rule = .acceptAndInputValues ∧
      ∃ asked, item = .question asked ∧ ∃ value ∈ asked.values, value.name = register)

def keptBy (item : Item) (found : Option Transition) (store : Store σ) : Store σ :=
  { store with memory := item.keep found store.memory }

omit [Evaluator σ] in
theorem keptBy_none (item : Item) (store : Store σ) : keptBy item none store = store := by
  cases item <;> rfl

theorem get?_keptBy {item : Item} {trigger : Event} {found : Transition} {store : Store σ}
    {register : String} (same : found.trigger = trigger) (scriptless : trigger.rule ≠ .lua)
    (untouched : ¬MayWrite item trigger register) :
    (keptBy item (some found) (trigger.fired item.content store)).memory.get? register =
      store.memory.get? register := by
  have fired : (trigger.fired item.content store).memory.get? register =
      store.memory.get? register := by
    unfold Event.fired
    split
    next saves =>
      have apart : register ≠ trigger.data := fun here => untouched (.inl ⟨saves, here⟩)
      rw [Store.write, TextMap.get?_insert, if_neg apart]
    next => rw [Event.tried_of_rule scriptless]
  rw [← fired]
  cases item with
  | question asked =>
    simp only [keptBy, Item.keep, same]
    split
    next accepts =>
      refine get?_storeValues fun value member name => untouched ?_
      exact .inr ⟨accepts, asked, rfl, value, member, name⟩
    next => rfl
  | _ => rfl

theorem find_of_search {machine : Machine definition σ} {item : Item} {found : Option Transition}
    {after : Store σ} {seen : List (Evaluation σ)}
    (search : watchedFiring definition item.content item.admits machine.state.transitions
      machine.store = ((found, after), seen)) :
    machine.find item =
        (found,
          { machine with
            checkpoint := some machine.memory
            store := keptBy item found after }) ∧
      machine.evaluatedToFind item = seen := by
  have result := watchedFiring_fst definition item.content item.admits machine.state.transitions
    machine.store
  rw [search] at result
  refine ⟨?_, by rw [evaluatedToFind, search]⟩
  rw [find_eq]
  simp only [resolve, ← result]
  rfl

/-- The first declared match wins, nothing after it is looked at, and all that is written on the way
is what scripts write, the register of `INPUT_SAVE`, and the accepted values of a question. -/
theorem first_match_wins (machine : Machine definition σ) (item : Item) :
    (∀ before declared later, machine.FirstMatch item before declared later →
      ∃ found,
        Follows definition item.content (machine.store.leftBy item.content before) declared found ∧
        machine.find item =
          (some found,
            { machine with
              checkpoint := some machine.memory
              store := keptBy item (some found) (declared.trigger.fired item.content
                (machine.store.leftBy item.content before)) }) ∧
        (machine.evaluatedToFind item).map Evaluation.event =
          (before ++ [declared]).map Transition.trigger ∧
        ((∀ candidate ∈ machine.candidates item, candidate.trigger.rule ≠ .lua) →
          ∀ register, ¬MayWrite item declared.trigger register →
            (machine.find item).2.memory.get? register = machine.memory.get? register)) ∧
    (machine.store.Misses item.content (machine.candidates item) →
      machine.find item =
        (none,
          { machine with
            checkpoint := some machine.memory
            store := machine.store.leftBy item.content (machine.candidates item) }) ∧
      (machine.evaluatedToFind item).map Evaluation.event =
        (machine.candidates item).map Transition.trigger ∧
      ((∀ candidate ∈ machine.candidates item, candidate.trigger.rule ≠ .lua) →
        (machine.find item).2.memory = machine.memory)) ∧
    (machine.store.Misses item.content (machine.candidates item) ∨
      ∃ before declared later, machine.FirstMatch item before declared later) := by
  refine ⟨fun before declared later first => ?_, fun misses => ?_, ?_⟩
  · obtain ⟨found, seen, follows, events, search⟩ := search_of_match first
    obtain ⟨result, evaluated⟩ := find_of_search search
    refine ⟨found, follows, result, by rw [evaluated, events], ?_⟩
    intro scriptless register untouched
    have rules : ∀ candidate ∈ before ++ declared :: later, candidate.trigger.rule ≠ .lua :=
      first.candidates ▸ scriptless
    have unchanged : machine.store.leftBy item.content before = machine.store :=
      Store.leftBy_of_rules fun candidate member => rules candidate (List.mem_append_left _ member)
    rw [result, unchanged]
    exact get?_keptBy follows.trigger (rules declared (by simp)) untouched
  · obtain ⟨seen, events, search⟩ := search_of_misses misses
    obtain ⟨result, evaluated⟩ := find_of_search search
    rw [keptBy_none] at result
    refine ⟨result, by rw [evaluated, events], fun scriptless => ?_⟩
    rw [result, Store.leftBy_of_rules scriptless]
    rfl
  · rcases machine.store.misses_or_holds item.content (machine.candidates item) with
      all | ⟨before, declared, later, split, misses, holds⟩
    · exact .inl all
    · exact .inr ⟨before, declared, later, split, misses, holds⟩

end Machine

section Usher

/-- An usher turns everybody down, then lets in whoever says what is in `INPUT`, then anybody. -/
def Transition.usher : List Transition :=
  [⟨⟨.basicMessage, .lua, none, "OUTPUT = 'NO'", none, true⟩, [], "DESK"⟩,
    ⟨⟨.basicMessage, .validateEqual, none, "INPUT", none, true⟩, [], "HALL"⟩,
    ⟨⟨.basicMessage, .input, none, "", none, true⟩, [], "DESK"⟩]

def Definition.usher : Definition where
  name := "usher"
  kind := .conversation
  keepMemory := false
  initial := { sends := [], target := "DESK" }
  states := [⟨"DESK", Transition.usher, false⟩, ⟨"HALL", [], true⟩]
  initialIndex := ⟨0, by decide⟩
  checksum := ""

def Machine.atDesk : Machine .usher Lua.State :=
  .new .usher (some .initial) (.constant (Fin.last 999999)) .none

def knock : Item := .status (.message "c" "p" "may I")

/-- The script that turns the guest down leaves in its register what the guest has said. So the next
trigger holds, and the last one is not looked at. -/
theorem usher_lets_in :
    ∃ found, (Machine.atDesk.find knock).1 = some found ∧ found.target = "HALL" ∧
      (Machine.atDesk.evaluatedToFind knock).length = 2 ∧
      (Machine.atDesk.find knock).2.memory.read Register.input = "may I" := by
  have answered : (Machine.atDesk.store.runScript "OUTPUT = 'NO'" "may I" .usual).1 =
      some (.ok ⟨"NO", none, false⟩) := by decide +kernel
  have refused : Machine.atDesk.store.Misses knock.content (Transition.usher.take 1) := by
    refine Store.misses_cons.mpr ⟨?_, Store.misses_nil _ _⟩
    rintro ⟨outcome, same, happy⟩
    cases Except.ok.inj (Option.some.inj (answered.symm.trans same))
    exact absurd happy (by decide)
  have holds : (Machine.atDesk.store.leftBy knock.content (Transition.usher.take 1)).memory.read
      Register.input = knock.content := by decide +kernel
  have first : Machine.atDesk.FirstMatch knock (Transition.usher.take 1) Transition.usher[1]
      (Transition.usher.drop 2) := ⟨by decide, refused, holds⟩
  obtain ⟨found, follows, result, events, _⟩ :=
    (Machine.first_match_wins Machine.atDesk knock).1 _ _ _ first
  refine ⟨found, by rw [result], follows.unasked fun _ _ asked => ?_, ?_, by decide +kernel⟩
  · exact absurd asked.1 (by decide)
  · have length := congrArg List.length events
    rwa [List.length_map] at length

end Usher
end Parley
