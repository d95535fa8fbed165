import Mathlib.Data.List.DropRight
import Mathlib.Data.List.Forall2
import Mathlib.Data.List.Nodup
import Parley.Definition.Check
/-!
Which machines are accepted, and what they become.

`WellWritten` says what an author has to keep to without saying in which order it is looked at, and
`MadeInto` what the machine as written and the machine ready to run have to do with each other. A
check that succeeds is the second, and it succeeds for just the machines that are the first.
-/

namespace Parley

namespace Text

theorem dropWhile_prefix {text before : List Char} (front : before <+: text.dropWhile isBlank) :
    before.dropWhile isBlank = before := by
  cases before with
  | nil => rfl
  | cons c rest =>
    obtain ⟨after, whole⟩ := front
    have solid := List.head?_dropWhile_not isBlank text
    rw [← whole] at solid
    exact List.dropWhile_cons_of_neg (by simpa using solid)

theorem trim_trim (text : String) : trim (trim text) = trim text := by
  have front := dropWhile_prefix (List.rdropWhile_prefix isBlank (text.toList.dropWhile isBlank))
  have back := List.rdropWhile_idempotent isBlank (text.toList.dropWhile isBlank)
  unfold List.rdropWhile at front back
  simp only [trim, trimmed, String.toList_ofList, front, back]

theorem isEmpty_trim (text : String) : (trim text).isEmpty = isBlankText text := by
  rw [Bool.eq_iff_iff, String.isEmpty_iff]
  constructor
  · intro empty
    have nothing : trimmed text.toList = [] := by
      simpa only [trim, String.ofList_eq_empty_iff] using empty
    have left : ∀ c ∈ text.toList.dropWhile isBlank, isBlank c = true := by
      simpa [trimmed] using nothing
    rw [isBlankText, ← List.takeWhile_append_dropWhile (p := isBlank) (l := text.toList),
      List.all_append, List.all_takeWhile, Bool.true_and]
    exact List.all_eq_true.mpr left
  · intro blank
    rw [trim, trimmed_of_all_blank blank]

end Text

/-- The rule an author means. One that is left out, or blank, is the usual one of the side. -/
def Rule.Meant (side : Side) (rule : Rule) : Option String → Prop
  | none => rule = defaultOn side
  | some word =>
    if Text.isBlankText word then rule = defaultOn side else parse? word = some rule

def Rule.Suits (rule : Rule) (protocol : Protocol) : Side → Prop
  | .trigger =>
    rule ∉ [format, formatMem, genPin] ∧
      (rule ∈ [acceptAndInputValues, notAcceptValues] → protocol = .answer) ∧
      (rule = ourStatus →
        protocol ∈ [.basicMessage, .issueCredential, .presentProof, .trustPing]) ∧
      (rule = transient → protocol = .transient)
  | .send => rule ∉ [validateEqual, validateNotEqual, acceptAndInputValues, notAcceptValues]

namespace Draft

/-- The words of an event mean this protocol and this rule, and both may stand on this side. -/
structure Event.Resolves (side : Side) (written : Event) (protocol : Protocol) (rule : Rule) :
    Prop where
  known : Protocol.parse? written.protocol = some protocol
  meant : rule.Meant side written.rule
  incoming : side = .trigger → protocol ≠ .email
  suits : rule.Suits protocol side
  issuing : side = .send → protocol = .issueCredential →
    ∃ credDefId attrs, written.eventData = some (.issuing credDefId attrs)
  proof : side = .send → protocol = .presentProof →
    ∃ attributes, written.eventData = some (.proof attributes)
  email : side = .send → protocol = .email →
    ∃ recipient source subject, written.eventData = some (.email recipient source subject)
  script : rule = .lua → Text.isBlankText (Parley.Event.dataOf written) = false

def Event.resolved (written : Event) (protocol : Protocol) (rule : Rule) : Parley.Event where
  protocol := protocol
  rule := rule
  typeId := written.typeId.filter fun name => !name.isEmpty
  data := Parley.Event.dataOf written
  eventData := written.eventData
  wantStatus := !written.noStatus

def Event.ReadAs (side : Side) (written : Event) (event : Parley.Event) : Prop :=
  ∃ protocol rule, written.Resolves side protocol rule ∧ event = written.resolved protocol rule

def Event.Sound (side : Side) (written : Event) : Prop :=
  ∃ protocol rule, written.Resolves side protocol rule

structure Transition.WellWritten (names : List String) (written : Transition) : Prop where
  trigger : ∃ event, written.trigger = some event ∧ event.Sound .trigger
  target : written.target ∈ names
  sends : ∀ event ∈ written.sends, event.Sound .send

def names (draft : Draft) : List String := draft.states.map (·.1)

structure WellWritten (draft : Draft) : Prop where
  distinct : draft.names.Nodup
  start : draft.initial.target ∈ draft.names
  untriggered : draft.initial.trigger = none
  initialSends : ∀ event ∈ draft.initial.sends, event.Sound .send
  transitions : ∀ entry ∈ draft.states, ∀ written ∈ entry.2.transitions,
    written.WellWritten draft.names

structure Transition.MadeInto (written : Transition) (made : Parley.Transition) : Prop where
  trigger : ∃ event, written.trigger = some event ∧ event.ReadAs .trigger made.trigger
  sends : List.Forall₂ (Event.ReadAs .send) written.sends made.sends
  target : made.target = written.target

structure State.MadeInto (entry : String × State) (made : Parley.State) : Prop where
  name : made.name = entry.1
  terminal : made.terminal = entry.2.terminate
  transitions : List.Forall₂ Transition.MadeInto entry.2.transitions made.transitions

/-- State by state and event by event the machine is the one as written. -/
structure MadeInto (draft : Draft) (definition : Definition) : Prop where
  name : definition.name = draft.name
  kind : definition.kind = draft.kind
  keepMemory : definition.keepMemory = draft.keepMemory
  initialSends : List.Forall₂ (Event.ReadAs .send) draft.initial.sends definition.initial.sends
  initialTarget : definition.initial.target = draft.initial.target
  states : List.Forall₂ State.MadeInto draft.states definition.states
  initialIndex : (definition.states.get definition.initialIndex).name = draft.initial.target
  checksum : definition.checksum = Checksum.ofText draft.canonical

def Transition.events (written : Transition) : List (Side × Event) :=
  written.trigger.toList.map (Side.trigger, ·) ++ written.sends.map (Side.send, ·)

def events (draft : Draft) : List (Side × Event) :=
  draft.initial.events ++
    draft.states.flatMap fun entry => entry.2.transitions.flatMap Transition.events

section Events

theorem ruleOf_eq_ok_iff {side : Side} {written : Option String} {rule : Rule} :
    Parley.Event.ruleOf side written = .ok rule ↔ rule.Meant side written := by
  unfold Parley.Event.ruleOf Rule.Meant
  cases written with
  | none => simp [eq_comm]
  | some word =>
    have again : Rule.parse? (Text.trim word) = Rule.parse? word := by
      rw [Rule.parse?, Rule.parse?, Text.trim_trim]
    simp only [Text.isEmpty_trim, again]
    by_cases blank : Text.isBlankText word = true
    · simp [blank, eq_comm]
    · simp only [blank]
      cases Rule.parse? word <;> simp

theorem ruleFits_iff {side : Side} {protocol : Protocol} {rule : Rule} :
    Parley.Event.ruleFits side protocol rule = true ↔ rule.Suits protocol side := by
  cases side <;> cases rule <;>
    simp [Parley.Event.ruleFits, Rule.Suits, Rule.allowedOn, Rule.fitsTrigger, or_assoc]

theorem missingData?_eq_none_iff {side : Side} {protocol : Protocol} {data : Option EventData} :
    Parley.Event.missingData? side protocol data = none ↔
      (side = .send → ∀ kind, Parley.Event.requiredData? protocol = some kind →
        data.map EventData.kind = some kind) := by
  unfold Parley.Event.missingData?
  split
  next => split <;> simp_all
  next absent => simp_all

theorem requiredData_iff {protocol : Protocol} {data : Option EventData} :
    (∀ kind, Parley.Event.requiredData? protocol = some kind →
        data.map EventData.kind = some kind) ↔
      (protocol = .issueCredential →
        ∃ credDefId attrs, data = some (.issuing credDefId attrs)) ∧
      (protocol = .presentProof → ∃ attributes, data = some (.proof attributes)) ∧
      (protocol = .email →
        ∃ recipient source subject, data = some (.email recipient source subject)) := by
  cases data with
  | none => cases protocol <;> simp [Parley.Event.requiredData?]
  | some data =>
    cases data <;> cases protocol <;> simp [Parley.Event.requiredData?, EventData.kind]

theorem resolves_iff {side : Side} {written : Event} {protocol : Protocol} {rule : Rule} :
    written.Resolves side protocol rule ↔
      Protocol.parse? written.protocol = some protocol ∧
        Parley.Event.ruleOf side written.rule = .ok rule ∧ protocol.allowedOn side = true ∧
        Parley.Event.ruleFits side protocol rule = true ∧
        Parley.Event.missingData? side protocol written.eventData = none ∧
        (rule = .lua → Text.isBlankText (Parley.Event.dataOf written) = false) := by
  have allowed : protocol.allowedOn side = true ↔ (side = .trigger → protocol ≠ .email) := by
    cases side <;> simp [Protocol.allowedOn]
  rw [ruleOf_eq_ok_iff, allowed, ruleFits_iff, missingData?_eq_none_iff, requiredData_iff]
  constructor
  · intro resolves
    exact ⟨resolves.known, resolves.meant, resolves.incoming, resolves.suits,
      fun send => ⟨resolves.issuing send, resolves.proof send, resolves.email send⟩,
      resolves.script⟩
  · intro ⟨known, meant, incoming, suits, data, script⟩
    exact ⟨known, meant, incoming, suits, fun send => (data send).1, fun send => (data send).2.1,
      fun send => (data send).2.2, script⟩

/-- An event resolves as what it says, or not at all. -/
theorem resolve_eq_ok_iff {side : Side} {written : Event} {event : Parley.Event} :
    Parley.Event.resolve side written = .ok event ↔ written.ReadAs side event := by
  simp only [Event.ReadAs, resolves_iff]
  unfold Parley.Event.resolve
  constructor
  · intro resolved
    split at resolved
    next => cases resolved
    next protocol known =>
      split at resolved
      next => cases resolved
      next allowed =>
        split at resolved
        next => cases resolved
        next rule meant =>
          split at resolved
          next => cases resolved
          next fits =>
            split at resolved
            next => cases resolved
            next data =>
              dsimp only at resolved
              split at resolved
              next => cases resolved
              next script =>
                cases resolved
                exact ⟨protocol, rule, ⟨known, meant, by simpa using allowed, by simpa using fits,
                  data, by simpa using script⟩, rfl⟩
  · rintro ⟨protocol, rule, ⟨known, meant, allowed, fits, data, script⟩, rfl⟩
    have noScript : (decide (rule = .lua) && Text.isBlankText (Parley.Event.dataOf written)) =
        false := by
      simpa using script
    simp [known, meant, allowed, fits, data, noScript, Event.resolved]

theorem ruleOf_error {side : Side} {written : Option String} {fault : Fault}
    (refused : Parley.Event.ruleOf side written = .error fault) : fault.isStructural = true := by
  unfold Parley.Event.ruleOf at refused
  split at refused
  next word =>
    dsimp only at refused
    split at refused
    next => cases refused
    next =>
      split at refused <;> cases refused
      rfl
  next => cases refused

theorem resolve_error {side : Side} {written : Event} {fault : Fault}
    (refused : Parley.Event.resolve side written = .error fault) : fault.isStructural = true := by
  unfold Parley.Event.resolve at refused
  split at refused
  next => cases refused; rfl
  next =>
    split at refused
    next => cases refused; rfl
    next =>
      split at refused
      next unclear => cases refused; exact ruleOf_error unclear
      next =>
        split at refused
        next => cases refused; rfl
        next =>
          split at refused
          next => cases refused; rfl
          next =>
            dsimp only at refused
            split at refused <;> cases refused
            rfl

end Events

section Steps

variable {α β ε : Type}

theorem bind_eq_ok_iff {first : Except ε α} {later : α → Except ε β} {result : β} :
    (first >>= later) = .ok result ↔ ∃ value, first = .ok value ∧ later value = .ok result := by
  cases first <;> simp [bind, Except.bind]

theorem bind_eq_error_iff {first : Except ε α} {later : α → Except ε β} {fault : ε} :
    (first >>= later) = .error fault ↔
      first = .error fault ∨ ∃ value, first = .ok value ∧ later value = .error fault := by
  cases first <;> simp [bind, Except.bind]

theorem mapM_eq_ok_iff {read : α → Except ε β} {items : List α} {results : List β} :
    items.mapM read = .ok results ↔
      List.Forall₂ (fun item result => read item = .ok result) items results := by
  induction items generalizing results with
  | nil => cases results <;> simp [pure, Except.pure]
  | cons item rest ih =>
    rw [List.mapM_cons, bind_eq_ok_iff]
    constructor
    · rintro ⟨result, first, made⟩
      obtain ⟨others, later, made⟩ := bind_eq_ok_iff.mp made
      cases made
      exact List.Forall₂.cons first (ih.mp later)
    · intro read
      obtain _ | ⟨first, later⟩ := read
      exact ⟨_, first, bind_eq_ok_iff.mpr ⟨_, ih.mpr later, rfl⟩⟩

theorem mapM_error {read : α → Except ε β} {items : List α} {fault : ε}
    (refused : items.mapM read = .error fault) : ∃ item ∈ items, read item = .error fault := by
  induction items with
  | nil => cases refused
  | cons item rest ih =>
    rw [List.mapM_cons, bind_eq_error_iff] at refused
    rcases refused with first | ⟨result, _, refused⟩
    · exact ⟨item, List.mem_cons_self, first⟩
    · rcases bind_eq_error_iff.mp refused with later | ⟨results, _, made⟩
      · obtain ⟨found, member, same⟩ := ih later
        exact ⟨found, List.mem_cons_of_mem _ member, same⟩
      · cases made

theorem exists_forall₂_iff {related : α → β → Prop} {items : List α} :
    (∃ results, List.Forall₂ related items results) ↔
      ∀ item ∈ items, ∃ result, related item result := by
  induction items with
  | nil => simp
  | cons item rest ih =>
    rw [List.forall_mem_cons, ← ih]
    constructor
    · rintro ⟨_, _ | ⟨first, later⟩⟩
      exact ⟨⟨_, first⟩, ⟨_, later⟩⟩
    · rintro ⟨⟨result, first⟩, ⟨results, later⟩⟩
      exact ⟨result :: results, List.Forall₂.cons first later⟩

theorem forall₂_right {related : α → β → Prop} {items : List α} {results : List β}
    (read : List.Forall₂ related items results) {result : β} (member : result ∈ results) :
    ∃ item ∈ items, related item result := by
  induction read with
  | nil => cases member
  | cons first _ ih =>
    rcases List.mem_cons.mp member with rfl | member
    · exact ⟨_, List.mem_cons_self, first⟩
    · obtain ⟨item, present, found⟩ := ih member
      exact ⟨item, List.mem_cons_of_mem _ present, found⟩

end Steps

section Transitions

theorem checkSends_eq_ok_iff {written : List Event} {sends : List Parley.Event} :
    checkSends written = .ok sends ↔ List.Forall₂ (Event.ReadAs .send) written sends := by
  rw [checkSends, mapM_eq_ok_iff]
  simp only [resolve_eq_ok_iff]

theorem checkSends_error {written : List Event} {fault : Fault}
    (refused : checkSends written = .error fault) : fault.isStructural = true := by
  obtain ⟨_, _, found⟩ := mapM_error refused
  exact resolve_error found

theorem checkTransition_eq_ok_iff {names : List String} {state : String} {written : Transition}
    {made : Parley.Transition} :
    checkTransition names state written = .ok made ↔
      written.target ∈ names ∧ written.MadeInto made := by
  unfold checkTransition
  constructor
  · intro checked
    split at checked
    next => cases checked
    next event present =>
      split at checked
      next declared =>
        obtain ⟨trigger, first, checked⟩ := bind_eq_ok_iff.mp checked
        obtain ⟨sends, later, made⟩ := bind_eq_ok_iff.mp checked
        cases made
        exact ⟨declared, ⟨_, present, resolve_eq_ok_iff.mp first⟩,
          checkSends_eq_ok_iff.mp later, rfl⟩
      next => cases checked
  · rintro ⟨declared, ⟨event, present, first⟩, later, target⟩
    rw [present]
    dsimp only
    rw [if_pos declared]
    apply bind_eq_ok_iff.mpr ⟨_, resolve_eq_ok_iff.mpr first, _⟩
    apply bind_eq_ok_iff.mpr ⟨_, checkSends_eq_ok_iff.mpr later, _⟩
    rw [← target]
    rfl

theorem checkTransition_error {names : List String} {state : String} {written : Transition}
    {fault : Fault} (refused : checkTransition names state written = .error fault) :
    fault.isStructural = true := by
  unfold checkTransition at refused
  split at refused
  next => cases refused; rfl
  next =>
    split at refused
    next =>
      rcases bind_eq_error_iff.mp refused with first | ⟨trigger, _, refused⟩
      · exact resolve_error first
      · rcases bind_eq_error_iff.mp refused with later | ⟨sends, _, made⟩
        · exact checkSends_error later
        · cases made
    next => cases refused; rfl

theorem checkState_eq_ok_iff {names : List String} {entry : String × State} {made : Parley.State} :
    checkState names entry = .ok made ↔
      (∀ written ∈ entry.2.transitions, written.target ∈ names) ∧ State.MadeInto entry made := by
  have every : ∀ transitions, entry.2.transitions.mapM (checkTransition names entry.1) =
      .ok transitions ↔ (∀ written ∈ entry.2.transitions, written.target ∈ names) ∧
        List.Forall₂ Transition.MadeInto entry.2.transitions transitions := by
    intro transitions
    rw [mapM_eq_ok_iff, ← List.forall₂_and_left]
    simp only [checkTransition_eq_ok_iff]
  unfold checkState
  rw [bind_eq_ok_iff]
  constructor
  · rintro ⟨transitions, mapped, made⟩
    cases made
    obtain ⟨declared, transitions⟩ := (every _).mp mapped
    exact ⟨declared, rfl, rfl, transitions⟩
  · rintro ⟨declared, name, terminal, transitions⟩
    refine ⟨_, (every _).mpr ⟨declared, transitions⟩, ?_⟩
    rw [← name, ← terminal]
    rfl

theorem checkState_error {names : List String} {entry : String × State} {fault : Fault}
    (refused : checkState names entry = .error fault) : fault.isStructural = true := by
  unfold checkState at refused
  rcases bind_eq_error_iff.mp refused with later | ⟨transitions, _, made⟩
  · obtain ⟨_, _, found⟩ := mapM_error later
    exact checkTransition_error found
  · cases made

end Transitions

section Names

theorem repeatedName?_eq_none_iff {seen names : List String} :
    repeatedName? seen names = none ↔ names.Nodup ∧ ∀ name ∈ names, name ∉ seen := by
  induction names generalizing seen with
  | nil => simp [repeatedName?]
  | cons name rest ih =>
    rw [repeatedName?, List.nodup_cons, List.forall_mem_cons]
    by_cases known : name ∈ seen
    · simp [known]
    · rw [if_neg known, ih]
      simp only [List.mem_cons, not_or]
      constructor
      · intro ⟨distinct, apart⟩
        exact ⟨⟨fun again => (apart name again).1 rfl, distinct⟩, known,
          fun other later => (apart other later).2⟩
      · intro ⟨⟨fresh, distinct⟩, _, apart⟩
        refine ⟨distinct, fun other later => ⟨?_, apart other later⟩⟩
        rintro rfl
        exact fresh later

theorem nameFault?_eq_none_iff {names : List String} {target : String} :
    nameFault? names target = none ↔ names.Nodup ∧ target ∈ names := by
  have fresh : repeatedName? [] names = none ↔ names.Nodup := by
    simp [repeatedName?_eq_none_iff]
  constructor
  · intro faultless
    unfold nameFault? at faultless
    split at faultless
    next => cases faultless
    next once =>
      refine ⟨fresh.mp (Option.map_eq_none_iff.mp faultless), ?_⟩
      apply List.count_pos_iff.mp
      omega
    next => cases faultless
  · intro ⟨distinct, present⟩
    simp [nameFault?, List.count_eq_one_of_mem distinct present, fresh.mpr distinct]

theorem nameFault?_structural {names : List String} {target : String} {fault : Fault}
    (found : nameFault? names target = some fault) : fault.isStructural = true := by
  unfold nameFault? at found
  split at found
  next => cases found; rfl
  next =>
    obtain ⟨_, _, rfl⟩ := Option.map_eq_some_iff.mp found
    rfl
  next => cases found; rfl

end Names

section Machines

variable {draft : Draft} {definition : Definition}

theorem names_of_madeInto {entries : List (String × State)} {states : List Parley.State}
    (made : List.Forall₂ State.MadeInto entries states) :
    states.map State.name = entries.map (·.1) := by
  induction made with
  | nil => rfl
  | cons first _ ih => rw [List.map_cons, List.map_cons, first.name, ih]

theorem findFinIdx?_name_iff {states : List Parley.State}
    (distinct : (states.map State.name).Nodup) {name : String} {index : Fin states.length} :
    states.findFinIdx? (fun state => state.name = name) = some index ↔
      (states.get index).name = name := by
  rw [List.findFinIdx?_eq_some_iff]
  constructor
  · intro ⟨here, _⟩
    simpa using here
  · intro here
    refine ⟨by simpa using here, fun earlier before again => ?_⟩
    have apart := List.pairwise_iff_getElem.mp (List.pairwise_map.mp distinct) earlier index
      earlier.isLt index.isLt before
    have same : (states.get earlier).name = name := by simpa using again
    exact apart (same.trans here.symm)

/-- A check that succeeds has made what is written, and a machine that is faultless and can be made
is accepted. -/
theorem check_eq_ok_iff :
    draft.check = .ok definition ↔
      draft.names.Nodup ∧ draft.initial.target ∈ draft.names ∧ draft.initial.trigger = none ∧
        (∀ entry ∈ draft.states, ∀ written ∈ entry.2.transitions, written.target ∈ draft.names) ∧
        draft.MadeInto definition := by
  have every : ∀ states, draft.states.mapM (checkState draft.names) = .ok states ↔
      (∀ entry ∈ draft.states, ∀ written ∈ entry.2.transitions, written.target ∈ draft.names) ∧
        List.Forall₂ State.MadeInto draft.states states := by
    intro states
    rw [mapM_eq_ok_iff, ← List.forall₂_and_left]
    simp only [checkState_eq_ok_iff]
  unfold check
  dsimp only
  constructor
  · intro accepted
    split at accepted
    next => cases accepted
    next faultless =>
      split at accepted
      next => cases accepted
      next untriggered =>
        obtain ⟨sends, initialSends, accepted⟩ := bind_eq_ok_iff.mp accepted
        obtain ⟨states, mapped, accepted⟩ := bind_eq_ok_iff.mp accepted
        split at accepted
        next => cases accepted
        next index found =>
          cases accepted
          obtain ⟨distinct, start⟩ := nameFault?_eq_none_iff.mp faultless
          obtain ⟨declared, made⟩ := (every states).mp mapped
          have first := (List.findFinIdx?_eq_some_iff.mp found).1
          exact ⟨distinct, start, by simpa using untriggered, declared, rfl, rfl, rfl,
            checkSends_eq_ok_iff.mp initialSends, rfl, made, by simpa using first, rfl⟩
  · rintro ⟨distinct, start, untriggered, declared, made⟩
    obtain ⟨name, kind, keepMemory, ⟨sends, target⟩, states, index, checksum⟩ := definition
    obtain ⟨rfl, rfl, rfl, initialSends, rfl, made, first, rfl⟩ := made
    have distinct' : (states.map State.name).Nodup := by
      rw [names_of_madeInto made]
      exact distinct
    have found := (findFinIdx?_name_iff distinct').mpr first
    have faultless := nameFault?_eq_none_iff.mpr ⟨distinct, start⟩
    have mapped := (every states).mpr ⟨declared, made⟩
    unfold names at faultless mapped
    simp only [faultless, untriggered, Option.isSome_none, Bool.false_eq_true, if_false]
    apply bind_eq_ok_iff.mpr
    refine ⟨sends, checkSends_eq_ok_iff.mpr initialSends, ?_⟩
    apply bind_eq_ok_iff.mpr
    refine ⟨states, mapped, ?_⟩
    simp only [found]
    rfl

theorem check_error {fault : Fault} (refused : draft.check = .error fault) :
    fault.isStructural = true := by
  unfold check at refused
  dsimp only at refused
  split at refused
  next found => cases refused; exact nameFault?_structural found
  next =>
    split at refused
    next => cases refused; rfl
    next =>
      rcases bind_eq_error_iff.mp refused with first | ⟨sends, _, refused⟩
      · exact checkSends_error first
      · rcases bind_eq_error_iff.mp refused with later | ⟨states, _, refused⟩
        · obtain ⟨_, _, found⟩ := mapM_error later
          exact checkState_error found
        · split at refused <;> cases refused
          rfl

theorem Event.sound_iff {side : Side} {written : Event} :
    written.Sound side ↔ ∃ event, written.ReadAs side event := by
  constructor
  · rintro ⟨protocol, rule, resolves⟩
    exact ⟨written.resolved protocol rule, protocol, rule, resolves, rfl⟩
  · rintro ⟨event, protocol, rule, resolves, _⟩
    exact ⟨protocol, rule, resolves⟩

theorem sends_iff {written : List Event} :
    (∀ event ∈ written, event.Sound .send) ↔
      ∃ sends, List.Forall₂ (Event.ReadAs .send) written sends := by
  rw [exists_forall₂_iff]
  simp only [Event.sound_iff]

theorem Transition.wellWritten_iff {names : List String} {written : Transition} :
    written.WellWritten names ↔ written.target ∈ names ∧ ∃ made, written.MadeInto made := by
  constructor
  · intro ⟨⟨event, present, sound⟩, declared, sends⟩
    obtain ⟨trigger, reads⟩ := Event.sound_iff.mp sound
    obtain ⟨sends, read⟩ := sends_iff.mp sends
    exact ⟨declared, ⟨trigger, sends, written.target⟩, ⟨event, present, reads⟩, read, rfl⟩
  · rintro ⟨declared, made, ⟨event, present, reads⟩, sends, _⟩
    exact ⟨⟨event, present, Event.sound_iff.mpr ⟨_, reads⟩⟩, declared, sends_iff.mpr ⟨_, sends⟩⟩

theorem State.exists_made_iff {entry : String × State} :
    (∃ made, State.MadeInto entry made) ↔
      ∀ written ∈ entry.2.transitions, ∃ made, written.MadeInto made := by
  rw [← exists_forall₂_iff]
  constructor
  · intro ⟨made, like⟩
    exact ⟨made.transitions, like.transitions⟩
  · intro ⟨transitions, like⟩
    exact ⟨⟨entry.1, transitions, entry.2.terminate⟩, rfl, rfl, like⟩

/-- A machine that is well written can be made, and one that is made was well written. -/
theorem wellWritten_iff : draft.WellWritten ↔ ∃ definition, draft.check = .ok definition := by
  simp only [check_eq_ok_iff]
  constructor
  · intro ⟨distinct, start, untriggered, initialSends, transitions⟩
    obtain ⟨sends, initialSends⟩ := sends_iff.mp initialSends
    have each : ∀ entry ∈ draft.states, ∃ made, State.MadeInto entry made := by
      intro entry member
      apply State.exists_made_iff.mpr
      intro written inside
      exact (Transition.wellWritten_iff.mp (transitions entry member written inside)).2
    obtain ⟨states, made⟩ := exists_forall₂_iff.mpr each
    have named : draft.initial.target ∈ states.map State.name := by
      rw [names_of_madeInto made]
      exact start
    obtain ⟨state, member, name⟩ := List.mem_map.mp named
    obtain ⟨index, rfl⟩ := List.get_of_mem member
    refine ⟨⟨draft.name, draft.kind, draft.keepMemory, ⟨sends, draft.initial.target⟩, states,
      index, draft.checksum⟩, distinct, start, untriggered, ?_, ?_⟩
    · intro entry member written inside
      exact (transitions entry member written inside).target
    · exact ⟨rfl, rfl, rfl, initialSends, rfl, made, name, rfl⟩
  · rintro ⟨definition, distinct, start, untriggered, declared, made⟩
    refine ⟨distinct, start, untriggered, sends_iff.mpr ⟨_, made.initialSends⟩, ?_⟩
    intro entry member written inside
    have each := exists_forall₂_iff.mp ⟨_, made.states⟩ entry member
    exact Transition.wellWritten_iff.mpr
      ⟨declared entry member written inside, State.exists_made_iff.mp each written inside⟩

theorem MadeInto.events (made : draft.MadeInto definition)
    (untriggered : draft.initial.trigger = none) :
    List.Forall₂ (fun written event => written.2.ReadAs written.1 event) draft.events
      definition.events := by
  have sends {written : List Event} {sends : List Parley.Event}
      (read : List.Forall₂ (Event.ReadAs .send) written sends) :
      List.Forall₂ (fun written event => written.2.ReadAs written.1 event)
        (written.map (Side.send, ·)) sends :=
    List.forall₂_map_left_iff.mpr read
  have transition {written : Transition} {made : Parley.Transition}
      (like : written.MadeInto made) :
      List.Forall₂ (fun written event => written.2.ReadAs written.1 event) written.events
        made.events := by
    obtain ⟨event, present, reads⟩ := like.trigger
    rw [Transition.events, present]
    exact List.Forall₂.cons reads (sends like.sends)
  unfold Draft.events Definition.events
  apply List.rel_append
  · rw [Transition.events, untriggered]
    exact sends made.initialSends
  · apply List.rel_flatMap made.states
    intro entry state like
    exact List.rel_flatMap like.transitions fun written made like => transition like

end Machines

/-- Just the machines that are well written are accepted, and one that is not is refused for what
its author wrote. What is accepted has the states and the events as they are written and in their
order, and finds each state where it stands. -/
theorem check_accepts_exactly (draft : Draft) :
    ((∃ definition, draft.check = .ok definition) ↔ draft.WellWritten) ∧
      (¬draft.WellWritten → ∃ fault, draft.check = .error fault ∧ fault.isStructural = true) ∧
      ∀ definition, draft.check = .ok definition →
        draft.MadeInto definition ∧
          (∀ name index, definition.stateIndex? name = some index ↔
            (definition.states.get index).name = name) ∧
          definition.stateIndex? draft.initial.target = some definition.initialIndex ∧
          List.Forall₂ (fun written event => written.2.ReadAs written.1 event) draft.events
            definition.events := by
  refine ⟨wellWritten_iff.symm, ?_, ?_⟩
  · intro faulty
    cases checked : draft.check with
    | ok definition => exact absurd (wellWritten_iff.mpr ⟨definition, checked⟩) faulty
    | error fault => exact ⟨fault, rfl, check_error checked⟩
  · intro definition accepted
    obtain ⟨distinct, _, untriggered, _, made⟩ := check_eq_ok_iff.mp accepted
    have distinct' : (definition.states.map State.name).Nodup := by
      rw [names_of_madeInto made.states]
      exact distinct
    have found (name : String) (index : Fin definition.states.length) :
        definition.stateIndex? name = some index ↔ (definition.states.get index).name = name :=
      findFinIdx?_name_iff distinct'
    exact ⟨made, found, (found _ _).mpr made.initialIndex, made.events untriggered⟩

end Draft

/-- A clerk takes values, hands out a PIN and reports what it took, until it hears `bye`. -/
def Draft.clerk : Draft where
  name := "clerk"
  kind := .conversation
  keepMemory := true
  initial := { trigger := none, sends := [], target := "DESK" }
  states :=
    [("DESK",
      { transitions :=
          [{ trigger := some ⟨"answer", none, some "ACCEPT_AND_INPUT_VALUES", none, none, false⟩
             sends :=
              [⟨"transient", none, none, some "next", none, false⟩,
                ⟨"basic_message", none, some "GEN_PIN", none, none, false⟩,
                ⟨"backend", some "report", some "INPUT", none, none, false⟩]
             target := "DESK" },
            { trigger := some ⟨"basic_message", none, some "INPUT_EQUAL", some "bye", none, false⟩
              sends := []
              target := "CLOSED" }]
        terminate := false }),
      ("CLOSED", { transitions := [], terminate := true })]

def Definition.clerk : Definition where
  name := "clerk"
  kind := .conversation
  keepMemory := true
  initial := { sends := [], target := "DESK" }
  states :=
    [⟨"DESK",
      [⟨⟨.answer, .acceptAndInputValues, none, "", none, true⟩,
          [⟨.transient, .data, none, "next", none, true⟩,
            ⟨.basicMessage, .genPin, none, "", none, true⟩,
            ⟨.backend, .input, some "report", "", none, true⟩],
          "DESK"⟩,
        ⟨⟨.basicMessage, .inputEqual, none, "bye", none, true⟩, [], "CLOSED"⟩], false⟩,
      ⟨"CLOSED", [], true⟩]
  initialIndex := ⟨0, by decide⟩
  checksum := Draft.clerk.checksum

theorem Draft.clerk_check : Draft.clerk.check = .ok Definition.clerk := rfl

/-- The clerk's machine is accepted. Without its second state it is refused, as a transition leads
there. -/
theorem Draft.clerk_accepted :
    Draft.clerk.WellWritten ∧
      ∃ fault, Draft.check { Draft.clerk with states := Draft.clerk.states.take 1 } = .error fault ∧
        fault.isStructural = true := by
  constructor
  · exact (Draft.check_accepts_exactly Draft.clerk).1.mp ⟨Definition.clerk, Draft.clerk_check⟩
  · apply (Draft.check_accepts_exactly _).2.1
    intro well
    have leaving := well.transitions _ (List.mem_singleton_self _) _
      (List.mem_cons_of_mem _ (List.mem_singleton_self _))
    have closed : "CLOSED" ∈ ["DESK"] := leaving.target
    revert closed
    decide

end Parley
