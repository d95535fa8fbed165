import Parley.Lua.Evaluator
import Parley.Proofs.Send.Build
/-!
What sends are built from, event by event.

An event first writes its own register, if its rule has one to write. Everything that is put into
words comes after that: its content and what the send carries besides find the memory as that leaves
it. The next event goes on from there. An event is passed over if its script fails or nothing can
run it, and for nothing else.
-/

namespace Parley

variable {σ : Type} [Evaluator σ]

theorem Store.runScript_eq_none_iff {store : Store σ} {script input : String}
    {sentinel : Script.Sentinel} :
    (store.runScript script input sentinel).1 = none ↔ store.scripts = none := by
  unfold runScript
  split
  next nothing => simp [nothing]
  next scripts found => simp [found]

namespace Event

def written (event : Event) (input : String) (store : Store σ) : Store σ :=
  match event.rule with
  | .inputSave => store.write event.data input
  | .genPin => store.drawPin.2
  | .lua => (store.runScript event.data input .any).2
  | _ => store

/-- The event has a script, and there is nothing to run it or it fails. -/
def IsSkipped (event : Event) (input : String) (store : Store σ) : Prop :=
  event.rule = .lua ∧
    (store.scripts = none ∨
      ∃ failure, (store.runScript event.data input .any).1 = some (.error failure))

/-- The content that an event gives its send. Templates see what the event has written. -/
inductive HasContent (event : Event) (input : String) (store : Store σ) : String → Prop where
  | input : event.rule ∈ [.input, .ourStatus, .inputSave] → HasContent event input store input
  | data :
      event.rule ∈ [.data, .inputEqual, .transient, .validateEqual, .validateNotEqual,
        .acceptAndInputValues, .notAcceptValues] → HasContent event input store event.data
  | filled : event.rule = .format → HasContent event input store (Template.fill event.data input)
  | rendered {text : String} :
      event.rule = .formatMem ∨ (event.rule = .genPin ∧ event.data ≠ "") →
        Template.render? event.data (event.written input store).memory = some text →
          HasContent event input store text
  | pin : event.rule = .genPin → event.data = "" →
      HasContent event input store ((event.written input store).memory.read Register.pin)
  | script {outcome : Script.Outcome} : event.rule = .lua →
      (store.runScript event.data input .any).1 = some (.ok outcome) →
        HasContent event input store outcome.output

variable {event : Event} {input : String} {store : Store σ}

theorem content_store (event : Event) (input : String) (store : Store σ) :
    (event.content input store).2 = event.written input store := by
  cases rule : event.rule <;> simp only [content, written, rule]
  case genPin => split <;> rfl
  case lua =>
    split
    next ran => rw [ran]
    next ran => rw [ran]

omit [Evaluator σ] in
theorem renderOr_map_some_eq_ok {source : String} {memory : Registers} {content : Option String} :
    (renderOr source memory).map some = .ok content ↔
      ∃ text, content = some text ∧ Template.render? source memory = some text := by
  unfold renderOr
  cases Template.render? source memory with
  | none => simp [Except.map]
  | some text => simp [Except.map, eq_comm]

theorem content_of_lua (scripted : event.rule = .lua) :
    (event.content input store).1 =
      match (store.runScript event.data input .any).1 with
      | some (.ok outcome) => .ok (some outcome.output)
      | _ => .ok none := by
  simp only [content, scripted]
  rcases store.runScript event.data input .any with ⟨_ | _ | outcome, after⟩ <;> rfl

theorem content_eq_none_iff :
    (event.content input store).1 = .ok none ↔ event.IsSkipped input store := by
  constructor
  · intro skipped
    have scripted := rule_of_content_none skipped
    rw [content_of_lua scripted] at skipped
    refine ⟨scripted, ?_⟩
    cases ran : (store.runScript event.data input .any).1 with
    | none => exact .inl (Store.runScript_eq_none_iff.mp ran)
    | some result =>
      cases result with
      | error failure => exact .inr ⟨failure, rfl⟩
      | ok outcome => rw [ran] at skipped; cases skipped
  · rintro ⟨scripted, nothing | ⟨failure, ran⟩⟩
    · rw [content_of_lua scripted, Store.runScript_eq_none_iff.mpr nothing]
    · rw [content_of_lua scripted, ran]

omit [Evaluator σ] in
theorem read_drawPin (store : Store σ) :
    store.drawPin.2.memory.read Register.pin = store.drawPin.1 := by
  simp [Store.drawPin, TextMap.read]

theorem content_of_genPin (drawn : event.rule = .genPin) :
    (event.content input store).1 =
      if event.data = "" then .ok (some ((event.written input store).memory.read Register.pin))
      else (renderOr event.data (event.written input store).memory).map some := by
  simp only [content, written, drawn, String.isEmpty_iff, read_drawPin]
  split <;> rfl

theorem hasContent_of_content {text : String}
    (made : (event.content input store).1 = .ok (some text)) :
    event.HasContent input store text := by
  cases rule : event.rule
  case input | ourStatus | inputSave =>
    simp only [content, rule, Except.ok.injEq, Option.some.injEq] at made
    exact made ▸ .input (by simp [rule])
  case format =>
    simp only [content, rule, Except.ok.injEq, Option.some.injEq] at made
    exact made ▸ .filled rule
  case formatMem =>
    simp only [content, rule] at made
    obtain ⟨_, same, rendered⟩ := renderOr_map_some_eq_ok.mp made
    cases same
    exact .rendered (.inl rule) (by simpa only [written, rule] using rendered)
  case genPin =>
    rw [content_of_genPin rule] at made
    split at made
    next empty =>
      simp only [Except.ok.injEq, Option.some.injEq] at made
      exact made ▸ .pin rule empty
    next full =>
      obtain ⟨_, same, rendered⟩ := renderOr_map_some_eq_ok.mp made
      cases same
      exact .rendered (.inr ⟨rule, full⟩) rendered
  case lua =>
    rw [content_of_lua rule] at made
    split at made
    next outcome ran =>
      simp only [Except.ok.injEq, Option.some.injEq] at made
      exact made ▸ .script rule ran
    next => cases made
  all_goals
    simp only [content, rule, Except.ok.injEq, Option.some.injEq] at made
    exact made ▸ .data (by simp [rule])

theorem content_of_hasContent {text : String} (has : event.HasContent input store text) :
    (event.content input store).1 = .ok (some text) := by
  cases has with
  | input rule =>
    simp only [List.mem_cons, List.not_mem_nil, or_false] at rule
    rcases rule with rule | rule | rule <;> simp only [content, rule]
  | data rule =>
    simp only [List.mem_cons, List.not_mem_nil, or_false] at rule
    rcases rule with rule | rule | rule | rule | rule | rule | rule <;> simp only [content, rule]
  | filled rule => simp only [content, rule]
  | rendered rule rendered =>
    rcases rule with rule | ⟨rule, full⟩
    · simp only [written, rule] at rendered
      simp only [content, rule]
      exact renderOr_map_some_eq_ok.mpr ⟨text, rfl, rendered⟩
    · rw [content_of_genPin rule, if_neg full]
      exact renderOr_map_some_eq_ok.mpr ⟨text, rfl, rendered⟩
  | pin rule empty => rw [content_of_genPin rule, if_pos empty]
  | script rule ran => rw [content_of_lua rule, ran]

theorem build_store (event : Event) (input : String) (store : Store σ) :
    (event.build input store).2 = event.written input store := by
  rw [← content_store, build]
  rcases event.content input store with ⟨_ | _ | _, after⟩ <;> rfl

theorem build_eq_none_iff :
    (event.build input store).1 = .ok none ↔ event.IsSkipped input store := by
  rw [← content_eq_none_iff, build]
  rcases event.content input store with ⟨_ | _ | content, after⟩
  · simp
  · simp
  · dsimp only
    cases event.payload after.memory <;> simp [Except.map]

theorem build_eq_some_iff {send : Send} :
    (event.build input store).1 = .ok (some send) ↔
      send.IsOf event ∧ event.HasContent input store send.content ∧
        event.payload (event.written input store).memory = .ok send.payload := by
  have left := content_store event input store
  rw [build]
  constructor
  · intro done
    split at done
    next => cases done
    next => cases done
    next content after made =>
      rw [made] at left
      cases carried : event.payload after.memory with
      | error fault => simp [carried, Except.map] at done
      | ok payload =>
        simp only [carried, Except.map, Except.ok.injEq, Option.some.injEq] at done
        subst done
        have has := hasContent_of_content (congrArg Prod.fst made)
        exact ⟨⟨rfl, rfl, rfl⟩, has, left ▸ carried⟩
  · rintro ⟨⟨protocol, typeId, wantStatus⟩, has, carried⟩
    have made := content_of_hasContent has
    have both : event.content input store = (.ok (some send.content), event.written input store) :=
      Prod.ext made left
    rw [both]
    simp only [carried, Except.map, Event.send, ← protocol, ← typeId, ← wantStatus]

end Event

/-- What events come to, one after the other, from the store before to the store after. -/
inductive Yields (input : String) : Store σ → List Event → List Send → Store σ → Prop where
  | nil {store : Store σ} : Yields input store [] [] store
  | sent {store final : Store σ} {event : Event} {events : List Event} {send : Send}
      {sends : List Send} :
      send.IsOf event → event.HasContent input store send.content →
        event.payload (event.written input store).memory = .ok send.payload →
          Yields input (event.written input store) events sends final →
            Yields input store (event :: events) (send :: sends) final
  | skipped {store final : Store σ} {event : Event} {events : List Event} {sends : List Send} :
      event.IsSkipped input store → Yields input (event.written input store) events sends final →
        Yields input store (event :: events) sends final

theorem buildAll_cons_eq_ok_iff {event : Event} {events : List Event} {input : String}
    {store final : Store σ} {sends : List Send} :
    buildAll (event :: events) input store = (.ok sends, final) ↔
      ∃ built others, (event.build input store).1 = .ok built ∧
        buildAll events input (event.written input store) = (.ok others, final) ∧
          sends = built.toList ++ others := by
  rw [buildAll, ← event.build_store]
  rcases event.build input store with ⟨_ | built, after⟩
  · simp
  · rcases later : buildAll events input after with ⟨_ | others, last⟩
    · simp [later]
    · simp [later, eq_comm, and_comm]

theorem buildAll_eq_ok_iff {events : List Event} {input : String} {store final : Store σ}
    {sends : List Send} :
    buildAll events input store = (.ok sends, final) ↔ Yields input store events sends final := by
  induction events generalizing store sends with
  | nil =>
    constructor
    · intro done
      cases done
      exact .nil
    · intro yields
      cases yields
      rfl
  | cons event events ih =>
    rw [buildAll_cons_eq_ok_iff]
    constructor
    · rintro ⟨built, others, first, later, rfl⟩
      cases built with
      | none => exact .skipped (Event.build_eq_none_iff.mp first) (ih.mp later)
      | some send =>
        obtain ⟨own, has, carried⟩ := Event.build_eq_some_iff.mp first
        exact .sent own has carried (ih.mp later)
    · intro yields
      cases yields with
      | sent own has carried later =>
        exact ⟨_, _, Event.build_eq_some_iff.mpr ⟨own, has, carried⟩, ih.mpr later, rfl⟩
      | skipped skip later =>
        exact ⟨none, _, Event.build_eq_none_iff.mpr skip, ih.mpr later, rfl⟩

theorem buildAll_append_of_error {early : List Event} {input : String} {store here : Store σ}
    {fault : Fault} (failed : buildAll early input store = (.error fault, here))
    (later : List Event) : buildAll (early ++ later) input store = (.error fault, here) := by
  induction early generalizing store with
  | nil => cases failed
  | cons event rest ih =>
    rw [buildAll] at failed
    rw [List.cons_append, buildAll]
    split at failed
    next => exact failed
    next built after first =>
      split at failed
      next following =>
        cases failed
        rw [ih following]
      next => cases failed

/-- The PIN is drawn before anything is rendered. -/
theorem Event.written_of_genPin {event : Event} (drawn : event.rule = .genPin) (input : String)
    (store : Store σ) :
    (event.written input store).memory =
      store.memory.insert Register.pin (pinText store.pins.head) := by
  simp only [written, drawn, Store.drawPin]

theorem Event.HasContent.of_genPin {event : Event} {input text : String} {store : Store σ}
    (has : event.HasContent input store text) (drawn : event.rule = .genPin) :
    if event.data = "" then text = pinText store.pins.head
    else Template.render? event.data (event.written input store).memory = some text := by
  have made := content_of_hasContent has
  rw [content_of_genPin drawn] at made
  split at made
  next empty =>
    simp only [Except.ok.injEq, Option.some.injEq] at made
    rw [if_pos empty, ← made, written_of_genPin drawn]
    simp [TextMap.read]
  next full =>
    obtain ⟨_, same, rendered⟩ := renderOr_map_some_eq_ok.mp made
    cases same
    rw [if_neg full, rendered]

omit [Evaluator σ] in
theorem Event.payload_email_eq_ok_iff {event : Event} {recipient source subject : String}
    (mail : event.protocol = .email)
    (data : event.eventData = some (.email recipient source subject)) {memory : Registers}
    {payload : Payload} :
    event.payload memory = .ok payload ↔
      ∃ whom about, Template.render? recipient memory = some whom ∧
        Template.render? subject memory = some about ∧ payload = .email whom source about := by
  simp only [Event.payload, mail, data, renderOr]
  cases Template.render? recipient memory with
  | none => simp
  | some whom => cases Template.render? subject memory <;> simp [Except.map, eq_comm]

/-- To build the sends of some events and then of others is to build those of all, one after the
other: what goes wrong among the first is what goes wrong, and the others are not looked at. Sends
are built exactly as the events yield them. So a mail with a PIN knows the PIN that is drawn for
it. -/
theorem sends_compose (input : String) (store : Store σ) :
    (∀ early later,
        buildAll (early ++ later) input store =
          match buildAll early input store with
          | (.error fault, here) => (.error fault, here)
          | (.ok before, here) =>
            ((buildAll later input here).1.map (before ++ ·), (buildAll later input here).2)) ∧
      (∀ events sends final,
        buildAll events input store = (.ok sends, final) ↔ Yields input store events sends final) ∧
      ∀ (event : Event) (recipient source subject : String) (sends : List Send) (final : Store σ),
        event.protocol = .email → event.rule = .genPin →
        event.eventData = some (.email recipient source subject) →
        buildAll [event] input store = (.ok sends, final) →
          final.memory = store.memory.insert Register.pin (pinText store.pins.head) ∧
          ∃ send whom about, sends = [send] ∧ send.payload = .email whom source about ∧
            Template.render? recipient final.memory = some whom ∧
            Template.render? subject final.memory = some about ∧
            if event.data = "" then send.content = pinText store.pins.head
            else Template.render? event.data final.memory = some send.content := by
  refine ⟨fun early later => ?_, fun events sends final => buildAll_eq_ok_iff, ?_⟩
  · rcases built : buildAll early input store with ⟨_ | before, here⟩
    · exact buildAll_append_of_error built later
    · exact buildAll_append built later
  · intro event recipient source subject sends final mail drawn data built
    cases buildAll_eq_ok_iff.mp built with
    | skipped skip _ =>
      have scripted := skip.1
      rw [drawn] at scripted
      cases scripted
    | sent own has carried later =>
      cases later
      obtain ⟨whom, about, addressed, titled, payload⟩ :=
        (Event.payload_email_eq_ok_iff mail data).mp carried
      exact ⟨event.written_of_genPin drawn input store, _, whom, about, rfl, payload, addressed,
        titled, has.of_genPin drawn⟩

/-- A mail with a PIN, between a script that fails and a message that the PIN is on its way. -/
def mailing : List Event :=
  [⟨.basicMessage, .lua, none, "error('gone')", none, true⟩,
    ⟨.email, .genPin, none, "Use {{.PIN}}.",
      some (.email "{{.WHO}}" "desk@example.com" "PIN {{.PIN}}"), true⟩,
    ⟨.basicMessage, .formatMem, none, "{{.PIN}} is on its way", none, true⟩]

example :
    ((buildAll mailing ""
        ⟨TextMap.empty.insert "WHO" "ann@example.com", some Lua.State.initial,
          .constant (Fin.last 999999)⟩).1.toOption.map fun sends =>
      sends.map fun send => (send.content, send.payload)) =
        some [("Use 999999.", .email "ann@example.com" "desk@example.com" "PIN 999999"),
          ("999999 is on its way", .none)] := by
  decide +kernel

end Parley
