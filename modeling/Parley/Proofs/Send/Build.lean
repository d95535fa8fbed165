import Parley.Proofs.Definition.Checked
import Parley.Send.Build
/-!
What building comes to: one send for each event in their order, only events with scripts may come to
none, and for checked events nothing but a template can go wrong.
-/

namespace Parley

variable {σ : Type} [Evaluator σ]

structure Send.IsOf (event : Event) (send : Send) : Prop where
  protocol : send.protocol = event.protocol
  typeId : send.typeId = event.typeId
  wantStatus : send.wantStatus = event.wantStatus

inductive Built : List Event → List Send → Prop where
  | nil : Built [] []
  | sent {event : Event} {send : Send} {events : List Event} {sends : List Send} :
      send.IsOf event → Built events sends → Built (event :: events) (send :: sends)
  | skipped {event : Event} {events : List Event} {sends : List Send} :
      event.rule = .lua → Built events sends → Built (event :: events) sends

theorem renderOr_fault {source : String} {memory : Registers} {fault : Fault}
    (failed : renderOr source memory = .error fault) : fault = .badTemplate := by
  unfold renderOr at failed
  split at failed
  next => cases failed
  next => exact (Except.error.inj failed).symm

theorem renderOr_map_fault {α : Type} {source : String} {memory : Registers} {fault : Fault}
    {f : String → α} (failed : (renderOr source memory).map f = .error fault) :
    fault = .badTemplate := by
  cases rendered : renderOr source memory with
  | ok text => simp [rendered, Except.map] at failed
  | error other =>
    simp only [rendered, Except.map, Except.error.injEq] at failed
    exact failed ▸ renderOr_fault rendered

theorem renderEach_fault {memory : Registers} {entries : List (String × String)} {fault : Fault}
    (failed : renderEach memory entries = .error fault) : fault = .badTemplate := by
  induction entries with
  | nil => cases failed
  | cons entry rest ih =>
    rw [renderEach] at failed
    split at failed
    next other wrong => exact Except.error.inj failed ▸ renderOr_fault wrong
    next =>
      split at failed
      next other wrong => exact ih (Except.error.inj failed ▸ wrong)
      next => cases failed

theorem renderOr_map_some_ne_none {source : String} {memory : Registers} :
    (renderOr source memory).map some ≠ .ok none := by
  cases renderOr source memory <;> simp [Except.map]

namespace Event

theorem rule_of_content_none {event : Event} {input : String} {store : Store σ}
    (skipped : (event.content input store).1 = .ok none) : event.rule = .lua := by
  cases rule : event.rule <;> simp only [content, rule] at skipped
  case lua => rfl
  case formatMem => exact absurd skipped renderOr_map_some_ne_none
  case genPin =>
    split at skipped
    next => simp at skipped
    next => exact absurd skipped renderOr_map_some_ne_none
  all_goals simp at skipped

theorem content_fault {event : Event} {input : String} {store : Store σ} {fault : Fault}
    (failed : (event.content input store).1 = .error fault) : fault = .badTemplate := by
  cases rule : event.rule <;> simp only [content, rule] at failed
  case formatMem => exact renderOr_map_fault failed
  case genPin =>
    split at failed
    next => simp at failed
    next => exact renderOr_map_fault failed
  case lua => split at failed <;> cases failed
  all_goals cases failed

omit [Evaluator σ] in
theorem Fits.requiredData {event : Event} (fits : event.Fits .send) (kind : EventData.Kind)
    (required : requiredData? event.protocol = some kind) :
    ∃ data, event.eventData = some data ∧ data.kind = kind := by
  have present := fits.data
  simp only [missingData?, required] at present
  split at present
  next same => simpa using same
  next => cases present

omit [Evaluator σ] in
theorem payload_fault {event : Event} (fits : event.Fits .send) {memory : Registers}
    {fault : Fault} (failed : event.payload memory = .error fault) : fault = .badTemplate := by
  unfold payload at failed
  split at failed
  case h_4 => exact renderOr_map_fault failed
  case h_5 protocol absent =>
    obtain ⟨data, here, kind⟩ := fits.requiredData .issuing (by rw [protocol]; rfl)
    cases data <;> simp_all [EventData.kind]
  case h_6 => exact renderOr_map_fault failed
  case h_7 protocol absent =>
    obtain ⟨data, here, kind⟩ := fits.requiredData .proof (by rw [protocol]; rfl)
    cases data <;> simp_all [EventData.kind]
  case h_10 data _ _ =>
    cases rendered : renderEach memory data.entries with
    | ok values => simp [rendered, Except.map] at failed
    | error other =>
      simp only [rendered, Except.map, Except.error.injEq] at failed
      exact failed ▸ renderEach_fault rendered
  case h_12 => split at failed <;> cases failed
  case h_13 =>
    split at failed
    next wrong => exact Except.error.inj failed ▸ renderOr_fault wrong
    next => exact renderOr_map_fault failed
  case h_14 protocol absent =>
    obtain ⟨data, here, kind⟩ := fits.requiredData .email (by rw [protocol]; rfl)
    cases data <;> simp_all [EventData.kind]
  all_goals cases failed

theorem build_fault {event : Event} (fits : event.Fits .send) {input : String} {store : Store σ}
    {fault : Fault} (failed : (event.build input store).1 = .error fault) :
    fault = .badTemplate := by
  unfold build at failed
  split at failed
  next wrong => exact content_fault (congrArg Prod.fst (Except.error.inj failed ▸ wrong))
  next => cases failed
  next content after _ =>
    cases carried : event.payload after.memory with
    | ok payload => simp [carried, Except.map] at failed
    | error other =>
      simp only [carried, Except.map, Except.error.injEq] at failed
      exact failed ▸ payload_fault fits carried

/-- An event comes to its own send, or to none if it has a script. -/
theorem build_ok {event : Event} {input : String} {store : Store σ} {built : Option Send}
    (done : (event.build input store).1 = .ok built) :
    match built with
    | some send => send.IsOf event
    | none => event.rule = .lua := by
  unfold build at done
  split at done
  next => cases done
  next skipped => 
    cases done
    exact rule_of_content_none (congrArg Prod.fst skipped)
  next content after _ =>
    cases carried : event.payload after.memory with
    | error fault => simp [carried, Except.map] at done
    | ok payload =>
      simp only [carried, Except.map, Except.ok.injEq] at done
      cases done
      exact ⟨rfl, rfl, rfl⟩

end Event

theorem buildAll_fault {events : List Event} (fits : ∀ event ∈ events, event.Fits .send)
    {input : String} {store : Store σ} {fault : Fault}
    (failed : (buildAll events input store).1 = .error fault) : fault = .badTemplate := by
  induction events generalizing store with
  | nil => cases failed
  | cons event rest ih =>
    rw [buildAll] at failed
    split at failed
    next wrong =>
      exact Event.build_fault (fits event List.mem_cons_self)
        (congrArg Prod.fst (Except.error.inj failed ▸ wrong))
    next =>
      split at failed
      next wrong =>
        exact ih (fun other member => fits other (List.mem_cons_of_mem _ member))
          (congrArg Prod.fst (Except.error.inj failed ▸ wrong))
      next => cases failed

theorem buildAll_built {events : List Event} {input : String} {store : Store σ}
    {sends : List Send} (done : (buildAll events input store).1 = .ok sends) :
    Built events sends := by
  induction events generalizing store sends with
  | nil => cases done; exact .nil
  | cons event rest ih =>
    rw [buildAll] at done
    split at done
    next => cases done
    next built after first =>
      split at done
      next => cases done
      next later =>
        cases done
        have others := ih (congrArg Prod.fst later)
        have own := Event.build_ok (congrArg Prod.fst first)
        cases built with
        | none => exact .skipped own others
        | some send => exact .sent own others

theorem buildAll_append {early : List Event} {input : String} {store here : Store σ}
    {before : List Send} (reached : buildAll early input store = (.ok before, here))
    (later : List Event) :
    buildAll (early ++ later) input store =
      ((buildAll later input here).1.map (before ++ ·), (buildAll later input here).2) := by
  induction early generalizing store before with
  | nil =>
    cases reached
    rcases built : buildAll later input here with ⟨_ | sends, last⟩ <;>
      simp [built, Except.map]
  | cons event rest ih =>
    rw [buildAll] at reached
    rw [List.cons_append, buildAll]
    split at reached
    next => cases reached
    next first after built =>
      split at reached
      next => cases reached
      next others last following =>
        cases reached
        rw [ih following]
        rcases buildAll later input here with ⟨_ | sends, last⟩ <;>
          simp [Except.map]

end Parley
