import Parley.Lua.Evaluator
import Parley.Proofs.Machine.Operation
/-!
How a machine ends.

The end comes with the first step into a terminal state, and it stays. Whoever listens at that time
is told; nobody is told at any other. A channel may be given away, taken back and replaced at any
time. One that comes after the end stays silent.
-/

namespace Parley

variable {definition : Definition} {σ : Type}

inductive Happening (σ : Type) where
  | operation (operation : Operation)
  /-- A new channel takes the place of the one there was. -/
  | listen
  /-- Whoever listens goes away. -/
  | leave
  /-- The machine gets something else to run scripts. -/
  | equip (scripts : σ)

namespace Happening

def hears (heard : Bool) : Happening σ → Bool
  | listen => true
  | leave => false
  | operation _ | equip _ => heard

def tune (signal : EndSignal) : Happening σ → EndSignal
  | listen => .awaited
  | leave => if signal = .awaited then .abandoned else signal
  | operation _ | equip _ => signal

theorem tune_eq_awaited (signal : EndSignal) (happening : Happening σ) :
    decide (happening.tune signal = .awaited) = happening.hears (decide (signal = .awaited)) := by
  cases happening <;> cases signal <;> rfl

end Happening

def listening (atFirst : Bool) (happenings : List (Happening σ)) : Bool :=
  happenings.foldl Happening.hears atFirst

namespace Machine

theorem abandonSignal_terminated (machine : Machine definition σ) :
    machine.abandonSignal.terminated = machine.terminated := by
  unfold abandonSignal
  split <;> rfl

theorem abandonSignal_signal (machine : Machine definition σ) :
    machine.abandonSignal.signal =
      if machine.signal = .awaited then .abandoned else machine.signal := by
  unfold abandonSignal
  split
  next awaited => rw [if_pos awaited]
  next unheard => rw [if_neg unheard]

theorem noteEnd_terminated (machine : Machine definition σ) :
    machine.noteEnd.terminated = (machine.terminated || machine.state.terminal) := by
  unfold noteEnd
  cases machine.state.terminal <;> cases ended : machine.terminated <;> simp [ended]

theorem noteEnd_signal (machine : Machine definition σ) :
    machine.noteEnd.signal =
      if machine.state.terminal = true ∧ machine.terminated = false ∧ machine.signal = .awaited then
        .given
      else machine.signal := by
  unfold noteEnd
  cases machine.state.terminal <;> cases ended : machine.terminated <;> simp

variable [Evaluator σ]

def undergo (machine : Machine definition σ) : Happening σ → Answer × Machine definition σ
  | .operation operation => machine.perform operation
  | .listen => (.done, { machine with signal := .awaited })
  | .leave => (.done, machine.abandonSignal)
  | .equip scripts =>
    (.done, { machine with store := { machine.store with scripts := some scripts } })

def undergoAll (machine : Machine definition σ) (happenings : List (Happening σ)) :
    Machine definition σ :=
  happenings.foldl (fun machine happening => (machine.undergo happening).2) machine

def Ends (machine : Machine definition σ) (happening : Happening σ) : Prop :=
  (machine.undergo happening).1 = .stepped (.ok ()) ∧
    (machine.undergo happening).2.state.terminal = true

def Tells (machine : Machine definition σ) (happening : Happening σ) : Prop :=
  machine.signal ≠ .given ∧ (machine.undergo happening).2.signal = .given

instance (machine : Machine definition σ) (happening : Happening σ) :
    Decidable (machine.Tells happening) :=
  inferInstanceAs (Decidable (_ ∧ _))

def timesTold (machine : Machine definition σ) : List (Happening σ) → Nat
  | [] => 0
  | happening :: rest =>
    (if machine.Tells happening then 1 else 0) + (machine.undergo happening).2.timesTold rest

/-- Which steps end a machine is up to their targets alone. -/
theorem ends_iff (machine : Machine definition σ) (happening : Happening σ) :
    machine.Ends happening ↔
      ∃ transition state, happening = .operation (.step transition) ∧
        definition.state? transition.target = some state ∧ state.terminal = true := by
  constructor
  · rintro ⟨answered, terminal⟩
    cases happening with
    | listen | leave | equip _ => cases answered
    | operation operation =>
      cases operation with
      | start | find _ | build _ _ | rollback => cases answered
      | step transition =>
        simp only [undergo, perform, step] at answered terminal
        cases found : definition.stateIndex? transition.target with
        | none =>
          simp only [found] at answered
          cases answered
        | some next =>
          simp only [found, enter, state, (noteEnd_state _).1] at terminal
          exact ⟨transition, _, rfl, congrArg (Option.map definition.states.get) found, terminal⟩
  · rintro ⟨transition, state, rfl, declared, terminal⟩
    obtain ⟨next, found, rfl⟩ := Option.map_eq_some_iff.mp declared
    simp only [Ends, undergo, perform, step, found, enter, Machine.state, (noteEnd_state _).1]
    exact ⟨trivial, terminal⟩

theorem undergo_of_not_ends {machine : Machine definition σ} {happening : Happening σ}
    (lives : ¬machine.Ends happening) :
    (machine.undergo happening).2.terminated = machine.terminated ∧
      (machine.undergo happening).2.signal = happening.tune machine.signal := by
  have of_same {after : Machine definition σ} (same : SamePlace machine after) :
      after.terminated = machine.terminated ∧ after.signal = machine.signal :=
    ⟨same.terminated, same.signal⟩
  cases happening with
  | listen | equip _ => exact ⟨rfl, rfl⟩
  | leave => exact ⟨machine.abandonSignal_terminated, machine.abandonSignal_signal⟩
  | operation operation =>
    cases operation with
    | start => exact ⟨rfl, rfl⟩
    | find item => exact of_same (machine.find_samePlace item)
    | build transition input => exact of_same (machine.buildSends_samePlace transition input)
    | rollback => exact of_same machine.rollback_samePlace
    | step transition =>
      cases found : definition.stateIndex? transition.target with
      | none =>
        simp only [undergo, perform, step, found, Happening.tune, true_and]
      | some next =>
        have inside : (definition.states.get next).terminal = false :=
          Bool.not_eq_true _ |>.mp fun terminal => lives ((machine.ends_iff _).mpr
            ⟨transition, _, rfl, congrArg (Option.map definition.states.get) found, terminal⟩)
        simp only [undergo, perform, step, found, enter, noteEnd_terminated, noteEnd_signal, state,
          inside, Bool.or_false, Bool.false_eq_true, false_and, if_false, Happening.tune, true_and]

theorem undergo_of_ends {machine : Machine definition σ} {happening : Happening σ}
    (ends : machine.Ends happening) :
    (machine.undergo happening).2.terminated = true ∧
      (machine.undergo happening).2.signal =
        if machine.terminated = false ∧ machine.signal = .awaited then .given
        else machine.signal := by
  obtain ⟨transition, state, rfl, declared, terminal⟩ := (machine.ends_iff _).mp ends
  obtain ⟨next, found, rfl⟩ := Option.map_eq_some_iff.mp declared
  simp only [undergo, perform, step, found, enter, noteEnd_terminated, noteEnd_signal,
    Machine.state, terminal, Bool.or_true, true_and]

theorem terminated_undergo (machine : Machine definition σ) (happening : Happening σ) :
    (machine.undergo happening).2.terminated = true ↔
      machine.terminated = true ∨ machine.Ends happening := by
  by_cases ends : machine.Ends happening
  · simp only [(undergo_of_ends ends).1, ends, or_true]
  · rw [(undergo_of_not_ends ends).1]
    simp only [ends, or_false]

theorem tells_iff (machine : Machine definition σ) (happening : Happening σ) :
    machine.Tells happening ↔
      machine.Ends happening ∧ machine.terminated = false ∧ machine.signal = .awaited := by
  by_cases ends : machine.Ends happening
  · simp only [Tells, (undergo_of_ends ends).2, ends, true_and]
    split
    next told => simp [told]
    next silent => simp [silent]
  · simp only [Tells, (undergo_of_not_ends ends).2, ends, false_and, iff_false]
    cases happening <;> cases machine.signal <;> simp [Happening.tune]

theorem undergoAll_append (machine : Machine definition σ) (earlier later : List (Happening σ)) :
    machine.undergoAll (earlier ++ later) = (machine.undergoAll earlier).undergoAll later :=
  List.foldl_append

theorem terminated_undergoAll (machine : Machine definition σ) (happenings : List (Happening σ)) :
    (machine.undergoAll happenings).terminated = true ↔
      machine.terminated = true ∨
        ∃ earlier happening later, happenings = earlier ++ happening :: later ∧
          (machine.undergoAll earlier).Ends happening := by
  induction happenings generalizing machine with
  | nil => simp [undergoAll]
  | cons first rest ih =>
    have step : machine.undergoAll (first :: rest) =
      (machine.undergo first).2.undergoAll rest := rfl
    rw [step, ih, terminated_undergo, or_assoc]
    refine or_congr_right ⟨?_, ?_⟩
    · rintro (ends | ⟨earlier, happening, later, rfl, ends⟩)
      · exact ⟨[], first, rest, rfl, ends⟩
      · exact ⟨first :: earlier, happening, later, rfl, ends⟩
    · rintro ⟨earlier, happening, later, split, ends⟩
      cases earlier with
      | nil =>
        obtain ⟨rfl, rfl⟩ := List.cons.inj split
        exact .inl ends
      | cons other before =>
        obtain ⟨rfl, rfl⟩ := List.cons.inj split
        exact .inr ⟨before, happening, later, rfl, ends⟩

/-- The invariant of the channel: until the end it is as those who come and go leave it. -/
theorem awaited_undergoAll (machine : Machine definition σ) {happenings : List (Happening σ)}
    (lives : (machine.undergoAll happenings).terminated = false) :
    decide ((machine.undergoAll happenings).signal = .awaited) =
      listening (decide (machine.signal = .awaited)) happenings := by
  induction happenings generalizing machine with
  | nil => rfl
  | cons first rest ih =>
    have lived : ¬machine.Ends first := by
      intro ends
      have ended : (machine.undergoAll (first :: rest)).terminated = true :=
        (machine.terminated_undergoAll _).mpr (.inr ⟨[], first, rest, rfl, ends⟩)
      rw [lives] at ended
      cases ended
    have tuned := first.tune_eq_awaited machine.signal
    rw [← (undergo_of_not_ends lived).2] at tuned
    have later := ih (machine.undergo first).2 lives
    rw [tuned] at later
    exact later

theorem timesTold_of_terminated {machine : Machine definition σ} (ended : machine.terminated = true)
    (happenings : List (Happening σ)) : machine.timesTold happenings = 0 := by
  induction happenings generalizing machine with
  | nil => rfl
  | cons first rest ih =>
    have silent : ¬machine.Tells first := by
      rw [tells_iff, ended]
      rintro ⟨_, lives, _⟩
      cases lives
    rw [timesTold, if_neg silent, ih ((machine.terminated_undergo first).mpr (.inl ended))]

theorem timesTold_le_one (machine : Machine definition σ) (happenings : List (Happening σ)) :
    machine.timesTold happenings ≤ 1 := by
  induction happenings generalizing machine with
  | nil => exact Nat.zero_le 1
  | cons first rest ih =>
    rw [timesTold]
    by_cases tells : machine.Tells first
    · have ended := ((machine.terminated_undergo first).mpr
        (.inr ((machine.tells_iff first).mp tells).1))
      rw [if_pos tells, timesTold_of_terminated ended]
    · rw [if_neg tells, Nat.zero_add]
      exact ih _

section Fresh

variable {machine : Machine definition σ} (fresh : machine.terminated = false)
include fresh

theorem fresh_terminated_iff (happenings : List (Happening σ)) :
    (machine.undergoAll happenings).terminated = true ↔
      ∃ earlier happening later, happenings = earlier ++ happening :: later ∧
        (machine.undergoAll earlier).Ends happening := by
  rw [terminated_undergoAll, or_iff_right (Bool.not_eq_true _ |>.mpr fresh)]

/-- The end is told at the first step into a terminal state, if somebody listens then. -/
theorem fresh_tells_iff (earlier : List (Happening σ)) (happening : Happening σ) :
    (machine.undergoAll earlier).Tells happening ↔
      (machine.undergoAll earlier).Ends happening ∧
        (∀ before other between, earlier = before ++ other :: between →
          ¬(machine.undergoAll before).Ends other) ∧
        listening (decide (machine.signal = .awaited)) earlier = true := by
  rw [tells_iff]
  refine and_congr_right fun _ => ?_
  by_cases lives : (machine.undergoAll earlier).terminated = false
  · have first : ∀ before other between, earlier = before ++ other :: between →
        ¬(machine.undergoAll before).Ends other := by
      intro before other between split ends
      have done := (fresh_terminated_iff fresh earlier).mpr ⟨before, other, between, split, ends⟩
      rw [lives] at done
      cases done
    have listens : (machine.undergoAll earlier).signal = .awaited ↔
        listening (decide (machine.signal = .awaited)) earlier = true :=
      decide_eq_true_iff.symm.trans
        (iff_of_eq (congrArg (· = true) (machine.awaited_undergoAll lives)))
    exact ⟨fun ⟨_, awaited⟩ => ⟨first, listens.mp awaited⟩,
      fun ⟨_, hears⟩ => ⟨lives, listens.mpr hears⟩⟩
  · have done := (fresh_terminated_iff fresh earlier).mp (Bool.not_eq_false _ |>.mp lives)
    obtain ⟨before, other, between, split, ends⟩ := done
    exact ⟨fun ⟨alive, _⟩ => absurd alive lives,
      fun ⟨first, _⟩ => absurd ends (first before other between split)⟩

end Fresh

/-- The end comes with the first step into a terminal state, and stays. It is told at that step if
somebody listens then, and never else, so that it is told once at most. -/
theorem end_is_told_once (scripts : Option σ) (pins : PinStream) (signal : EndSignal) :
    let machine := new definition scripts pins signal
    (∀ happenings,
        (machine.undergoAll happenings).terminated = true ↔
          ∃ earlier happening later, happenings = earlier ++ happening :: later ∧
            (machine.undergoAll earlier).Ends happening) ∧
      (∀ earlier later, (machine.undergoAll earlier).terminated = true →
        (machine.undergoAll (earlier ++ later)).terminated = true) ∧
      (∀ earlier happening,
        (machine.undergoAll earlier).Tells happening ↔
          (machine.undergoAll earlier).Ends happening ∧
            (∀ before other between, earlier = before ++ other :: between →
              ¬(machine.undergoAll before).Ends other) ∧
            listening (decide (signal = .awaited)) earlier = true) ∧
      (∀ happenings, machine.timesTold happenings ≤ 1) ∧
      ∀ earlier happening,
        (machine.undergoAll earlier).Ends happening ↔
          ∃ transition state, happening = .operation (.step transition) ∧
            definition.state? transition.target = some state ∧ state.terminal = true := by
  intro machine
  have fresh : machine.terminated = false := rfl
  refine ⟨fresh_terminated_iff fresh, fun earlier later done => ?_, fresh_tells_iff fresh,
    machine.timesTold_le_one, fun earlier => (machine.undergoAll earlier).ends_iff⟩
  rw [undergoAll_append]
  exact (terminated_undergoAll _ later).mpr (.inl done)

def door (signal : EndSignal) :
    Machine
      { name := "door"
        kind := .conversation
        keepMemory := false
        initial := { sends := [], target := "OPEN" }
        states := [⟨"OPEN", [], false⟩, ⟨"SHUT", [], true⟩]
        initialIndex := ⟨0, by decide⟩
        checksum := "" } Lua.State :=
  new _ none (.constant (Fin.last 999999)) signal

def move (target : String) : Happening Lua.State :=
  .operation (.step ⟨⟨.hook, .input, none, "", none, true⟩, [], target⟩)

/-- A door that falls shut a second time is not told of again, and neither is one that nobody has
listened to. -/
example :
    (door .awaited).timesTold [move "LOST", move "SHUT", .listen, move "OPEN", move "SHUT"] =
        1 ∧
      (door .awaited).timesTold [.leave, move "SHUT", .listen, move "SHUT"] = 0 := by
  decide +kernel

end Machine
end Parley
