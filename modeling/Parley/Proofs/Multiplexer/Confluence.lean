import Parley.Proofs.Multiplexer.Commute
/-!
The size of the channels and the order of moves do not matter while conversations live.

Items may come in as a burst, with the router and the conversations making their moves in any order
in between, or they may come in one at a time, each after everything has come to rest. Where no
conversation ends, both come to the same rest. Since moves can be made in either order, whatever is
done first on one way is found later on the other, and so no move is ever wasted.
-/

namespace Parley

variable {definition : Definition} {σ : Type}

namespace Multiplexer

def Lasts (before after : Multiplexer definition σ) : Prop :=
  ∀ worker ∈ after.workers, worker.task.conversation.isFinished = true →
    before.HasEnded worker.generation

variable [Evaluator σ]

/-- These items come in, one after the other. Anything may happen in between and afterwards. -/
inductive Takes (setting : Setting σ) :
    List Notification → Multiplexer definition σ → Multiplexer definition σ → Prop where
  | done {multiplexer : Multiplexer definition σ} : Takes setting [] multiplexer multiplexer
  | offered {item : Notification} {items : List Notification}
      {before next after : Multiplexer definition σ} : before.offer? item = some next →
        Takes setting items next after → Takes setting (item :: items) before after
  | moved {items : List Notification} {move : Move} {before next after : Multiplexer definition σ} :
      before.advance? setting move = some next →
        Takes setting items next after → Takes setting items before after

def Occurrence.item? : Occurrence → Option Notification
  | .offered item => some item
  | _ => none

def Occurrence.isOrdinary : Occurrence → Bool
  | .offered _ | .moved _ => true
  | _ => false

/-- These items come in one at a time, each when all that came before it has come to rest. -/
inductive Paced (setting : Setting σ) :
    List Notification → Multiplexer definition σ → Multiplexer definition σ → Prop where
  | done {multiplexer : Multiplexer definition σ} : Paced setting [] multiplexer multiplexer
  | next {item : Notification} {items : List Notification}
      {before next rest after : Multiplexer definition σ} : before.offer? item = some next →
        Reaches setting next rest → rest.isIdle setting = true →
          Paced setting items rest after → Paced setting (item :: items) before after

inductive CalmRun (setting : Setting σ) :
    Multiplexer definition σ → Multiplexer definition σ → Prop where
  | still (multiplexer : Multiplexer definition σ) : CalmRun setting multiplexer multiplexer
  | move {move : Move} {before next after : Multiplexer definition σ} :
      Flows setting before move next → next.Calm → CalmRun setting next after →
        CalmRun setting before after

variable {setting : Setting σ} {multiplexer before after here there : Multiplexer definition σ}
  {worker : Worker definition σ} {generation capacity : Nat} {item : Notification}
  {items : List Notification} {move : Move} {refuses : Call → Option ClientError}

theorem Flows.roomier (flows : Flows setting multiplexer move after)
    (enough : setting.capacity ≤ capacity) :
    Flows { setting with capacity } multiplexer move after := by
  cases flows with
  | routed waiting free => exact .routed waiting free
  | handed held found live room => exact .handed held found live (Nat.lt_of_lt_of_le room enough)
  | worked found live moved => exact .worked found live moved

theorem Quiet.not_flows (quiet : multiplexer.Quiet) : ¬Flows setting multiplexer move after := by
  intro flows
  cases flows with
  | routed waiting _ => rw [quiet.inbound] at waiting; cases waiting
  | handed held _ _ _ => rw [quiet.held] at held; cases held
  | worked found _ moved =>
    have member := (worker?_some found).1
    exact (quiet.rests _ member).not_step (quiet.serving.orderly.isOpen _ member).1 moved

theorem CalmRun.shuffled (run : CalmRun setting here after) (shuffled : here.Shuffled there)
    (client : setting.client = .deciding refuses) :
    ∃ later, CalmRun setting there later ∧ after.Shuffled later := by
  induction run generalizing there with
  | still => exact ⟨there, .still there, shuffled⟩
  | move flows calm _ ih =>
    obtain ⟨next, also, same⟩ := shuffled.flows client flows
    obtain ⟨later, run, alike⟩ := ih same
    exact ⟨later, .move also (same.calm calm) run, alike⟩

/-- Whatever is done first, the rest that some way comes to can still be reached. -/
theorem CalmRun.spare {next : Multiplexer definition σ} (run : CalmRun setting multiplexer after)
    (client : setting.client = .deciding refuses) (calm : multiplexer.Calm) (rests : after.Quiet)
    (flows : Flows setting multiplexer move next) :
    next.Calm ∧ ∃ later, CalmRun setting next later ∧ after.Shuffled later := by
  induction run generalizing move next with
  | still => exact absurd flows rests.not_flows
  | @move first before between after moved fine run ih =>
    by_cases same : first = move
    · -- It is what is done first on that way, too.
      subst same
      have one : between = next := moved.unique flows
      exact one ▸ ⟨fine, after, run, .refl after⟩
    · obtain ⟨both, follows, meets⟩ := calm.diamond client moved flows same fine
      obtain ⟨still, last, onward, alike⟩ := ih fine rests follows
      obtain ⟨calmNext, other, also, shuffled⟩ := meets still
      obtain ⟨later, goesOn, equal⟩ := onward.shuffled shuffled client
      exact ⟨calmNext, later, .move also (shuffled.calm still) goesOn, alike.trans equal⟩

namespace Takes

omit [Evaluator σ] in
theorem eq_of_offer (serving : multiplexer.Serving)
    (offered : multiplexer.offer? item = some after) : multiplexer.expecting [item] = after :=
  Option.some.inj ((serving.offer? item).symm.trans offered)

theorem of_reaches {next : Multiplexer definition σ} (reaches : Reaches setting multiplexer next)
    (takes : Takes setting items next after) : Takes setting items multiplexer after := by
  obtain ⟨moves, ran⟩ := reaches
  induction moves generalizing multiplexer with
  | nil => cases ran; exact takes
  | cons move rest ih =>
    obtain ⟨between, moved, ran⟩ := Option.bind_eq_some_iff.mp ran
    exact .moved moved (ih ran)

theorem of_run? {occurrences : List Occurrence}
    (ran : multiplexer.run? setting occurrences = some after)
    (ordinary : ∀ occurrence ∈ occurrences, occurrence.isOrdinary = true) :
    Takes setting (occurrences.filterMap Occurrence.item?) multiplexer after := by
  induction occurrences generalizing multiplexer with
  | nil => cases ran; exact .done
  | cons occurrence rest ih =>
    obtain ⟨next, occurred, goesOn⟩ := Option.bind_eq_some_iff.mp ran
    obtain ⟨first, others⟩ := List.forall_mem_cons.mp ordinary
    have later := ih goesOn others
    cases occurrence with
    | offered item => exact .offered occurred later
    | moved move => exact .moved occurred later
    | hooked _ | closed | cancelled => cases first

theorem serving (takes : Takes setting items multiplexer after) (serving : multiplexer.Serving) :
    after.Serving := by
  induction takes with
  | done => exact serving
  | offered offered _ ih => exact ih (eq_of_offer serving offered ▸ serving.expecting _)
  | moved moved _ ih => exact ih (serving.step (step_of_advance? moved)).1

theorem hasEnded (takes : Takes setting items multiplexer after) (serving : multiplexer.Serving)
    (ended : multiplexer.HasEnded generation) : after.HasEnded generation := by
  induction takes with
  | done => exact ended
  | offered offered _ ih =>
    cases eq_of_offer serving offered
    exact ih (serving.expecting _) ended
  | moved moved _ ih =>
    have step := step_of_advance? moved
    exact ih (serving.step step).1 (serving.hasEnded step ended)

theorem finished_or_before (before : Multiplexer definition σ)
    (takes : Takes setting items multiplexer after) (serving : multiplexer.Serving)
    (known : ∀ worker ∈ multiplexer.workers, worker.task.isLive = false →
      worker.task.conversation.isFinished = true ∨ before.HasEnded worker.generation) :
    ∀ worker ∈ after.workers, worker.task.isLive = false →
      worker.task.conversation.isFinished = true ∨ before.HasEnded worker.generation := by
  induction takes with
  | done => exact known
  | offered offered _ ih =>
    cases eq_of_offer serving offered
    exact ih (serving.expecting _) known
  | moved moved _ ih =>
    have step := step_of_advance? moved
    refine ih (serving.step step).1 fun worker member gone => ?_
    rcases serving.finished_or_before step member gone with
      finished | ⟨earlier, inside, same, ended, alike⟩
    · exact .inl finished
    · rw [← same, ← alike]
      exact known earlier inside ended

theorem hasEnded_of_lasts (takes : Takes setting items multiplexer after)
    (serving : multiplexer.Serving) (lasts : Lasts multiplexer after)
    (ended : after.HasEnded generation) : multiplexer.HasEnded generation := by
  obtain ⟨worker, member, rfl, gone⟩ := ended
  have known := takes.finished_or_before multiplexer serving
    fun earlier inside ended => .inr ⟨earlier, inside, rfl, ended⟩
  exact (known worker member gone).elim (lasts worker member) id

/-- If nobody ends, all items may as well come in first. -/
theorem calmRun (takes : Takes setting items multiplexer after)
    (enough : setting.capacity ≤ capacity) (calm : multiplexer.Calm)
    (plain : ∀ item ∈ items, item.isHook = false)
    (lasts : ∀ generation, after.HasEnded generation → multiplexer.HasEnded generation) :
    CalmRun { setting with capacity } (multiplexer.expecting items) after := by
  induction takes with
  | done => exact expecting_nil _ ▸ .still _
  | offered offered _ ih =>
    cases eq_of_offer calm.serving offered
    obtain ⟨first, later⟩ := List.forall_mem_cons.mp plain
    rw [expecting_cons]
    exact ih (calm.expecting (by simpa using first)) later lasts
  | moved moved takes ih =>
    have step := step_of_advance? moved
    have flows := calm.flows step
    have serving := (calm.serving.step step).1
    rcases flows.calm_or_ended calm with still | ⟨generation, ended, not⟩
    · refine .move ((flows.roomier enough).expecting _) (still.expecting plain) (ih still plain ?_)
      exact fun generation ended => calm.serving.hasEnded step (lasts generation ended)
    · exact absurd (lasts generation (takes.hasEnded serving ended)) not

/-- Items that come in while moves are made lead to the same rest as when all have come in first,
and nobody ends. -/
theorem shuffled {last : Multiplexer definition σ} (takes : Takes setting items multiplexer after)
    (client : setting.client = .deciding refuses) (enough : setting.capacity ≤ capacity)
    (calm : multiplexer.Calm) (plain : ∀ item ∈ items, item.isHook = false)
    (run : CalmRun { setting with capacity } (multiplexer.expecting items) last)
    (ends : last.Quiet) (rests : after.Quiet) : last.Shuffled after := by
  induction takes generalizing last with
  | done =>
    rw [expecting_nil] at run
    cases run with
    | still => exact .refl _
    | move flows _ _ => exact absurd flows rests.not_flows
  | offered offered _ ih =>
    cases eq_of_offer calm.serving offered
    obtain ⟨first, later⟩ := List.forall_mem_cons.mp plain
    rw [expecting_cons] at run
    exact ih (calm.expecting (by simpa using first)) later run ends rests
  | moved moved _ ih =>
    have flows := calm.flows (step_of_advance? moved)
    obtain ⟨fine, later, run, alike⟩ :=
      run.spare client (calm.expecting plain) ends ((flows.roomier enough).expecting _)
    exact alike.trans (ih fine.of_expecting plain run (alike.quiet ends) rests)

end Takes

namespace Paced

theorem takes (paced : Paced setting items multiplexer after) :
    Takes setting items multiplexer after := by
  induction paced with
  | done => exact .done
  | next offered reaches _ _ ih => exact .offered offered (ih.of_reaches reaches)

theorem quiet (paced : Paced setting items multiplexer after) (room : 0 < setting.capacity)
    (quiet : multiplexer.Quiet) : after.Quiet := by
  induction paced with
  | done => exact quiet
  | next offered reaches idle _ ih =>
    cases Takes.eq_of_offer quiet.serving offered
    exact ih ((reaches.serving (quiet.serving.expecting _)).quiet room idle)

end Paced

theorem Serving.exists_paced (serving : multiplexer.Serving) (setting : Setting σ)
    (items : List Notification) : ∃ after, Paced setting items multiplexer after := by
  induction items generalizing multiplexer with
  | nil => exact ⟨multiplexer, .done⟩
  | cons item rest ih =>
    obtain ⟨moves, last, ran, idle⟩ := (serving.expecting [item]).exists_idle setting
    have reaches : Reaches setting (multiplexer.expecting [item]) last := ⟨moves, ran⟩
    obtain ⟨after, paced⟩ := ih (reaches.serving (serving.expecting [item]))
    exact ⟨after, .next (serving.offer? item) reaches idle paced⟩

/-- Neither the size of the channels nor the order of moves matters where no conversation comes to
its end. A multiplexer rests, however it has come to that, and gets some items that are not hooks,
with the router and the conversations at work meanwhile in whatever order. Once it rests again the
calls for each connection, all conversations with their states and memories, the connections that
are listed and all counters are the same as if it had got the items one at a time, each when it was
at rest, and with channels of any other size. That no conversation ends has to be known of one of
the two ways only. Both ways can be gone: the items can always come in one at a time, and a burst
can always come to rest. -/
theorem burst_is_like_one_at_a_time {earlier : Setting σ} {past : List Occurrence}
    (ran : (initial definition σ).run? earlier past = some before)
    (routing : before.stage = .routing) (uncancelled : before.isCancelled = false)
    (isOpen : before.inbound.isOpen = true) (idle : before.isIdle setting = true)
    (client : setting.client = .deciding refuses) (room : 0 < setting.capacity)
    (also : 0 < capacity) (plain : ∀ item ∈ items, item.isHook = false) :
    (∃ paced, Paced { setting with capacity } items before paced) ∧
      (∀ middle, Takes setting items before middle →
        ∃ after, middle.Reaches setting after ∧ after.isIdle setting = true) ∧
      ∀ after paced, Takes setting items before after → after.isIdle setting = true →
        Paced { setting with capacity } items before paced →
        Lasts before after ∨ Lasts before paced →
          (∀ connection, after.ownAttempts connection = paced.ownAttempts connection) ∧
            after.workers = paced.workers ∧ after.live = paced.live ∧
            after.ledger.counters = paced.ledger.counters := by
  have serving : before.Serving :=
    ⟨Orderly.initial.run ran routing, routing, uncancelled, isOpen⟩
  have quiet := serving.quiet room idle
  have calm := Calm.of_quiet quiet ((Balanced.run ran).current routing)
  refine ⟨serving.exists_paced _ items, fun middle takes => ?_, ?_⟩
  · obtain ⟨moves, after, ran, idle⟩ := (takes.serving serving).exists_idle setting
    exact ⟨after, ⟨moves, ran⟩, idle⟩
  · intro after paced takes rests one lasts
    -- Both ways are compared where the channels are large enough for either of them.
    have narrow : setting.capacity ≤ max setting.capacity capacity := Nat.le_max_left _ _
    have wide : capacity ≤ max setting.capacity capacity := Nat.le_max_right _ _
    have burstRests := (takes.serving serving).quiet room rests
    have pacedRests := one.quiet also quiet
    have shuffled : after.Shuffled paced := by
      rcases lasts with lasts | lasts
      · have run := takes.calmRun narrow calm plain fun _ => takes.hasEnded_of_lasts serving lasts
        exact one.takes.shuffled client wide calm plain run burstRests pacedRests
      · have run := one.takes.calmRun wide calm plain
          fun _ => one.takes.hasEnded_of_lasts serving lasts
        exact (takes.shuffled client narrow calm plain run pacedRests burstRests).symm
    have same := shuffled.same
    refine ⟨fun connection => (shuffled.ledger.attempts connection).symm, ?_, ?_,
      shuffled.ledger.counters.symm⟩
    · rw [same]
    · rw [same]
      rfl

def cramped : Setting Lua.State where
  client := .deciding fun call =>
    if call = .basicMessage "a" "echo two" then some (.transport "down") else none
  capacity := 1
  scripts := .initial
  pins _ _ := .constant (Fin.last 999999)

/-- Three messages of one connection and one of another come in faster than they are handled. The
router has to wait for room with the second and with the third of them. -/
def chatter : List Occurrence :=
  [.offered (heard "one"), .offered (heard "two"), .moved .routeInbound, .moved .handOver,
    .moved .routeInbound, .offered (heard "three"), .moved (.work 0 .begin),
    .moved (.work 0 .takeNotification), .moved .handOver, .moved .routeInbound,
    .offered (.status (.message "b" "q" "hello")), .moved (.work 0 .handle),
    .moved (.work 0 .takeNotification), .moved .handOver, .moved .routeInbound, .moved .handOver,
    .moved (.work 1 .begin), .moved (.work 0 .handle), .moved (.work 1 .takeNotification),
    .moved (.work 0 .takeNotification), .moved (.work 1 .handle), .moved (.work 0 .handle)]

/-- One at a time and with more room, the same is said to the same people. -/
theorem chatter_is_like_one_at_a_time :
    ∃ after paced : Multiplexer .echo Lua.State,
      (initial .echo Lua.State).run? cramped chatter = some after ∧
        after.isIdle cramped = true ∧
        Paced { cramped with capacity := 16 } (chatter.filterMap Occurrence.item?)
          (initial .echo Lua.State) paced ∧
        paced.ownAttempts "a" =
          [⟨"a", .basicMessage "a" "echo three", none⟩,
            ⟨"a", .basicMessage "a" "echo two", some (.transport "down")⟩,
            ⟨"a", .basicMessage "a" "echo one", none⟩, ⟨"a", .basicMessage "a" "Hello!", none⟩] ∧
        after.workers = paced.workers ∧ after.live = paced.live ∧
        after.ledger.counters = paced.ledger.counters := by
  have seen : (((initial .echo Lua.State).run? cramped chatter).any fun multiplexer =>
      multiplexer.isIdle cramped &&
        (multiplexer.workers.all fun worker => !worker.task.conversation.isFinished) &&
        multiplexer.ownAttempts "a" =
          [⟨"a", .basicMessage "a" "echo three", none⟩,
            ⟨"a", .basicMessage "a" "echo two", some (.transport "down")⟩,
            ⟨"a", .basicMessage "a" "echo one", none⟩,
            ⟨"a", .basicMessage "a" "Hello!", none⟩]) = true := by
    decide +kernel
  obtain ⟨after, ran, same⟩ := (Option.any_eq_true _ _).mp seen
  simp only [Bool.and_eq_true, decide_eq_true_eq] at same
  obtain ⟨⟨idle, unfinished⟩, calls⟩ := same
  have takes := Takes.of_run? ran (by decide)
  have lasts : Lasts (initial .echo Lua.State) after := fun worker member finished => by
    have not := List.all_eq_true.mp unfinished worker member
    rw [finished] at not
    cases not
  have start : (initial .echo Lua.State).run? cramped [] = some (initial .echo Lua.State) := rfl
  have rests : (initial .echo Lua.State).isIdle cramped = true := by decide +kernel
  have client : cramped.client = .deciding _ := rfl
  have plain : ∀ item ∈ chatter.filterMap Occurrence.item?, item.isHook = false := by decide
  obtain ⟨⟨paced, one⟩, _, agree⟩ := burst_is_like_one_at_a_time start rfl rfl rfl rests client
    (by decide) (by decide : 0 < 16) plain
  obtain ⟨attempts, workers, live, counters⟩ := agree after paced takes idle one (.inl lasts)
  exact ⟨after, paced, ran, idle, one, attempts "a" ▸ calls, workers, live, counters⟩

end Multiplexer
end Parley
