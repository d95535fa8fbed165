import Parley.Proofs.Conversation.Lives
import Parley.Proofs.Multiplexer.Hushed
/-!
Nobody talks to itself.

A station gets one signal after the other and comes to rest after each. If its machine has no
trigger for the status of a protocol of ours, then signals that are echoes might as well not come:
whenever the station rests, the calls, the conversations with their states and memories, the table
and all counters but two are what they would be without them.
-/

namespace Parley

variable {definition : Definition} {σ : Type}

inductive Signal where
  /-- Items come in through the stream, one right after the other. -/
  | heard (items : List Notification)
  /-- A hook comes in beside the stream. -/
  | hooked (data : HookData)
  /-- From now on the client answers in that way. -/
  | answering (client : Client)
  /-- No more items will come through the stream. -/
  | closed
  | cancelled

/-- Nothing but echoes, of any protocol in any state, for any connection. -/
def Signal.isEcho : Signal → Bool
  | .heard items => items.all Notification.isEcho
  | _ => false

structure Station (definition : Definition) (σ : Type) where
  client : Client
  multiplexer : Multiplexer definition σ

def Multiplexer.offerAll (multiplexer : Multiplexer definition σ) (items : List Notification) :
    Multiplexer definition σ :=
  items.foldl (fun held item => (held.offer? item).getD held) multiplexer

namespace Station

def fresh (definition : Definition) (σ : Type) (client : Client) : Station definition σ where
  client := client
  multiplexer := .initial definition σ

def settingOf (setting : Setting σ) (station : Station definition σ) : Setting σ :=
  { setting with client := station.client }

def enter (station : Station definition σ) : Signal → Station definition σ
  | .heard items => { station with multiplexer := station.multiplexer.offerAll items }
  | .hooked data =>
    { station with
      multiplexer := (station.multiplexer.offerHook data).toOption.getD station.multiplexer }
  | .answering client => { station with client }
  | .closed => { station with multiplexer := station.multiplexer.closeInbound }
  | .cancelled => { station with multiplexer := station.multiplexer.cancel }

variable [Evaluator σ]

def serve (setting : Setting σ) (station : Station definition σ) (signal : Signal) :
    Station definition σ :=
  let entered := station.enter signal
  { entered with multiplexer := entered.multiplexer.settle (entered.settingOf setting) }

def serveAll (setting : Setting σ) (client : Client) (signals : List Signal) :
    Station definition σ :=
  signals.foldl (serve setting) (fresh definition σ client)

/-- To come from one rest to the next on a signal. In between anything may happen, in any order,
until nothing can happen any more. -/
structure ComesTo (setting : Setting σ) (signal : Signal) (before after : Station definition σ) :
    Prop where
  client : after.client = (before.enter signal).client
  reaches : (before.enter signal).multiplexer.Reaches (after.settingOf setting) after.multiplexer
  idle : after.multiplexer.isIdle (after.settingOf setting) = true

/-- A station and what it got, with what showed of it at rest after each signal, the last one
first. -/
inductive Served (setting : Setting σ) (client : Client) :
    List (Signal × Multiplexer definition σ) → Station definition σ → Prop where
  | fresh : Served setting client [] (fresh definition σ client)
  | next {history : List (Signal × Multiplexer definition σ)} {station after : Station definition σ}
      {signal : Signal} : Served setting client history station →
      ComesTo setting signal station after →
        Served setting client ((signal, after.multiplexer.surface) :: history) after

end Station

namespace Multiplexer

variable {setting : Setting σ} {multiplexer after here there : Multiplexer definition σ}
  {items : List Notification}

def Pauses (multiplexer : Multiplexer definition σ) : Prop :=
  multiplexer.AtRest ∨ multiplexer.Ended

theorem Serving.offerAll (serving : multiplexer.Serving) (items : List Notification) :
    multiplexer.offerAll items =
      { multiplexer with
        inbound := { multiplexer.inbound with items := multiplexer.inbound.items ++ items } } := by
  unfold Multiplexer.offerAll
  induction items generalizing multiplexer with
  | nil => rw [List.append_nil]; rfl
  | cons item rest ih =>
    have pushed : Serving { multiplexer with inbound := multiplexer.inbound.push item } :=
      ⟨serving.orderly.of_same rfl rfl (List.Subset.refl _) rfl, serving.routing,
        serving.uncancelled, serving.isOpen⟩
    rw [List.foldl_cons, serving.offer? item, Option.getD_some, ih pushed]
    simp only [Channel.push, List.append_assoc, List.singleton_append]

theorem Ended.offerAll (ended : multiplexer.Ended) (items : List Notification) :
    multiplexer.offerAll items = multiplexer := by
  have refused (item : Notification) : multiplexer.offer? item = none := by
    simp [Multiplexer.offer?, hasStopped, ended.stopped]
  unfold Multiplexer.offerAll
  induction items with
  | nil => rfl
  | cons item rest ih =>
    rw [List.foldl_cons, refused]
    exact ih

namespace Matches

theorem hasStopped (same : Matches here there) : there.hasStopped = here.hasStopped := by
  unfold Multiplexer.hasStopped
  rw [same.stage]

theorem offer? (same : Matches here there) (item : Notification) :
    Matches ((here.offer? item).getD here) ((there.offer? item).getD there) := by
  unfold Multiplexer.offer?
  rw [same.hasStopped, same.inbound]
  split
  next => exact { same with inbound := rfl }
  next => exact same

theorem offerAll (same : Matches here there) (items : List Notification) :
    Matches (here.offerAll items) (there.offerAll items) := by
  unfold Multiplexer.offerAll
  induction items generalizing here there with
  | nil => exact same
  | cons item rest ih => exact ih (same.offer? item)

theorem offerHook (same : Matches here there) (data : HookData) :
    Matches ((here.offerHook data).toOption.getD here)
      ((there.offerHook data).toOption.getD there) := by
  unfold Multiplexer.offerHook
  rw [same.hasStopped, same.control]
  split
  next => exact same
  next => exact { same with control := rfl }

end Matches
end Multiplexer

namespace Station

variable {setting : Setting σ} {client : Client} {station after here there : Station definition σ}
  {signal : Signal}

inductive Entered (multiplexer : Multiplexer definition σ) : Prop where
  | serving : multiplexer.Serving → multiplexer.Collected → multiplexer.Announced →
      multiplexer.Tried → Entered multiplexer
  | leaving : multiplexer.Leaving → Entered multiplexer
  | ended : multiplexer.Ended → Entered multiplexer

theorem enter_entered (pauses : station.multiplexer.Pauses) (signal : Signal) :
    Entered (station.enter signal).multiplexer := by
  rcases pauses with ⟨quiet, collected, announced⟩ | ended
  · have tried : station.multiplexer.Tried := by simp [Multiplexer.Tried, quiet.held]
    obtain ⟨orderly, routing, uncancelled, isOpen⟩ := quiet.serving
    cases signal with
    | heard items =>
      simp only [enter, quiet.serving.offerAll]
      refine .serving ⟨?_, routing, uncancelled, isOpen⟩ ?_ ?_ tried
      · exact orderly.of_same rfl rfl (List.Subset.refl _) rfl
      · exact collected.of_same rfl (.inl rfl)
      · exact announced.of_same rfl rfl rfl
    | hooked data =>
      simp only [enter, quiet.serving.offerHook]
      refine .serving ⟨?_, routing, uncancelled, isOpen⟩ ?_ ?_ tried
      · exact orderly.of_same rfl rfl (List.Subset.refl _) rfl
      · exact collected.of_same rfl (.inl rfl)
      · exact announced.of_same rfl rfl rfl
    | answering client => exact .serving quiet.serving collected announced tried
    | closed =>
      refine .leaving ⟨?_, routing, .inl rfl, quiet.inbound, quiet.control, quiet.held,
        quiet.completions⟩
      exact orderly.of_same rfl rfl (List.Subset.refl _) rfl
    | cancelled =>
      refine .leaving ⟨?_, routing, .inr rfl, quiet.inbound, quiet.control, quiet.held,
        quiet.completions⟩
      exact orderly.of_same rfl rfl (List.Subset.refl _) rfl
  · refine .ended ?_
    cases signal with
    | heard items => simpa only [enter, ended.offerAll] using ended
    | hooked data =>
      have refused : station.multiplexer.offerHook data = .error .shuttingDown := by
        simp [Multiplexer.offerHook, Multiplexer.hasStopped, ended.stopped]
      simp only [enter, refused]
      exact ended
    | answering client => exact ended
    | closed => exact ⟨ended.stopped, ended.reported⟩
    | cancelled => exact ⟨ended.stopped, ended.reported⟩

variable [Evaluator σ]

theorem ComesTo.pauses (came : ComesTo setting signal station after)
    (room : 0 < setting.capacity) (pauses : station.multiplexer.Pauses) :
    after.multiplexer.Pauses := by
  have enough : 0 < (after.settingOf setting).capacity := room
  cases enter_entered pauses signal with
  | serving serving collected announced _ =>
    have served := came.reaches.serving serving
    exact .inl ⟨served.quiet enough came.idle, collected.reaches came.reaches,
      announced.reaches serving.orderly came.reaches served.routing⟩
  | leaving leaving =>
    have coherent := leaving.orderly.coherent leaving.routing
    exact .inr ((coherent.reaches came.reaches).ended
      (leaving.ending.reaches coherent came.reaches) enough came.idle)
  | ended ended => exact .inr (ended.eq_of_reaches came.reaches ▸ ended)

theorem comesTo_serve (room : 0 < setting.capacity) (pauses : station.multiplexer.Pauses)
    (signal : Signal) : ComesTo setting signal station (station.serve setting signal) := by
  refine ⟨rfl, Multiplexer.reaches_settle _ _, ?_⟩
  cases enter_entered pauses signal with
  | serving serving _ _ tried => exact serving.settle tried room
  | leaving leaving => exact leaving.settle _
  | ended ended =>
    have same := ended.eq_of_reaches
      (Multiplexer.reaches_settle (settingOf setting (station.enter signal)) _)
    rw [serve, same]
    exact ended.isIdle _

theorem ComesTo.echo (came : ComesTo setting signal station after)
    (room : 0 < setting.capacity) (ignores : definition.IgnoresOwn)
    (pauses : station.multiplexer.Pauses) (echo : signal.isEcho = true) :
    after.client = station.client ∧
      after.multiplexer.surface = station.multiplexer.surface := by
  have enough : 0 < (after.settingOf setting).capacity := room
  cases signal with
  | heard items =>
    obtain ⟨client, reaches, idle⟩ := came
    refine ⟨client, ?_⟩
    rcases pauses with atRest | ended
    · rw [enter, atRest.quiet.serving.offerAll, atRest.quiet.inbound, List.nil_append] at reaches
      exact atRest.echoes ignores enough (List.all_eq_true.mp echo) reaches idle
    · rw [enter, ended.offerAll] at reaches
      rw [ended.eq_of_reaches reaches]
  | hooked _ => cases echo
  | answering _ => cases echo
  | closed => cases echo
  | cancelled => cases echo

structure Peers (here there : Station definition σ) : Prop where
  client : there.client = here.client
  left : here.multiplexer.Pauses
  right : there.multiplexer.Pauses
  matched : here.multiplexer.Matches there.multiplexer

namespace Peers

omit [Evaluator σ] in
theorem refl (pauses : station.multiplexer.Pauses) : Peers station station :=
  ⟨rfl, pauses, pauses, Multiplexer.surface_eq_iff.mp rfl⟩

omit [Evaluator σ] in
theorem enter (peers : Peers here there) (signal : Signal) :
    (here.enter signal).multiplexer.Matches (there.enter signal).multiplexer ∧
      (there.enter signal).client = (here.enter signal).client := by
  obtain ⟨client, _, _, matched⟩ := peers
  cases signal with
  | heard items => exact ⟨matched.offerAll items, client⟩
  | hooked data => exact ⟨matched.offerHook data, client⟩
  | answering _ => exact ⟨matched, rfl⟩
  | closed =>
    refine ⟨{ matched with inbound := ?_ }, client⟩
    exact congrArg Channel.close matched.inbound
  | cancelled => exact ⟨{ matched with isCancelled := rfl }, client⟩

/-- Wherever one may come to on a signal, the other may come to as well. -/
theorem forth (peers : Peers here there) (room : 0 < setting.capacity)
    (came : ComesTo setting signal here after) :
    ∃ later, ComesTo setting signal there later ∧ Peers after later := by
  obtain ⟨entered, client⟩ := peers.enter signal
  obtain ⟨later, reaches, matched⟩ := entered.reaches came.reaches
  have also : ComesTo setting signal there ⟨after.client, later⟩ :=
    ⟨came.client.trans client.symm, reaches, (matched.isIdle _).trans came.idle⟩
  exact ⟨_, also, rfl, came.pauses room peers.left, also.pauses room peers.right, matched⟩

omit [Evaluator σ] in
theorem symm (peers : Peers here there) : Peers there here where
  client := peers.client.symm
  left := peers.right
  right := peers.left
  matched := Multiplexer.surface_eq_iff.mp (Multiplexer.surface_eq_iff.mpr peers.matched).symm

theorem serve (peers : Peers here there) (room : 0 < setting.capacity) (signal : Signal) :
    Peers (here.serve setting signal) (there.serve setting signal) := by
  obtain ⟨entered, client⟩ := peers.enter signal
  have same : (there.enter signal).settingOf setting = (here.enter signal).settingOf setting := by
    rw [settingOf, settingOf, client]
  refine ⟨client, (comesTo_serve room peers.left signal).pauses room peers.left,
    (comesTo_serve room peers.right signal).pauses room peers.right, ?_⟩
  rw [Station.serve, Station.serve, same]
  exact entered.settle _

/-- An echo comes in on one side only. -/
theorem beside (peers : Peers here there) (room : 0 < setting.capacity)
    (ignores : definition.IgnoresOwn) (echo : signal.isEcho = true)
    (came : ComesTo setting signal here after) : Peers after there := by
  obtain ⟨client, shown⟩ := came.echo room ignores peers.left echo
  refine ⟨peers.client.trans client.symm, came.pauses room peers.left, peers.right, ?_⟩
  apply Multiplexer.surface_eq_iff.mp
  rw [shown]
  exact Multiplexer.surface_eq_iff.mpr peers.matched

theorem serveAll (peers : Peers here there) (room : 0 < setting.capacity)
    (ignores : definition.IgnoresOwn) (signals : List Signal) :
    Peers (signals.foldl (Station.serve setting) here)
      ((signals.filter fun signal => !signal.isEcho).foldl (Station.serve setting) there) := by
  induction signals generalizing here there with
  | nil => exact peers
  | cons signal rest ih =>
    cases echo : signal.isEcho with
    | true =>
      rw [List.filter_cons_of_neg (by simp [echo])]
      exact ih (peers.beside room ignores echo (comesTo_serve room peers.left signal))
    | false =>
      rw [List.filter_cons_of_pos (by simp [echo])]
      exact ih (peers.serve room signal)

end Peers

variable {history : List (Signal × Multiplexer definition σ)}

omit [Evaluator σ] in
theorem fresh_pauses (client : Client) : (fresh definition σ client).multiplexer.Pauses :=
  .inl .initial

theorem Served.pauses (served : Served setting client history station)
    (room : 0 < setting.capacity) : station.multiplexer.Pauses := by
  induction served with
  | fresh => exact fresh_pauses client
  | next _ came ih => exact came.pauses room ih

/-- For each run there is one without the echoes. -/
theorem Served.without (served : Served setting client history station)
    (room : 0 < setting.capacity) (ignores : definition.IgnoresOwn) :
    ∃ other, Served setting client (history.filter fun entry => !entry.1.isEcho) other ∧
      Peers station other := by
  induction served with
  | fresh => exact ⟨_, .fresh, .refl (fresh_pauses client)⟩
  | @next history station after signal served came ih =>
    obtain ⟨other, ran, peers⟩ := ih
    cases echo : signal.isEcho with
    | true =>
      refine ⟨other, ?_, peers.beside room ignores echo came⟩
      simp only [List.filter_cons, echo, Bool.not_true, Bool.false_eq_true, if_false]
      exact ran
    | false =>
      obtain ⟨later, also, both⟩ := peers.forth room came
      refine ⟨later, ?_, both⟩
      rw [← Multiplexer.surface_eq_iff.mpr both.matched]
      simp only [List.filter_cons, echo, Bool.not_false, if_true]
      exact .next ran also

/-- For each run there is one with echoes put in, wherever they are wanted. -/
theorem Served.within (served : Served setting client history station)
    (room : 0 < setting.capacity) (ignores : definition.IgnoresOwn) (signals : List Signal)
    (others : history.map Prod.fst = signals.filter fun signal => !signal.isEcho) :
    ∃ whole all, Served setting client whole all ∧ whole.map Prod.fst = signals ∧
      (whole.filter fun entry => !entry.1.isEcho) = history ∧ Peers all station := by
  induction signals generalizing history station with
  | nil =>
    cases List.map_eq_nil_iff.mp others
    cases served
    exact ⟨[], _, .fresh, rfl, rfl, .refl (fresh_pauses client)⟩
  | cons signal earlier ih =>
    cases echo : signal.isEcho with
    | true =>
      rw [List.filter_cons_of_neg (by simp [echo])] at others
      obtain ⟨whole, all, ran, given, same, peers⟩ := ih served others
      have also := comesTo_serve room (ran.pauses room) signal
      refine ⟨_, _, .next ran also, congrArg _ given, ?_, peers.beside room ignores echo also⟩
      simp only [List.filter_cons, echo, Bool.not_true, Bool.false_eq_true, if_false, same]
    | false =>
      rw [List.filter_cons_of_pos (by simp [echo])] at others
      cases served with
      | fresh => cases others
      | @next history before _ last served came =>
        obtain ⟨first, fewer⟩ := List.cons.inj others
        cases first
        obtain ⟨whole, all, ran, given, same, peers⟩ := ih served fewer
        obtain ⟨later, also, both⟩ := peers.symm.forth room came
        have shown := Multiplexer.surface_eq_iff.mpr both.matched
        refine ⟨_, later, .next ran also, congrArg _ given, ?_, both.symm⟩
        simp only [List.filter_cons, echo, Bool.not_false, if_true, same, shown]

theorem Served.serveAll (served : Served setting client history station)
    (room : 0 < setting.capacity) (signals : List Signal) :
    ∃ whole, Served setting client whole (signals.foldl (serve setting) station) ∧
      whole.map Prod.fst = signals.reverse ++ history.map Prod.fst := by
  induction signals generalizing history station with
  | nil => exact ⟨history, served, rfl⟩
  | cons signal rest ih =>
    have came := comesTo_serve room (served.pauses room) signal
    obtain ⟨whole, ran, all⟩ := ih (.next served came)
    refine ⟨whole, ran, ?_⟩
    rw [all, List.reverse_cons, List.append_assoc]
    rfl

/-- If no trigger asks for the status of a protocol of ours, echoes might as well not come. All that
shows of a station at rest, which is everything but two counters, is the same without them. That
holds of stations that settle after each signal. It also holds whatever happens in between: each way
in which signals may be served has a way without the echoes that shows the same after all others,
and the other way round, wherever echoes are put in. To settle is one of the ways. Nor do echoes
have to wait for rest: whatever has happened, and whatever else is going on, a move that has to do
with one makes no call, starts no conversation and changes none. -/
theorem echoes_go_unheard (ignores : definition.IgnoresOwn) (room : 0 < setting.capacity)
    (client : Client) :
    (∀ signals : List Signal,
      (serveAll setting client signals : Station definition σ).multiplexer.surface =
        (serveAll setting client
          (signals.filter fun signal => !signal.isEcho)).multiplexer.surface) ∧
    (∀ (history : List (Signal × Multiplexer definition σ)) (station : Station definition σ),
      Served setting client history station →
        ∃ other, Served setting client (history.filter fun entry => !entry.1.isEcho) other ∧
          other.multiplexer.surface = station.multiplexer.surface) ∧
    (∀ (signals : List Signal) (history : List (Signal × Multiplexer definition σ))
        (other : Station definition σ),
      Served setting client history other →
      (history.map Prod.fst = signals.filter fun signal => !signal.isEcho) →
        ∃ whole station, Served setting client whole station ∧
          whole.map Prod.fst = signals ∧
          (whole.filter fun entry => !entry.1.isEcho) = history ∧
          station.multiplexer.surface = other.multiplexer.surface) ∧
    (∀ signals : List Signal, ∃ history : List (Signal × Multiplexer definition σ),
      Served setting client history (serveAll setting client signals) ∧
        history.map Prod.fst = signals.reverse) ∧
    ∀ (occurrences : List Multiplexer.Occurrence) (before after : Multiplexer definition σ)
        (move : Multiplexer.Move) (item : Notification),
      (Multiplexer.initial definition σ).run? setting occurrences = some before →
      before.advance? setting move = some after →
      before.atHand move = some item → item.isEcho = true →
        after.ledger.surface = before.ledger.surface ∧
          after.conversations = before.conversations := by
  refine ⟨fun signals => ?_, fun history station served => ?_,
    fun signals history other served own => ?_, fun signals => ?_,
    fun occurrences before after move item ran moved about echo => ?_⟩
  · have peers := (Peers.refl (fresh_pauses client)).serveAll room ignores signals
    exact (Multiplexer.surface_eq_iff.mpr peers.matched).symm
  · obtain ⟨other, ran, peers⟩ := served.without room ignores
    exact ⟨other, ran, Multiplexer.surface_eq_iff.mpr peers.matched⟩
  · obtain ⟨whole, station, ran, all, same, peers⟩ := served.within room ignores signals own
    exact ⟨whole, station, ran, all, same, (Multiplexer.surface_eq_iff.mpr peers.matched).symm⟩
  · obtain ⟨history, ran, all⟩ := Served.fresh.serveAll room signals
    exact ⟨history, ran, by simpa using all⟩
  · have coherent : before.Coherent :=
      (Multiplexer.Orderly.initial.coherent rfl).run ran
    have collected : before.Collected := Multiplexer.Collected.initial.run ran
    exact (Multiplexer.step_of_advance? moved).silent ignores coherent collected about echo

def echoed (connection content : String) : Notification :=
  .status { Status.message connection "p" content with ours := true }

/-- Somebody comes to the door, is let into the hall, and leaves. Meanwhile, and after all is over,
messages of ours come back that name the hall. -/
def visit : List Signal :=
  [.heard [Multiplexer.heard "DOOR"], .heard [echoed "a" "HALL", echoed "b" "HALL"],
    .heard [Multiplexer.heard "HALL"], .heard [echoed "a" "DOOR"], .closed,
    .heard [echoed "a" "HALL"]]

def departure : List Multiplexer.Occurrence :=
  [.offered (Multiplexer.heard "HALL"), .moved .routeInbound, .moved .handOver,
    .moved (.work 0 .begin), .moved (.work 0 .takeNotification), .offered (echoed "a" "HALL"),
    .moved .routeInbound, .moved (.work 0 .handle)]

/-- The script of the porter would let in whoever names the hall. Where the conversation of an echo
has ended, the echo starts no other one. -/
theorem porter_unmoved :
    Definition.porter.IgnoresOwn ∧ 0 < Multiplexer.spacious.capacity ∧
      (visit.filter fun signal => !signal.isEcho).length = 3 ∧
      (serveAll Multiplexer.spacious Multiplexer.spacious.client visit :
          Station .porter Lua.State).multiplexer.ledger.attempts =
        [⟨"a", .basicMessage "a" "HALL", none⟩, ⟨"a", .basicMessage "a" "DOOR", none⟩] ∧
      (serveAll Multiplexer.spacious Multiplexer.spacious.client visit :
          Station .porter Lua.State).multiplexer.surface =
        (serveAll Multiplexer.spacious Multiplexer.spacious.client
          (visit.filter fun signal => !signal.isEcho)).multiplexer.surface ∧
      ∃ before after : Multiplexer .porter Lua.State,
        (Multiplexer.initial .porter Lua.State).run? Multiplexer.spacious departure = some before ∧
          before.advance? Multiplexer.spacious .handOver = some after ∧
          before.atHand .handOver = some (echoed "a" "HALL") ∧
          before.table.keys = ["a"] ∧ after.table.keys = [] ∧ after.held = none ∧
          after.ledger.surface = before.ledger.surface ∧
          after.conversations = before.conversations := by
  have ignores : Definition.porter.IgnoresOwn := by decide
  have room : 0 < Multiplexer.spacious.capacity := by decide
  obtain ⟨settled, _, _, _, silent⟩ := echoes_go_unheard (σ := Lua.State) ignores room
    Multiplexer.spacious.client
  have seen : (((Multiplexer.initial .porter Lua.State).run? Multiplexer.spacious departure).bind
      fun before => (before.advance? Multiplexer.spacious .handOver).map fun after =>
        (before.atHand .handOver, before.table.keys, after.table.keys, after.held)) =
      some (some (echoed "a" "HALL"), ["a"], [], none) := by decide +kernel
  obtain ⟨before, ran, rest⟩ := Option.bind_eq_some_iff.mp seen
  obtain ⟨after, moved, same⟩ := Option.map_eq_some_iff.mp rest
  simp only [Prod.mk.injEq] at same
  obtain ⟨about, stood, gone, free⟩ := same
  refine ⟨ignores, room, by decide, by decide +kernel, settled visit, before, after, ran, moved,
    about, stood, gone, free, ?_⟩
  exact silent departure before after .handOver _ ran moved about rfl

end Station
end Parley
