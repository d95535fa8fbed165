import Parley.Proofs.Multiplexer.Conservation
import Parley.Proofs.Multiplexer.Lockstep
/-!
Connections do not interfere.

A service gets one input after the other and comes to rest after each. What somebody on one
connection can see of it is the same as if all inputs for other connections had never come: the
calls made for that connection, its conversations with their states and memories, and whether it
has one that runs.

Two services are compared, one that gets all inputs and one that gets those of the connection only.
At rest they are companions. An input of the connection makes each of them busy, and they go on in
step; any other input leaves the connection alone.
-/

namespace Parley

variable {definition : Definition} {σ : Type}

inductive Input where
  | notified (item : Notification)
  /-- A hook comes in beside the stream. -/
  | hooked (data : HookData)
  /-- From now on the client refuses calls in that way. -/
  | refusing (refuses : Call → Option ClientError)

def Input.concerns (connection : String) : Input → Bool
  | .notified item => item.concerns connection
  | .hooked data => data.connection = connection
  | .refusing _ => true

/-- A multiplexer with a client that decides by the call alone. -/
structure Service (definition : Definition) (σ : Type) where
  refuses : Call → Option ClientError
  multiplexer : Multiplexer definition σ

structure View (definition : Definition) (σ : Type) where
  /-- The calls of its conversations and how they went, the last one first. -/
  calls : List Attempt
  /-- With their states and memories, the first one first. -/
  conversations : List (Task definition σ)
  isLive : Bool

def Multiplexer.isLive (multiplexer : Multiplexer definition σ) (connection : String) : Bool :=
  match multiplexer.live with
  | .ok connections => connections.contains connection
  | .error _ => false

namespace Service

def fresh (definition : Definition) (σ : Type) : Service definition σ where
  refuses _ := none
  multiplexer := .initial definition σ

def view (connection : String) (service : Service definition σ) : View definition σ where
  calls := service.multiplexer.ownAttempts connection
  conversations := (service.multiplexer.own connection).map Worker.task
  isLive := service.multiplexer.isLive connection

def settingOf (setting : Setting σ) (service : Service definition σ) : Setting σ :=
  { setting with client := .deciding service.refuses }

def enter (service : Service definition σ) : Input → Service definition σ
  | .notified item =>
    match service.multiplexer.offer? item with
    | some multiplexer => { service with multiplexer }
    | none => service
  | .hooked data =>
    match service.multiplexer.offerHook data with
    | .ok multiplexer => { service with multiplexer }
    | .error _ => service
  | .refusing refuses => { service with refuses }

variable [Evaluator σ]

def serve (setting : Setting σ) (service : Service definition σ) (input : Input) :
    Service definition σ :=
  let entered := service.enter input
  { entered with multiplexer := entered.multiplexer.settle (entered.settingOf setting) }

def serveAll (setting : Setting σ) (inputs : List Input) : Service definition σ :=
  inputs.foldl (serve setting) (fresh definition σ)

/-- To come from one rest to the next on an input. In between anything may happen, in any order,
until nothing can happen any more. -/
structure ComesTo (setting : Setting σ) (input : Input) (before after : Service definition σ) :
    Prop where
  refuses : after.refuses = (before.enter input).refuses
  reaches : (before.enter input).multiplexer.Reaches (after.settingOf setting) after.multiplexer
  idle : after.multiplexer.isIdle (after.settingOf setting) = true

/-- A service and what it got, with what could be seen of a connection after each input, the last
one first. -/
inductive Served (setting : Setting σ) (connection : String) :
    List (Input × View definition σ) → Service definition σ → Prop where
  | fresh : Served setting connection [] (fresh definition σ)
  | next {history : List (Input × View definition σ)} {service after : Service definition σ}
      {input : Input} : Served setting connection history service →
      ComesTo setting input service after →
        Served setting connection ((input, after.view connection) :: history) after

end Service

namespace Multiplexer

variable {setting : Setting σ} {multiplexer after here there : Multiplexer definition σ}
  {connection : String}

theorem Serving.offer? (serving : multiplexer.Serving) (item : Notification) :
    multiplexer.offer? item =
      some { multiplexer with inbound := multiplexer.inbound.push item } := by
  simp [Multiplexer.offer?, hasStopped, serving.isOpen, serving.routing]

theorem Serving.offerHook (serving : multiplexer.Serving) (data : HookData) :
    multiplexer.offerHook data =
      .ok { multiplexer with control := multiplexer.control ++ [data] } := by
  simp [Multiplexer.offerHook, hasStopped, serving.routing]

theorem Serving.isLive (serving : multiplexer.Serving) (connection : String) :
    multiplexer.isLive connection = multiplexer.table.contains connection := by
  have listed : multiplexer.live = .ok multiplexer.table.keys := by
    simp [live, hasStopped, serving.routing]
  rw [Multiplexer.isLive, listed, Bool.eq_iff_iff, List.contains_iff_mem]
  exact TextMap.mem_keys

structure Quiet (multiplexer : Multiplexer definition σ) : Prop where
  serving : multiplexer.Serving
  rests : multiplexer.AllRest
  inbound : multiplexer.inbound.items = []
  control : multiplexer.control = []
  held : multiplexer.held = none
  completions : multiplexer.completions = []

theorem Quiet.initial : (initial definition σ).Quiet where
  serving := ⟨.initial, rfl, rfl, rfl⟩
  rests := by simp [AllRest, Multiplexer.initial]
  inbound := rfl
  control := rfl
  held := rfl
  completions := rfl

theorem Quiet.busy (quiet : multiplexer.Quiet) (connection : String) :
    multiplexer.Busy connection where
  serving := quiet.serving
  devoted :=
    { inbound := by simp [quiet.inbound]
      control := by simp [quiet.control]
      held := by simp [quiet.held]
      news := by simp [quiet.completions]
      others := fun worker member _ => quiet.rests worker member }

theorem Mirrors.beside {names : Nat → Nat} (mirrors : Mirrors connection names here there)
    (left : after.Quiet) (right : there.Quiet) (same : SameFor connection here after) :
    Mirrors connection names after there where
  inbound := right.inbound.trans left.inbound.symm
  control := right.control.trans left.control.symm
  held := right.held.trans left.held.symm
  news := by rw [right.completions, left.completions, List.map_nil]
  own := by rw [mirrors.own, same.own]
  entry := by rw [mirrors.entry, same.entry]
  attempts := mirrors.attempts.trans same.attempts.symm

theorem Serving.quiet [Evaluator σ] (serving : multiplexer.Serving) (room : 0 < setting.capacity)
    (idle : multiplexer.isIdle setting = true) : multiplexer.Quiet := by
  obtain ⟨nothing, held⟩ := serving.backlog_of_isIdle room idle
  have lists : multiplexer.inbound.items.length = 0 ∧ multiplexer.control.length = 0 ∧
      multiplexer.completions.length = 0 := by
    simp only [backlog, routable, attemptLimit] at nothing
    omega
  simp only [List.length_eq_zero_iff] at lists
  exact ⟨serving, serving.orderly.allRest_of_isIdle idle, lists.1, lists.2.1, held, lists.2.2⟩

end Multiplexer

namespace Service

variable {setting : Setting σ} {service after here there : Service definition σ}
  {connection : String} {input : Input}

structure Entered (input : Input) (before after : Service definition σ) : Prop where
  serving : after.multiplexer.Serving
  devoted : ∀ connection, input.concerns connection = true → after.multiplexer.Devoted connection
  tried : after.multiplexer.Tried
  same : ∀ connection, before.multiplexer.SameFor connection after.multiplexer

theorem enter_entered (quiet : service.multiplexer.Quiet) (input : Input) :
    Entered input service (service.enter input) := by
  have tried : service.multiplexer.Tried := by simp [Multiplexer.Tried, quiet.held]
  obtain ⟨orderly, routing, uncancelled, isOpen⟩ := quiet.serving
  cases input with
  | notified item =>
    simp only [enter, quiet.serving.offer?]
    refine ⟨?_, fun connection concerned => ?_, tried, fun _ => ⟨rfl, rfl, rfl⟩⟩
    · exact ⟨orderly.of_same rfl rfl (List.Subset.refl _) rfl, routing, uncancelled, isOpen⟩
    · refine { (quiet.busy connection).devoted with inbound := fun other member => ?_ }
      simp only [Channel.push, quiet.inbound, List.nil_append, List.mem_singleton] at member
      exact member ▸ concerned
  | hooked data =>
    simp only [enter, quiet.serving.offerHook]
    refine ⟨?_, fun connection concerned => ?_, tried, fun _ => ⟨rfl, rfl, rfl⟩⟩
    · exact ⟨orderly.of_same rfl rfl (List.Subset.refl _) rfl, routing, uncancelled, isOpen⟩
    · refine { (quiet.busy connection).devoted with control := fun other member => ?_ }
      simp only [quiet.control, List.nil_append, List.mem_singleton] at member
      exact member ▸ of_decide_eq_true concerned
  | refusing refuses =>
    exact ⟨quiet.serving, fun connection _ => (quiet.busy connection).devoted, tried,
      fun _ => ⟨rfl, rfl, rfl⟩⟩

theorem Entered.busy (entered : Entered input here there)
    (concerned : input.concerns connection = true) : there.multiplexer.Busy connection :=
  ⟨entered.serving, entered.devoted connection concerned⟩

/-- What does not concern a connection concerns another one, and leaves the client as it is. -/
theorem exists_other (service : Service definition σ)
    (foreign : input.concerns connection = false) :
    (∃ other, other ≠ connection ∧ input.concerns other = true) ∧
      (service.enter input).refuses = service.refuses := by
  cases input with
  | notified item =>
    refine ⟨?_, ?_⟩
    · simp only [Input.concerns, Notification.concerns, Option.all_eq_false] at foreign
      obtain ⟨other, addressed, apart⟩ := foreign
      refine ⟨other, of_decide_eq_false apart, ?_⟩
      simp [Input.concerns, Notification.concerns, addressed]
    · simp only [enter]
      split <;> rfl
  | hooked data =>
    refine ⟨⟨data.connection, of_decide_eq_false foreign, decide_eq_true rfl⟩, ?_⟩
    simp only [enter]
    split <;> rfl
  | refusing refuses => cases foreign

structure Companions (connection : String) (here there : Service definition σ) : Prop where
  refuses : there.refuses = here.refuses
  left : here.multiplexer.Quiet
  right : there.multiplexer.Quiet
  mirrored : here.multiplexer.Mirrored connection there.multiplexer

namespace Companions

theorem fresh (connection : String) :
    Companions connection (.fresh definition σ) (.fresh definition σ) where
  refuses := rfl
  left := .initial
  right := .initial
  mirrored := ⟨id, rfl, rfl, rfl, rfl, rfl, rfl, rfl⟩

theorem view (companions : Companions connection here there) :
    there.view connection = here.view connection := by
  obtain ⟨_, left, right, names, mirrors⟩ := companions
  have conversations : (there.multiplexer.own connection).map Worker.task =
      (here.multiplexer.own connection).map Worker.task := by
    rw [mirrors.own, List.map_map]
    rfl
  have isLive : there.multiplexer.isLive connection = here.multiplexer.isLive connection := by
    rw [right.serving.isLive, left.serving.isLive, mirrors.contains]
  rw [Service.view, Service.view, mirrors.attempts, conversations, isLive]

theorem enter (companions : Companions connection here there)
    (concerned : input.concerns connection = true) :
    (here.enter input).multiplexer.Paired connection (there.enter input).multiplexer ∧
      (there.enter input).refuses = (here.enter input).refuses := by
  obtain ⟨refuses, left, right, names, mirrors⟩ := companions
  have first := (enter_entered left input).busy concerned
  have second := (enter_entered right input).busy concerned
  revert first second
  cases input with
  | notified item =>
    simp only [Service.enter, left.serving.offer?, right.serving.offer?]
    intro first second
    refine ⟨⟨names, first, second, ?_⟩, refuses⟩
    exact { mirrors with inbound := by simp [Channel.push, mirrors.inbound] }
  | hooked data =>
    simp only [Service.enter, left.serving.offerHook, right.serving.offerHook]
    intro first second
    refine ⟨⟨names, first, second, ?_⟩, refuses⟩
    exact { mirrors with control := by simp [mirrors.control] }
  | refusing refuses => exact fun first second => ⟨⟨names, first, second, mirrors⟩, rfl⟩

end Companions

variable [Evaluator σ]

theorem ComesTo.quiet (came : ComesTo setting input service after) (room : 0 < setting.capacity)
    (quiet : service.multiplexer.Quiet) : after.multiplexer.Quiet :=
  have enough : 0 < (after.settingOf setting).capacity := room
  (came.reaches.serving (enter_entered quiet input).serving).quiet enough came.idle

theorem comesTo_serve (room : 0 < setting.capacity) (quiet : service.multiplexer.Quiet)
    (input : Input) : ComesTo setting input service (service.serve setting input) := by
  obtain ⟨serving, _, tried, _⟩ := enter_entered quiet input
  exact ⟨rfl, Multiplexer.reaches_settle _ _, serving.settle tried room⟩

theorem Served.quiet {history : List (Input × View definition σ)}
    (served : Served setting connection history service) (room : 0 < setting.capacity) :
    service.multiplexer.Quiet := by
  induction served with
  | fresh => exact .initial
  | next _ came ih => exact came.quiet room ih

namespace Companions

theorem beside (companions : Companions connection here there) (room : 0 < setting.capacity)
    (foreign : input.concerns connection = false) (came : ComesTo setting input here after) :
    Companions connection after there := by
  obtain ⟨refuses, left, right, names, mirrors⟩ := companions
  obtain ⟨⟨other, apart, concerned⟩, unchanged⟩ := exists_other here foreign
  have entered := enter_entered left input
  have busy := entered.busy concerned
  have kept := busy.devoted.reaches busy.serving rfl came.reaches
  have same := (entered.same connection).trans (kept.others connection apart.symm)
  have quiet := came.quiet room left
  exact ⟨refuses.trans (came.refuses.trans unchanged).symm, quiet, right, names,
    mirrors.beside quiet right same⟩

/-- Wherever one may come to on an input, the other may come to as well. -/
theorem forth (companions : Companions connection here there) (room : 0 < setting.capacity)
    (concerned : input.concerns connection = true) (came : ComesTo setting input here after) :
    ∃ later, ComesTo setting input there later ∧ Companions connection after later := by
  obtain ⟨paired, refuses⟩ := companions.enter concerned
  obtain ⟨later, reaches, names, twins⟩ := paired.forth rfl came.reaches
  have also : ComesTo setting input there ⟨after.refuses, later⟩ :=
    ⟨came.refuses.trans refuses.symm, reaches, (twins.isIdle rfl).trans came.idle⟩
  exact ⟨_, also, rfl, came.quiet room companions.left, also.quiet room companions.right, names,
    twins.mirrors⟩

theorem back (companions : Companions connection here there) (room : 0 < setting.capacity)
    (concerned : input.concerns connection = true) (came : ComesTo setting input there after) :
    ∃ later, ComesTo setting input here later ∧ Companions connection later after := by
  obtain ⟨paired, refuses⟩ := companions.enter concerned
  obtain ⟨later, reaches, names, twins⟩ := paired.back rfl came.reaches
  have also : ComesTo setting input here ⟨after.refuses, later⟩ :=
    ⟨came.refuses.trans refuses, reaches, (twins.isIdle rfl).symm.trans came.idle⟩
  exact ⟨_, also, rfl, also.quiet room companions.left, came.quiet room companions.right, names,
    twins.mirrors⟩

theorem serve (companions : Companions connection here there) (room : 0 < setting.capacity)
    (concerned : input.concerns connection = true) :
    Companions connection (here.serve setting input) (there.serve setting input) := by
  obtain ⟨paired, refuses⟩ := companions.enter concerned
  have same : (there.enter input).settingOf setting = (here.enter input).settingOf setting := by
    rw [settingOf, settingOf, refuses]
  have settled : (here.serve setting input).multiplexer.Paired connection
      (there.serve setting input).multiplexer := by
    rw [Service.serve, Service.serve, same]
    exact paired.settle rfl
  obtain ⟨names, twins⟩ := settled
  exact ⟨refuses, (comesTo_serve room companions.left input).quiet room companions.left,
    (comesTo_serve room companions.right input).quiet room companions.right, names, twins.mirrors⟩

theorem serveAll (companions : Companions connection here there) (room : 0 < setting.capacity)
    (inputs : List Input) :
    Companions connection (inputs.foldl (Service.serve setting) here)
      ((inputs.filter (Input.concerns connection)).foldl (Service.serve setting) there) := by
  induction inputs generalizing here there with
  | nil => exact companions
  | cons input rest ih =>
    cases concerned : input.concerns connection with
    | true =>
      rw [List.filter_cons_of_pos concerned]
      exact ih (companions.serve room concerned)
    | false =>
      rw [List.filter_cons_of_neg (by simp [concerned])]
      exact ih (companions.beside room concerned (comesTo_serve room companions.left input))

end Companions

variable {history : List (Input × View definition σ)}

/-- For each run with all inputs there is one with those of the connection only. -/
theorem Served.alone (served : Served setting connection history service)
    (room : 0 < setting.capacity) :
    ∃ alone, Served setting connection (history.filter fun entry => entry.1.concerns connection)
        alone ∧ Companions connection service alone := by
  induction served with
  | fresh => exact ⟨_, .fresh, .fresh connection⟩
  | @next history service after input served came ih =>
    obtain ⟨alone, ran, companions⟩ := ih
    cases concerned : input.concerns connection with
    | true =>
      obtain ⟨later, also, kept⟩ := companions.forth room concerned came
      refine ⟨later, ?_, kept⟩
      rw [← kept.view]
      simp only [List.filter_cons, concerned, if_true]
      exact .next ran also
    | false =>
      refine ⟨alone, ?_, companions.beside room concerned came⟩
      simp only [List.filter_cons, concerned, Bool.false_eq_true, if_false]
      exact ran

/-- For each run with the inputs of the connection only there is one with all of them. -/
theorem Served.among (served : Served setting connection history service)
    (room : 0 < setting.capacity) (inputs : List Input)
    (own : history.map Prod.fst = inputs.filter (Input.concerns connection)) :
    ∃ whole all, Served setting connection whole all ∧ whole.map Prod.fst = inputs ∧
      (whole.filter fun entry => entry.1.concerns connection) = history ∧
        Companions connection all service := by
  induction inputs generalizing history service with
  | nil =>
    cases List.map_eq_nil_iff.mp own
    cases served
    exact ⟨[], _, .fresh, rfl, rfl, .fresh connection⟩
  | cons input earlier ih =>
    cases concerned : input.concerns connection with
    | true =>
      rw [List.filter_cons_of_pos concerned] at own
      cases served with
      | fresh => cases own
      | @next history before _ last served came =>
        obtain ⟨first, others⟩ := List.cons.inj own
        cases first
        obtain ⟨whole, all, ran, inputs, same, companions⟩ := ih served others
        obtain ⟨later, also, kept⟩ := companions.back room concerned came
        refine ⟨_, later, .next ran also, congrArg _ inputs, ?_, kept⟩
        simp only [List.filter_cons, concerned, if_true, same, kept.view]
    | false =>
      rw [List.filter_cons_of_neg (by simp [concerned])] at own
      obtain ⟨whole, all, ran, inputs, same, companions⟩ := ih served own
      have also := comesTo_serve room (ran.quiet room) input
      refine ⟨_, _, .next ran also, congrArg _ inputs, ?_, companions.beside room concerned also⟩
      simp only [List.filter_cons, concerned, Bool.false_eq_true, if_false, same]

theorem Served.serveAll (served : Served setting connection history service)
    (room : 0 < setting.capacity) (inputs : List Input) :
    ∃ whole, Served setting connection whole (inputs.foldl (serve setting) service) ∧
      whole.map Prod.fst = inputs.reverse ++ history.map Prod.fst := by
  induction inputs generalizing history service with
  | nil => exact ⟨history, served, rfl⟩
  | cons input rest ih =>
    have came := comesTo_serve room (served.quiet room) input
    obtain ⟨whole, ran, all⟩ := ih (.next served came)
    refine ⟨whole, ran, ?_⟩
    rw [all, List.reverse_cons, List.append_assoc]
    rfl

/-- What can be seen of a connection is the same as if nothing had come for any other. That holds
of services that settle after each input. It also holds whatever happens in between: each way in
which all inputs may be served shows of the connection what some way with its own inputs shows, and
each way with its own inputs is found again among those with all. To settle is one of the ways. -/
theorem connections_do_not_interfere (room : 0 < setting.capacity) (connection : String) :
    (∀ inputs : List Input,
      (serveAll setting inputs : Service definition σ).view connection =
        (serveAll setting (inputs.filter (Input.concerns connection))).view connection) ∧
    (∀ (history : List (Input × View definition σ)) (service : Service definition σ),
      Served setting connection history service →
        ∃ alone, Served setting connection
            (history.filter fun entry => entry.1.concerns connection) alone ∧
          alone.view connection = service.view connection) ∧
    (∀ (inputs : List Input) (history : List (Input × View definition σ))
        (alone : Service definition σ),
      Served setting connection history alone →
      history.map Prod.fst = inputs.filter (Input.concerns connection) →
        ∃ whole service, Served setting connection whole service ∧
          whole.map Prod.fst = inputs ∧
          (whole.filter fun entry => entry.1.concerns connection) = history ∧
          service.view connection = alone.view connection) ∧
    ∀ inputs : List Input, ∃ history : List (Input × View definition σ),
      Served setting connection history (serveAll setting inputs) ∧
        history.map Prod.fst = inputs.reverse := by
  refine ⟨fun inputs => ?_, fun history service served => ?_,
    fun inputs history alone served own => ?_, fun inputs => ?_⟩
  · exact ((Companions.fresh connection).serveAll room inputs).view.symm
  · obtain ⟨alone, ran, companions⟩ := served.alone room
    exact ⟨alone, ran, companions.view⟩
  · obtain ⟨whole, service, ran, all, same, companions⟩ := served.among room inputs own
    exact ⟨whole, service, ran, all, same, companions.view.symm⟩
  · obtain ⟨history, ran, all⟩ := Served.fresh.serveAll room inputs
    exact ⟨history, ran, by simpa using all⟩

/-- Two connections at a time, with a client that begins to refuse one message on the way. -/
def mixed : List Input :=
  [.notified (Multiplexer.heard "hello"), .notified (.status (.message "b" "q" "bye")),
    .refusing fun call =>
      if call = .basicMessage "a" "echo again" then some (.transport "down") else none,
    .hooked ⟨"b", .empty⟩, .notified (Multiplexer.heard "again"), .notified .keepAlive,
    .notified (.status (.message "b" "q" "bye"))]

/-- The other connection has two conversations meanwhile, and nothing of that is seen. -/
theorem mixed_separated :
    0 < Multiplexer.spacious.capacity ∧ (mixed.filter (Input.concerns "a")).length = 4 ∧
      (serveAll Multiplexer.spacious mixed : Service .echo Lua.State).multiplexer.workers.length =
        3 ∧
      ((serveAll Multiplexer.spacious mixed : Service .echo Lua.State).view "a").calls =
        [⟨"a", .basicMessage "a" "echo again", some (.transport "down")⟩,
          ⟨"a", .basicMessage "a" "echo hello", none⟩, ⟨"a", .basicMessage "a" "Hello!", none⟩] ∧
      (serveAll Multiplexer.spacious mixed : Service .echo Lua.State).view "a" =
        (serveAll Multiplexer.spacious (mixed.filter (Input.concerns "a"))).view "a" := by
  have room : 0 < Multiplexer.spacious.capacity := by decide
  refine ⟨room, by decide, by decide +kernel, by decide +kernel, ?_⟩
  exact (connections_do_not_interfere room "a").1 mixed

end Service
end Parley
