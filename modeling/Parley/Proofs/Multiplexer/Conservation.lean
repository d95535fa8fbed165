import Parley.Lua.Evaluator
import Parley.Proofs.Multiplexer.Account
/-!
What becomes of the items that are routed, once a multiplexer has come to rest.

One thing may still be on its way at rest: what stands in the channels of a conversation that has
ended stays there.
-/

namespace Parley

variable {definition : Definition} {σ : Type}

namespace Multiplexer

variable [Evaluator σ] {setting : Setting σ} {multiplexer : Multiplexer definition σ}
  {account : Account}

theorem pending_of_isIdle (orderly : multiplexer.Orderly) (room : 0 < setting.capacity)
    (routing : multiplexer.stage = .routing) (idle : multiplexer.isIdle setting = true) :
    multiplexer.pending = multiplexer.stranded := by
  rw [pending, held_of_isIdle orderly room routing idle]
  refine (List.flatMap_congr fun worker member => ?_ :)
  cases runs : worker.task.isLive with
  | true =>
    obtain ⟨listening, empty⟩ := (orderly.allRest_of_isIdle idle worker member).of_live runs
    rw [if_pos rfl, Task.pending, empty, Task.inHand, listening]
    rfl
  | false =>
    rw [if_neg Bool.false_ne_true, Task.pending, Task.inHand_of_gone runs, List.nil_append]

/-- An item that finds an ended conversation goes to a fresh one. -/
theorem handOver_starts_afresh {parcel : Parcel} {worker : Worker definition σ} {attempts : Nat}
    (orderly : multiplexer.Orderly) (routing : multiplexer.stage = .routing)
    (held : multiplexer.held = some parcel)
    (found : multiplexer.holder? parcel.connection = some worker)
    (gone : worker.task.isLive = false) (starts : parcel.item.startsConversation = true)
    (left : parcel.attempts = attempts + 1) :
    ∃ after fresh, multiplexer.advance? setting .handOver = some after ∧
      after.held = some { parcel with attempts } ∧
      after.holder? parcel.connection = some fresh ∧
      fresh.generation = multiplexer.nextGeneration ∧ fresh.task.isLive = true := by
  have refused := Task.deliver?_of_gone gone parcel.item
  have advanced : multiplexer.advance? setting .handOver =
      some ({ multiplexer with held := none }.handOver setting parcel) := by
    simp [advance?, held, routing, isFull, found, refused]
  have handed := handOver_handedOver setting parcel { multiplexer with held := none }
  have released : Orderly { multiplexer with held := none } :=
    orderly.of_same rfl rfl (List.Subset.refl _) rfl
  have later := released.handedOver handed
  generalize { multiplexer with held := none }.handOver setting parcel = after
    at advanced handed later
  cases handed with
  | nowhere absent => cases found.symm.trans absent
  | delivered here given =>
    have same : worker = _ := Option.some.inj (found.symm.trans here)
    rw [← same, refused] at given
    cases given
  | refused _ _ picked =>
    rw [left] at picked
    cases picked with
    | dismissed _ silent => rw [starts] at silent; cases silent
    | found entry => simp at entry
    | started _ _ =>
      -- The refusal has cleared the place in the table that the fresh conversation gets.
      have entry : TextMap.get? (multiplexer.table.erase parcel.connection |>.insert
          parcel.connection multiplexer.nextGeneration) parcel.connection =
          some multiplexer.nextGeneration := by
        simp
      obtain ⟨fresh, holds, same, _⟩ := later.holder? entry
      refine ⟨_, fresh, advanced, rfl, holds, same, ?_⟩
      have one := later.eq_of_generation (holder?_some holds).1
        (List.mem_append_right _ List.mem_cons_self) same
      rw [one]
      rfl

/-- What becomes of the items that are routed. Left alone, a multiplexer comes to rest, and then
every item has been handled once by a conversation of its connection, or counted once, or it stands
in the channel of a conversation that ended before it. That there are none of the last sort is all
that it takes for the account to be complete. An item that meets an ended conversation on its way is
not one of them: it goes to a fresh one. -/
theorem routed_items_accounted {occurrences : List Occurrence} (room : 0 < setting.capacity)
    (ran : audit? setting occurrences .empty (initial definition σ) = some (account, multiplexer))
    (routing : multiplexer.stage = .routing) (uncancelled : multiplexer.isCancelled = false)
    (isOpen : multiplexer.inbound.isOpen = true) :
    (∀ (moves : List Move) (after : Multiplexer definition σ),
      multiplexer.run? setting (moves.map .moved) = some after →
        moves.length ≤ multiplexer.effort) ∧
      (∃ (moves : List Move) (later : Account) (after : Multiplexer definition σ),
        audit? setting (moves.map .moved) account multiplexer = some (later, after) ∧
          after.stage = .routing ∧ after.isIdle setting = true) ∧
      (∀ entry ∈ account.handled, ∃ connection,
        entry.2.connection? = some connection ∧ multiplexer.Speaks entry.1 connection) ∧
      (∀ move after, multiplexer.advance? setting move = some after →
        (account.moved multiplexer after move).dismissed = account.dismissed ∨
          ∃ item connection,
            (account.moved multiplexer after move).dismissed = account.dismissed ++ [item] ∧
              item.connection? = some connection ∧ item.startsConversation = false ∧
              multiplexer.IsAlone connection) ∧
      (multiplexer.isIdle setting = true →
        (∀ item, account.routed.count item =
          (account.handled.map Prod.snd).count item + account.dismissed.count item +
            account.failed.count item + multiplexer.stranded.count item) ∧
          (account.Complete ↔ multiplexer.stranded = [])) ∧
      ∀ (parcel : Parcel) (worker : Worker definition σ) (attempts : Nat),
        multiplexer.held = some parcel →
        multiplexer.holder? parcel.connection = some worker →
        worker.task.isLive = false → parcel.item.startsConversation = true →
        parcel.attempts = attempts + 1 →
          ∃ after fresh, multiplexer.advance? setting .handOver = some after ∧
            after.held = some { parcel with attempts } ∧
            after.holder? parcel.connection = some fresh ∧
            fresh.generation = multiplexer.nextGeneration ∧ fresh.task.isLive = true := by
  have orderly : multiplexer.Orderly := Orderly.initial.run (run?_of_audit? ran) routing
  have sound : account.Sound multiplexer [] :=
    sound_of_audit? Orderly.initial sound_initial ran routing
  have serving : multiplexer.Serving := ⟨orderly, routing, uncancelled, isOpen⟩
  refine ⟨?_, ?_, sound.handled, ?_, ?_, ?_⟩
  · intro moves after made
    exact Nat.le_of_add_right_le (serving.run made).2
  · obtain ⟨moves, after, made, idle⟩ := serving.exists_idle setting
    obtain ⟨later, audited⟩ := exists_audit? account made
    exact ⟨moves, later, after, audited, (serving.run made).1.routing, idle⟩
  · intro move after advanced
    exact dismissed_of_step orderly sound (step_of_advance? advanced)
  · intro idle
    have balance : ∀ item, account.routed.count item =
        (account.handled.map Prod.snd).count item + account.dismissed.count item +
          account.failed.count item + multiplexer.stranded.count item := by
      intro item
      rw [sound.total item, pending_of_isIdle orderly room routing idle, List.count_nil,
        Nat.add_zero]
    refine ⟨balance, fun complete => ?_, fun none item => ?_⟩
    · rw [List.eq_nil_iff_forall_not_mem]
      intro item member
      have some := List.count_pos_iff.mpr member
      have whole := complete item
      have parts := balance item
      omega
    · rw [balance item, none, List.count_nil, Nat.add_zero]
  · intro parcel worker attempts held found gone starts left
    exact handOver_starts_afresh orderly routing held found gone starts left

end Multiplexer

/-- It says hello, repeats what it hears, and leaves on `bye`. -/
def Draft.echo : Draft where
  name := ""
  kind := .conversation
  keepMemory := false
  initial :=
    { trigger := none
      sends := [⟨"basic_message", none, none, some "Hello!", none, false⟩]
      target := "IDLE" }
  states :=
    [("IDLE",
      { transitions :=
          [{ trigger := some ⟨"basic_message", none, some "INPUT_EQUAL", some "bye", none, false⟩
             sends := [⟨"basic_message", none, none, some "Bye!", none, false⟩]
             target := "DONE" },
            { trigger := some ⟨"hook", none, some "INPUT", none, none, false⟩
              sends := [⟨"basic_message", none, none, some "hooked", none, false⟩]
              target := "IDLE" },
            { trigger := some ⟨"basic_message", none, some "INPUT_SAVE", some "LINE", none, false⟩
              sends :=
                [⟨"basic_message", none, some "FORMAT_MEM", some "echo \x7b\x7b.LINE\x7d\x7d", none,
                  false⟩]
              target := "IDLE" }]
        terminate := false }),
      ("DONE", { transitions := [], terminate := true })]

def Definition.echo : Definition where
  name := ""
  kind := .conversation
  keepMemory := false
  initial := { sends := [⟨.basicMessage, .data, none, "Hello!", none, true⟩], target := "IDLE" }
  states :=
    [⟨"IDLE",
      [⟨⟨.basicMessage, .inputEqual, none, "bye", none, true⟩,
          [⟨.basicMessage, .data, none, "Bye!", none, true⟩], "DONE"⟩,
        ⟨⟨.hook, .input, none, "", none, true⟩,
          [⟨.basicMessage, .data, none, "hooked", none, true⟩], "IDLE"⟩,
        ⟨⟨.basicMessage, .inputSave, none, "LINE", none, true⟩,
          [⟨.basicMessage, .formatMem, none, "echo \x7b\x7b.LINE\x7d\x7d", none, true⟩], "IDLE"⟩],
        false⟩,
      ⟨"DONE", [], true⟩]
  initialIndex := ⟨0, by decide⟩
  checksum := Draft.echo.checksum

namespace Multiplexer

def heard (content : String) : Notification := .status (.message "a" "p" content)

def afterwards : List Occurrence :=
  [.offered (heard "bye"), .moved .routeInbound, .moved .handOver, .moved (.work 0 .begin),
    .moved (.work 0 .takeNotification), .moved (.work 0 .handle), .moved (.work 0 .report),
    .offered (heard "again"), .moved .routeInbound, .moved .handOver, .moved .handOver,
    .moved (.work 1 .begin), .moved (.work 1 .takeNotification), .moved (.work 1 .handle),
    .moved .evict]

def inAdvance : List Occurrence :=
  [.offered (heard "bye"), .offered (heard "again"), .moved .routeInbound, .moved .handOver,
    .moved .routeInbound, .moved .handOver, .moved (.work 0 .begin),
    .moved (.work 0 .takeNotification), .moved (.work 0 .handle), .moved (.work 0 .report),
    .moved .evict]

/-- Where the second message comes too late for the first conversation, a fresh one handles it. -/
theorem afterwards_accounted :
    ∃ account multiplexer,
      audit? spacious afterwards .empty (initial .echo Lua.State) = some (account, multiplexer) ∧
        multiplexer.isIdle spacious = true ∧ account.routed = [heard "bye", heard "again"] ∧
        account.handled = [(0, heard "bye"), (1, heard "again")] ∧
        multiplexer.stranded = [] ∧ account.Complete := by
  have seen : ((audit? spacious afterwards .empty (initial .echo Lua.State)).any
      fun (account, multiplexer) =>
        multiplexer.stage = .routing && !multiplexer.isCancelled && multiplexer.inbound.isOpen &&
          multiplexer.isIdle spacious && account.routed = [heard "bye", heard "again"] &&
          account.handled = [(0, heard "bye"), (1, heard "again")] &&
          multiplexer.stranded = []) = true := by
    decide +kernel
  obtain ⟨⟨account, multiplexer⟩, ran, same⟩ := (Option.any_eq_true _ _).mp seen
  simp only [Bool.and_eq_true, decide_eq_true_eq, Bool.not_eq_true'] at same
  obtain ⟨⟨⟨⟨⟨⟨routing, uncancelled⟩, isOpen⟩, idle⟩, routed⟩, handled⟩, none⟩ := same
  have room : 0 < spacious.capacity := by decide
  obtain ⟨_, _, _, _, rest, _⟩ := routed_items_accounted room ran routing uncancelled isOpen
  exact ⟨account, multiplexer, ran, idle, routed, handled, none, (rest idle).2.mpr none⟩

/-- Where it comes before the first conversation has ended, nobody handles it and nobody counts
it. -/
theorem inAdvance_loses :
    Draft.echo.check = .ok .echo ∧
      ∃ account multiplexer,
        audit? spacious inAdvance .empty (initial .echo Lua.State) =
            some (account, multiplexer) ∧
          multiplexer.stage = .routing ∧ multiplexer.isCancelled = false ∧
          multiplexer.inbound.isOpen = true ∧ multiplexer.isIdle spacious = true ∧
          account.routed = [heard "bye", heard "again"] ∧
          account.handled = [(0, heard "bye")] ∧ account.dismissed = [] ∧ account.failed = [] ∧
          ¬account.Complete := by
  refine ⟨rfl, ?_⟩
  have seen : ((audit? spacious inAdvance .empty (initial .echo Lua.State)).any
      fun (account, multiplexer) =>
        multiplexer.stage = .routing && !multiplexer.isCancelled && multiplexer.inbound.isOpen &&
          multiplexer.isIdle spacious && account.routed = [heard "bye", heard "again"] &&
          account.handled = [(0, heard "bye")] && account.dismissed = [] &&
          account.failed = []) = true := by
    decide +kernel
  obtain ⟨⟨account, multiplexer⟩, ran, same⟩ := (Option.any_eq_true _ _).mp seen
  simp only [Bool.and_eq_true, decide_eq_true_eq, Bool.not_eq_true'] at same
  obtain ⟨⟨⟨⟨⟨⟨⟨routing, uncancelled⟩, isOpen⟩, idle⟩, routed⟩, handled⟩, dismissed⟩, failed⟩ :=
    same
  refine ⟨account, multiplexer, ran, routing, uncancelled, isOpen, idle, routed, handled, dismissed,
    failed, fun complete => ?_⟩
  have lost := complete (heard "again")
  rw [routed, handled, dismissed, failed] at lost
  revert lost
  decide

end Multiplexer
end Parley
