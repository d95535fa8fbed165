import Parley.Proofs.Conversation.Course
/-!
How a conversation comes to its end when it is told to stop.

Once nothing comes in any more, it takes what is queued for it from the front of each channel. The
news that no more notifications come is ready when all of them have been taken, whatever the hooks
are, and the news that it is cancelled is one thing among others that are ready. So it may leave any
number of hooks behind when it is closed, and once it is cancelled it may still take any number of
items first.
-/

namespace Parley

variable {definition : Definition} {σ : Type}

namespace Task

def noticed (task : Task definition σ) : Move → List Notification
  | .takeNotification => task.notifications.items.head?.toList
  | _ => []

def hooked (task : Task definition σ) : Move → List HookData
  | .takeHook => task.hooks.items.head?.toList
  | _ => []

def isDrained (task : Task definition σ) : Bool :=
  task.notifications.items.isEmpty && !task.notifications.isOpen

variable [Evaluator σ]

/-- Moves one after the other while nothing comes in, with the notifications and the hooks that are
taken. Others may write to the ledger in between. -/
inductive Winding (client : Client) (isCancelled : Bool) :
    Task definition σ → List Notification → List HookData → Task definition σ → Prop where
  | still {task : Task definition σ} : Winding client isCancelled task [] [] task
  | move {task after : Task definition σ} {result : Task definition σ × Ledger}
      {told : List Notification} {called : List HookData} (move : Move) (ledger : Ledger) :
      task.advance? client isCancelled move ledger = some result →
        Winding client isCancelled result.1 told called after →
          Winding client isCancelled task (task.noticed move ++ told) (task.hooked move ++ called)
            after

variable {isCancelled : Bool} {client : Client} {ledger : Ledger} {move : Move}
  {task after : Task definition σ} {result : Task definition σ × Ledger}

theorem Step.channels (step : Step client isCancelled task ledger move result) :
    task.noticed move ++ result.1.notifications.items = task.notifications.items ∧
      task.hooked move ++ result.1.hooks.items = task.hooks.items := by
  cases step with
  | takeNotification _ items | takeHook _ items => simp [noticed, hooked, items]
  | _ => exact ⟨rfl, rfl⟩

/-- A task that was not cancelled has ended with its machine, or after all notifications. -/
def EndedWell (task : Task definition σ) : Prop :=
  task.isLive = false → task.conversation.isFinished = true ∨ task.isDrained = true

theorem Step.endedWell (step : Step client false task ledger move result)
    (well : task.EndedWell) : result.1.EndedWell := by
  cases step with
  | begin _ | handle _ =>
    intro ended
    rw [isLive_settled, Bool.not_eq_false'] at ended
    exact .inl ended
  | noticeClosed _ items closed => exact fun _ => .inr (by simp [isDrained, items, closed])
  | takeNotification _ _ | takeHook _ _ => exact fun ended => by cases ended
  | noticeCancelled _ cancelled => cases cancelled
  | report phase => exact fun _ => well (by rw [Task.isLive, phase])

namespace Winding

variable {told : List Notification} {called : List HookData}

theorem channels (winding : Winding client isCancelled task told called after) :
    told ++ after.notifications.items = task.notifications.items ∧
      called ++ after.hooks.items = task.hooks.items := by
  induction winding with
  | still => exact ⟨rfl, rfl⟩
  | move move ledger advanced _ ih =>
    obtain ⟨notifications, hooks⟩ := (step_of_advance? advanced).channels
    rw [List.append_assoc, List.append_assoc, ih.1, ih.2]
    exact ⟨notifications, hooks⟩

theorem isOpen (winding : Winding client isCancelled task told called after) :
    after.notifications.isOpen = task.notifications.isOpen := by
  induction winding with
  | still => rfl
  | move move ledger advanced _ ih => exact ih.trans (step_of_advance? advanced).isOpen.1

theorem endedWell (winding : Winding client false task told called after) (well : task.EndedWell) :
    after.EndedWell := by
  induction winding with
  | still => exact well
  | move move ledger advanced _ ih => exact ih ((step_of_advance? advanced).endedWell well)

end Winding

/-- It may come to its end after these notifications and these hooks, unless its machine ends
before. -/
def MayEndAfter (client : Client) (isCancelled : Bool) (task : Task definition σ)
    (early : List Notification) (late : List HookData) : Prop :=
  ∃ told called after, Winding client isCancelled task told called after ∧ after.phase = .ended ∧
    (after.conversation.isFinished = true ∨ told = early ∧ called = late)

namespace MayEndAfter

variable {early : List Notification} {late : List HookData}

theorem of_handling {item : Notification} (handling : task.phase = .handling item)
    (after : ∀ next : Task definition σ, next.phase = .listening →
      next.notifications = task.notifications → next.hooks = task.hooks →
      MayEndAfter client isCancelled next early late) :
    MayEndAfter client isCancelled task early late := by
  let session := Session.take client item ⟨task.conversation, .empty⟩
  have advanced : task.advance? client isCancelled .handle .empty = some (task.settled session) :=
    advance?_of_step (.handle handling)
  cases finished : session.isFinished with
  | true =>
    refine ⟨_, _, _, .move .handle .empty advanced .still, ?_, .inl finished⟩
    simp [settled, finished]
  | false =>
    obtain ⟨told, called, last, winding, ended⟩ :=
      after (task.settled session).1 (by simp [settled, finished]) rfl rfl
    exact ⟨told, called, last, .move .handle .empty advanced winding, ended⟩

theorem of_notification {item : Notification} {rest : List Notification}
    (listening : task.phase = .listening) (items : task.notifications.items = item :: rest)
    (after : ∀ next : Task definition σ, next.phase = .listening →
      next.notifications = { task.notifications with items := rest } → next.hooks = task.hooks →
      MayEndAfter client isCancelled next early late) :
    MayEndAfter client isCancelled task (item :: early) late := by
  let taken : Task definition σ :=
    { task with
        notifications := { task.notifications with items := rest }, phase := .handling item }
  have advanced : task.advance? client isCancelled .takeNotification .empty =
      some (taken, .empty) :=
    advance?_of_step (.takeNotification listening items)
  have handled : MayEndAfter client isCancelled taken early late := of_handling rfl after
  obtain ⟨told, called, last, winding, phase, ended⟩ := handled
  refine ⟨_, _, last, .move .takeNotification .empty advanced winding, phase, ended.imp_right ?_⟩
  rintro ⟨rfl, rfl⟩
  simp [Task.noticed, Task.hooked, items]

theorem of_hook {hook : HookData} {rest : List HookData}
    (listening : task.phase = .listening) (items : task.hooks.items = hook :: rest)
    (after : ∀ next : Task definition σ, next.phase = .listening →
      next.notifications = task.notifications → next.hooks = { task.hooks with items := rest } →
      MayEndAfter client isCancelled next early late) :
    MayEndAfter client isCancelled task early (hook :: late) := by
  let taken : Task definition σ :=
    { task with hooks := { task.hooks with items := rest }, phase := .handling (.hook hook) }
  have advanced : task.advance? client isCancelled .takeHook .empty = some (taken, .empty) :=
    advance?_of_step (.takeHook listening items)
  have handled : MayEndAfter client isCancelled taken early late := of_handling rfl after
  obtain ⟨told, called, last, winding, phase, ended⟩ := handled
  refine ⟨_, _, last, .move .takeHook .empty advanced winding, phase, ended.imp_right ?_⟩
  rintro ⟨rfl, rfl⟩
  simp [Task.noticed, Task.hooked, items]

theorem of_ending {move : Move} (ends : move = .noticeClosed ∨ move = .noticeCancelled)
    (advanced : task.advance? client isCancelled move .empty =
      some ({ task with phase := .ended }, .empty)) :
    MayEndAfter client isCancelled task [] [] := by
  refine ⟨_, _, _, .move move .empty advanced .still, rfl, .inr ?_⟩
  rcases ends with rfl | rfl <;> exact ⟨rfl, rfl⟩

/-- As soon as a task may end it may also go on for as long as there is something to take. -/
theorem of_listening {notifications hooks : Nat} (listening : task.phase = .listening)
    (some : notifications ≤ task.notifications.items.length)
    (few : hooks ≤ task.hooks.items.length)
    (free : isCancelled = true ∨
      notifications = task.notifications.items.length ∧ task.notifications.isOpen = false) :
    MayEndAfter client isCancelled task (task.notifications.items.take notifications)
      (task.hooks.items.take hooks) := by
  induction notifications generalizing task with
  | succ notifications more =>
    cases items : task.notifications.items with
    | nil => simp [items] at some
    | cons item rest =>
      rw [List.take_succ_cons]
      refine of_notification listening items fun next phase early late => ?_
      have further := @more next phase (by simpa [early, items] using some)
        (by rw [late]; exact few) (by simpa [early, items] using free)
      rwa [early, late] at further
  | zero =>
    induction hooks generalizing task with
    | succ hooks more =>
      cases items : task.hooks.items with
      | nil => simp [items] at few
      | cons hook rest =>
        rw [List.take_succ_cons]
        refine of_hook listening items fun next phase early late => ?_
        have further := @more next phase (Nat.zero_le _)
          (by simpa [late, items] using few) (by rw [early]; exact free)
        rwa [early, late] at further
    | zero =>
      rcases free with cancelled | ⟨none, closed⟩
      · exact of_ending (.inr rfl) (advance?_of_step (.noticeCancelled listening cancelled))
      · exact of_ending (.inl rfl) (advance?_of_step
          (.noticeClosed listening (List.eq_nil_of_length_eq_zero none.symm) closed))

end MayEndAfter

/-- A task takes what is in its channels from the front. If it is not cancelled it ends only with
its machine or once it has taken all notifications, and it may have taken any number of hooks by
then. If it is cancelled it may have taken any number of either. -/
theorem winding_down (client : Client) (isCancelled : Bool) (task : Task definition σ) :
    (∀ told called after, Winding client isCancelled task told called after →
        told ++ after.notifications.items = task.notifications.items ∧
          called ++ after.hooks.items = task.hooks.items ∧
          (isCancelled = false → task.isLive = true → after.isLive = false →
            after.conversation.isFinished = true ∨
              told = task.notifications.items ∧ task.notifications.isOpen = false)) ∧
      (task.phase = .listening → ∀ notifications ≤ task.notifications.items.length,
        ∀ hooks ≤ task.hooks.items.length,
          isCancelled = true ∨
            notifications = task.notifications.items.length ∧ task.notifications.isOpen = false →
          MayEndAfter client isCancelled task (task.notifications.items.take notifications)
            (task.hooks.items.take hooks)) := by
  refine ⟨fun told called after winding => ?_, fun listening notifications some hooks few free =>
    .of_listening listening some few free⟩
  obtain ⟨early, late⟩ := winding.channels
  refine ⟨early, late, ?_⟩
  rintro rfl live gone
  have well : task.EndedWell := fun ended => by cases live.symm.trans ended
  refine (winding.endedWell well gone).imp_right fun drained => ?_
  simp only [isDrained, Bool.and_eq_true, List.isEmpty_iff, Bool.not_eq_true'] at drained
  rw [drained.1, List.append_nil] at early
  exact ⟨early, winding.isOpen ▸ drained.2⟩

end Task

namespace Course

def knock : HookData := ⟨"c", .empty⟩

/-- A conversation that is closed with a hook in its channel may end without it. A conversation that
is cancelled with a hook in its channel may take it all the same. -/
theorem knock_may_be_left :
    ∃ (client : Client) (begun : Round Definition.brooder Lua.State)
      (task : Task Definition.brooder Lua.State),
      Course calm task [begun] ∧ task.phase = .listening ∧ task.hooks.items = [knock] ∧
        task.notifications = ⟨[], false⟩ ∧
        (∃ after, Task.Winding client false task [] [] after ∧ after.phase = .ended ∧
          after.conversation.isFinished = false ∧ after.hooks.items = [knock]) ∧
        ∃ after, Task.Winding client true task [] [knock] after ∧ after.phase = .ended := by
  let client := Client.refusing fun _ => false
  have spawned : Course calm (.spawn calm) [] := .spawn
  have begun := spawned.move client false .begin .empty rfl
  have closed := (begun.deliver (.hook knock) rfl).closeNotifications
  refine ⟨client, _, _, closed, by decide +kernel, rfl, rfl, ?_, ?_⟩
  · exact ⟨_, .move .noticeClosed .empty rfl .still, rfl, by decide +kernel, rfl⟩
  · exact ⟨_, .move .takeHook .empty rfl
      (.move .handle .empty rfl (.move .noticeCancelled .empty rfl .still)), rfl⟩

end Course
end Parley
