import Parley.Proofs.Multiplexer.Idle
/-!
An account of what becomes of the items that are taken.

It is kept along a run: what was taken, what a conversation has handled, and what was only counted.
Together with what is still on its way it is complete after every move, since each move takes an
item from one place to one other.
-/

namespace Parley

variable {definition : Definition} {σ : Type}

namespace Task

def inHand (task : Task definition σ) : List Notification :=
  match task.phase with
  | .handling item => [item]
  | _ => []

def pending (task : Task definition σ) : List Notification := task.inHand ++ task.queued

def doneBy (task : Task definition σ) : Move → List Notification
  | .handle => task.inHand
  | _ => []

variable {task after : Task definition σ}

theorem pending_of_delivered {item : Notification} (given : Delivered item task after)
    (other : Notification) :
    after.pending.count other = task.pending.count other + [item].count other := by
  have longer := given.queued.count_eq other
  have same : after.inHand = task.inHand := by rw [inHand, inHand, given.phase]
  rw [List.count_cons, Nat.add_comm] at longer
  simp only [pending, same, List.count_append, longer, List.count_singleton]
  omega

theorem inHand_of_gone (gone : task.isLive = false) : task.inHand = [] := by
  unfold isLive at gone
  unfold inHand
  split at gone <;> simp_all

theorem inHand_settled (session : Session definition σ) :
    (task.settled session).1.inHand = [] := by
  unfold settled inHand
  cases session.isFinished <;> rfl

variable [Evaluator σ] {client : Client} {isCancelled : Bool} {ledger : Ledger} {move : Move}
  {result : Task definition σ × Ledger}

theorem Step.pending (step : Step client isCancelled task ledger move result)
    (item : Notification) :
    task.pending.count item = (task.doneBy move).count item + result.1.pending.count item := by
  cases step with
  | begin fresh =>
    have before : task.inHand = [] := by rw [inHand, fresh]
    rw [Task.pending, Task.pending, before, inHand_settled]
    exact (Nat.zero_add _).symm
  | handle handling =>
    rw [Task.pending, Task.pending, doneBy, inHand_settled, List.count_append, List.nil_append]
    rfl
  | takeNotification listening items =>
    simp only [Task.pending, doneBy, inHand, listening, queued, items, List.count_nil,
      Nat.zero_add]
    rfl
  | takeHook listening items =>
    simp only [Task.pending, doneBy, inHand, listening, queued, items, List.count_nil,
      Nat.zero_add, List.map_cons, List.nil_append, List.count_append, List.count_cons]
    omega
  | noticeClosed listening _ _ => simp [Task.pending, doneBy, inHand, listening, queued]
  | noticeCancelled listening _ => simp [Task.pending, doneBy, inHand, listening, queued]
  | report ended => simp [Task.pending, doneBy, inHand, ended, queued]

end Task

structure Account where
  /-- All of them, except for those that only tell that the stream is still there. -/
  routed : List Notification
  /-- By the conversation of that generation. -/
  handled : List (Nat × Notification)
  /-- Counted as unmatched by the router. -/
  dismissed : List Notification
  /-- Counted as routing errors. -/
  failed : List Notification

namespace Account

def empty : Account := ⟨[], [], [], []⟩

variable {account : Account} {multiplexer after : Multiplexer definition σ}

/-- An item as often as it has been counted from one state to another. -/
def settle (account : Account) (before after : Multiplexer definition σ) (item : Notification) :
    Account :=
  { account with
    dismissed :=
      account.dismissed ++
        List.replicate
          (after.ledger.counters.unmatched - before.ledger.counters.unmatched) item
    failed :=
      account.failed ++
        List.replicate
          (after.ledger.counters.routingErrors - before.ledger.counters.routingErrors) item }

def take (account : Account) (before after : Multiplexer definition σ) (item : Notification) :
    Account :=
  if item.isKeepAlive then account
  else { account with routed := account.routed ++ [item] }.settle before after item

def moved (account : Account) (before after : Multiplexer definition σ) :
    Multiplexer.Move → Account
  | .routeInbound => before.inbound.items.head?.elim account (account.take before after)
  | .routeControl =>
    before.control.head?.elim account fun data => account.take before after (.hook data)
  | .handOver => before.held.elim account fun parcel => account.settle before after parcel.item
  | .work generation move =>
    (before.worker? generation).elim account fun worker =>
      { account with
        handled := account.handled ++ (worker.task.doneBy move).map (generation, ·) }
  | _ => account

def occurred (account : Account) (before after : Multiplexer definition σ) :
    Multiplexer.Occurrence → Account
  | .moved move => account.moved before after move
  | _ => account

end Account

namespace Multiplexer

def audit? [Evaluator σ] (setting : Setting σ) :
    List Occurrence → Account → Multiplexer definition σ →
      Option (Account × Multiplexer definition σ)
  | [], account, multiplexer => some (account, multiplexer)
  | occurrence :: rest, account, multiplexer =>
    (multiplexer.occur? setting occurrence).bind fun after =>
      audit? setting rest (account.occurred multiplexer after occurrence) after

def pending (multiplexer : Multiplexer definition σ) : List Notification :=
  (multiplexer.held.map Parcel.item).toList ++
    multiplexer.workers.flatMap fun worker => worker.task.pending

def Speaks (multiplexer : Multiplexer definition σ) (generation : Nat) (connection : String) :
    Prop :=
  ∃ worker ∈ multiplexer.workers,
    worker.generation = generation ∧ worker.connection = connection

end Multiplexer

namespace Account

/-- Every item that was taken has come to one end, as often as it was taken. -/
def Complete (account : Account) : Prop :=
  ∀ item, account.routed.count item =
    (account.handled.map Prod.snd).count item + account.dismissed.count item +
      account.failed.count item

/-- The account is complete, up to what is still on its way and to items that are owed, and every
item is where it belongs. -/
structure Sound (account : Account) (multiplexer : Multiplexer definition σ)
    (owed : List Notification) : Prop where
  total : ∀ item, account.routed.count item =
    (account.handled.map Prod.snd).count item + account.dismissed.count item +
      account.failed.count item + multiplexer.pending.count item + owed.count item
  held : ∀ parcel, multiplexer.held = some parcel →
    parcel.item.connection? = some parcel.connection ∧
      ∃ generation, multiplexer.table.get? parcel.connection = some generation
  pending : ∀ worker ∈ multiplexer.workers, ∀ item ∈ worker.task.pending,
    item.connection? = some worker.connection
  handled : ∀ entry ∈ account.handled, ∃ connection,
    entry.2.connection? = some connection ∧ multiplexer.Speaks entry.1 connection

end Account

namespace Multiplexer

variable {setting : Setting σ} {multiplexer after : Multiplexer definition σ} {account : Account}
  {owed : List Notification} {item : Notification} {connection : String}

theorem isKeepAlive_iff : item.isKeepAlive = true ↔ item.connection? = none := by
  cases item <;> simp [Notification.isKeepAlive, Notification.connection?]

theorem isKeepAlive_of_connection (own : item.connection? = some connection) :
    item.isKeepAlive = false := by
  rw [Bool.eq_false_iff, Ne, isKeepAlive_iff, own]
  exact Option.some_ne_none connection

theorem sound_initial : Account.empty.Sound (initial definition σ) [] where
  total _ := rfl
  held := by simp [initial]
  pending := by simp [initial]
  handled := by simp [Account.empty]

theorem count_pending (multiplexer : Multiplexer definition σ) (item : Notification) :
    multiplexer.pending.count item =
      (multiplexer.held.map Parcel.item).toList.count item +
        Worker.total (fun task => task.pending.count item) multiplexer.workers := by
  rw [pending, List.count_append]
  congr 1
  induction multiplexer.workers with
  | nil => rfl
  | cons worker rest ih => rw [List.flatMap_cons, List.count_append, ih, Worker.total]

theorem sound_of_same (sound : account.Sound multiplexer owed)
    (held : after.held = multiplexer.held) (workers : after.workers = multiplexer.workers)
    (table : after.table = multiplexer.table) : account.Sound after owed where
  total item := by
    rw [count_pending, held, workers, ← count_pending]
    exact sound.total item
  held := by rw [held, table]; exact sound.held
  pending := by rw [workers]; exact sound.pending
  handled := by unfold Speaks; rw [workers]; exact sound.handled

theorem sound_of_free (sound : account.Sound multiplexer owed) (free : multiplexer.held = none)
    (held : after.held = none) (workers : after.workers = multiplexer.workers) :
    account.Sound after owed where
  total item := by
    have total := sound.total item
    rw [count_pending, free] at total
    rw [count_pending, held, workers]
    exact total
  held := by simp [held]
  pending := by rw [workers]; exact sound.pending
  handled := by unfold Speaks; rw [workers]; exact sound.handled

theorem sound_of_picked {attempts : Nat} (sound : account.Sound multiplexer [item])
    (free : multiplexer.held = none) (own : item.connection? = some connection)
    (picked : Picked setting item connection multiplexer attempts after) :
    (account.settle multiplexer after item).Sound after [] := by
  have total := sound.total
  cases picked with
  | exhausted =>
    refine ⟨fun other => ?_, ?_, sound.pending, sound.handled⟩
    · have before := total other
      simp only [count_pending, free, Account.settle, note, Ledger.noteRoutingError, Nat.sub_self,
        Nat.add_sub_cancel_left, List.replicate_zero, List.replicate_one, List.append_nil,
        List.count_append, List.count_nil] at before ⊢
      omega
    · simp [note, free]
  | dismissed _ _ =>
    refine ⟨fun other => ?_, ?_, sound.pending, sound.handled⟩
    · have before := total other
      simp only [count_pending, free, Account.settle, note, Ledger.noteUnmatched, Nat.sub_self,
        Nat.add_sub_cancel_left, List.replicate_zero, List.replicate_one, List.append_nil,
        List.count_append, List.count_nil] at before ⊢
      omega
    · simp [note, free]
  | @found attempts generation entry =>
    refine ⟨fun other => ?_, ?_, sound.pending, sound.handled⟩
    · have before := total other
      simp only [count_pending, free, Account.settle, Nat.sub_self, List.replicate_zero,
        List.append_nil, List.count_nil, Option.map_none, Option.map_some, Option.toList_none,
        Option.toList_some] at before ⊢
      omega
    · intro parcel held
      cases held
      exact ⟨own, generation, entry⟩
  | started _ _ =>
    have fresh : (Task.spawn (Conversation.new definition connection setting.scripts
        (setting.pins connection (multiplexer.startedWith connection)))).pending = [] := rfl
    refine ⟨fun other => ?_, ?_, ?_, ?_⟩
    · have before := total other
      simp only [count_pending, free, Account.settle, spawn, note, Ledger.noteStart, fresh,
        Nat.sub_self, List.replicate_zero, List.append_nil, List.count_nil, Option.map_none,
        Option.map_some, Option.toList_none, Option.toList_some, Worker.total_append,
        Worker.total] at before ⊢
      omega
    · intro parcel held
      cases held
      refine ⟨own, multiplexer.nextGeneration, ?_⟩
      simp [spawn, note]
    · intro worker member
      rcases List.mem_append.mp member with old | new
      · exact sound.pending worker old
      · rw [List.mem_singleton.mp new]
        simp [fresh]
    · intro entry member
      obtain ⟨name, addressed, worker, inside, speaks⟩ := sound.handled entry member
      exact ⟨name, addressed, worker, List.mem_append_left _ inside, speaks⟩

theorem settle_same (same : after.ledger = multiplexer.ledger) :
    account.settle multiplexer after item = account := by
  simp [Account.settle, same]

theorem sound_of_setTask {generation : Nat} {worker : Worker definition σ}
    (done rest : List Notification)
    (orderly : multiplexer.Orderly) (sound : account.Sound multiplexer owed)
    (found : multiplexer.worker? generation = some worker) {task : Task definition σ}
    (same : task.conversation.connection = worker.connection)
    (balance : ∀ item, worker.task.pending.count item + owed.count item =
      task.pending.count item + done.count item + rest.count item)
    (addressed : ∀ item ∈ owed, item.connection? = some worker.connection) :
    Account.Sound { account with handled := account.handled ++ done.map (generation, ·) }
      (multiplexer.setTask generation task) rest := by
  obtain ⟨before, later, split, changed⟩ := orderly.setTask_split found task
  obtain ⟨member, own⟩ := worker?_some found
  -- Whatever the conversation has now or is done with, it had before or was owed.
  have known : ∀ item, item ∈ task.pending ∨ item ∈ done →
      item.connection? = some worker.connection := by
    intro item either
    have amount := balance item
    have positive : 0 < worker.task.pending.count item + owed.count item := by
      rcases either with here | here
      · have := List.count_pos_iff.mpr here
        omega
      · have := List.count_pos_iff.mpr here
        omega
    rcases Nat.add_pos_iff_pos_or_pos.mp positive with some | some
    · exact sound.pending worker member item (List.count_pos_iff.mp some)
    · exact addressed item (List.count_pos_iff.mp some)
  have kept {number : Nat} {name : String} (speaks : multiplexer.Speaks number name) :
      (multiplexer.setTask generation task).Speaks number name := by
    obtain ⟨other, inside, numbered, named⟩ := speaks
    unfold Speaks
    rw [changed]
    rw [split] at inside
    rcases List.mem_append.mp inside with early | late
    · exact ⟨other, List.mem_append_left _ early, numbered, named⟩
    · rcases List.mem_cons.mp late with rfl | late
      · exact ⟨_, List.mem_append_right _ List.mem_cons_self, numbered, same.trans named⟩
      · exact ⟨other, List.mem_append_right _ (List.mem_cons_of_mem _ late), numbered, named⟩
  refine ⟨fun item => ?_, sound.held, ?_, ?_⟩
  · have total := sound.total item
    have moved := total_setTask orderly.distinct found task fun task => task.pending.count item
    have amount := balance item
    rw [count_pending] at total ⊢
    simp only [List.map_append, List.map_map, List.count_append, setTask] at moved ⊢
    have numbers : (done.map (Prod.snd ∘ (generation, ·))) = done := by
      simp [Function.comp_def]
    rw [numbers]
    omega
  · intro other inside item waits
    rw [changed] at inside
    have here {list : List (Worker definition σ)} (among : list ⊆ multiplexer.workers)
        (inside : other ∈ list) : item.connection? = some other.connection :=
      sound.pending other (among inside) item waits
    rcases List.mem_append.mp inside with early | late
    · exact here (split ▸ List.subset_append_left _ _) early
    · rcases List.mem_cons.mp late with rfl | late
      · rw [known item (.inl waits)]
        exact congrArg some same.symm
      · refine here ?_ late
        rw [split]
        exact fun _ there => List.mem_append_right _ (List.mem_cons_of_mem _ there)
  · intro entry inside
    rcases List.mem_append.mp inside with old | new
    · obtain ⟨name, addressed, speaks⟩ := sound.handled entry old
      exact ⟨name, addressed, kept speaks⟩
    · obtain ⟨item, finished, rfl⟩ := List.mem_map.mp new
      exact ⟨worker.connection, known item (.inr finished), kept ⟨worker, member, own, rfl⟩⟩

theorem sound_of_handedOver {parcel : Parcel} {generation : Nat} (orderly : multiplexer.Orderly)
    (sound : account.Sound multiplexer [parcel.item]) (free : multiplexer.held = none)
    (own : parcel.item.connection? = some parcel.connection)
    (entry : multiplexer.table.get? parcel.connection = some generation)
    (handed : HandedOver setting parcel multiplexer after) :
    (account.settle multiplexer after parcel.item).Sound after [] := by
  cases handed with
  | nowhere absent =>
    obtain ⟨worker, found, _⟩ := orderly.holder? entry
    rw [found] at absent
    cases absent
  | @delivered worker task found delivered =>
    have given := Task.deliver?_delivered delivered
    have connection := orderly.connection_of_holder? found
    have moved := sound_of_setTask [] [] orderly sound
      (worker?_of_holder? found) (congrArg Conversation.connection given.conversation)
      (fun item => by rw [Task.pending_of_delivered given item]; rfl)
      (fun item member => by rw [List.mem_singleton.mp member, connection]; exact own)
    have uncounted : account.settle multiplexer (multiplexer.setTask worker.generation task)
        parcel.item = account := settle_same rfl
    rw [uncounted]
    simpa only [List.map_nil, List.append_nil] using moved
  | refused _ _ picked =>
    have erased : account.Sound
        { multiplexer with table := multiplexer.table.erase parcel.connection } [parcel.item] :=
      sound_of_free sound free free rfl
    have counted := sound_of_picked erased free own picked
    exact counted

theorem sound_of_routed (sound : account.Sound multiplexer []) (free : multiplexer.held = none)
    (routed : Routed setting item multiplexer after) :
    (account.take multiplexer after item).Sound after [] := by
  unfold Account.take
  cases routed with
  | keptAlive silent =>
    rw [if_pos (isKeepAlive_iff.mpr silent)]
    exact sound_of_same sound rfl rfl rfl
  | @picked connection _ own picked =>
    rw [if_neg (Bool.eq_false_iff.mp (isKeepAlive_of_connection own))]
    -- The item counts as routed from here on, and is owed until it is in hand or counted.
    have taken : Account.Sound { account with routed := account.routed ++ [item] }
        (multiplexer.note .noteNotification) [item] := by
      refine ⟨fun other => ?_, sound.held, sound.pending, sound.handled⟩
      have total := sound.total other
      rw [List.count_append, total, List.count_nil, Nat.add_zero]
      rfl
    have counted := sound_of_picked taken free own picked
    exact counted

variable [Evaluator σ] {move : Move}

omit [Evaluator σ] in
theorem dismissed_of_picked (account : Account) {attempts : Nat}
    (picked : Picked setting item connection multiplexer attempts after) :
    (account.settle multiplexer after item).dismissed = account.dismissed ∨
      (account.settle multiplexer after item).dismissed = account.dismissed ++ [item] ∧
        item.startsConversation = false ∧ multiplexer.table.get? connection = none := by
  cases picked with
  | exhausted => exact .inl (by simp [Account.settle, note, Ledger.noteRoutingError])
  | dismissed absent silent =>
    exact .inr ⟨by simp [Account.settle, note, Ledger.noteUnmatched], silent, absent⟩
  | found _ => exact .inl (by simp [Account.settle])
  | started _ _ => exact .inl (by simp [Account.settle, spawn, note, Ledger.noteStart])

omit [Evaluator σ] in
theorem dismissed_of_routed (account : Account) (orderly : multiplexer.Orderly)
    (routed : Routed setting item multiplexer after) :
    (account.take multiplexer after item).dismissed = account.dismissed ∨
      ∃ connection, (account.take multiplexer after item).dismissed = account.dismissed ++ [item] ∧
        item.connection? = some connection ∧ item.startsConversation = false ∧
        multiplexer.IsAlone connection := by
  unfold Account.take
  split
  next => exact .inl rfl
  next counts =>
    cases routed with
    | keptAlive silent => exact absurd (isKeepAlive_iff.mpr silent) counts
    | @picked connection _ own picked =>
      rcases dismissed_of_picked account picked with same | ⟨one, silent, absent⟩
      · exact .inl same
      · exact .inr ⟨connection, one, own, silent, orderly.isAlone_of_absent absent⟩

/-- What the router counts as unmatched is one item of a connection that has nobody. -/
theorem dismissed_of_step (orderly : multiplexer.Orderly)
    (sound : account.Sound multiplexer []) (step : Step setting multiplexer move after) :
    (account.moved multiplexer after move).dismissed = account.dismissed ∨
      ∃ item connection,
        (account.moved multiplexer after move).dismissed = account.dismissed ++ [item] ∧
          item.connection? = some connection ∧ item.startsConversation = false ∧
          multiplexer.IsAlone connection := by
  cases step with
  | @routeInbound item rest _ items _ routed =>
    simp only [Account.moved, items, List.head?_cons, Option.elim_some]
    have waiting : Orderly
        { multiplexer with inbound := { multiplexer.inbound with items := rest } } :=
      orderly.of_same rfl rfl (List.Subset.refl _) rfl
    exact (dismissed_of_routed account waiting routed).imp_right (⟨item, ·⟩)
  | @routeControl data rest _ items _ routed =>
    simp only [Account.moved, items, List.head?_cons, Option.elim_some]
    have waiting : Orderly { multiplexer with control := rest } :=
      orderly.of_same rfl rfl (List.Subset.refl _) rfl
    exact (dismissed_of_routed account waiting routed).imp_right (⟨.hook data, ·⟩)
  | @handOver parcel _ held _ _ handed =>
    simp only [Account.moved, held, Option.elim_some]
    have own := (sound.held parcel held).1
    cases handed with
    | nowhere _ => exact .inl (by simp [Account.settle])
    | delivered _ _ => exact .inl (by simp [Account.settle, setTask])
    | @refused worker _ found refused picked =>
      obtain ⟨member, entry⟩ := holder?_some found
      have gone := Task.isLive_of_deliver?_none (orderly.isOpen worker member) refused
      rcases dismissed_of_picked account picked with same | ⟨one, silent, _⟩
      · exact .inl same
      · exact .inr ⟨parcel.item, parcel.connection, one, own, silent,
          orderly.isAlone_of_entry member entry gone⟩
  | @work generation taskMove worker result found moved =>
    rw [Account.moved, found]
    exact .inl rfl
  | _ => exact .inl rfl

/-- What one move preserves. -/
theorem sound_of_step (orderly : multiplexer.Orderly) (sound : account.Sound multiplexer [])
    (step : Step setting multiplexer move after) (routing : after.stage = .routing) :
    (account.moved multiplexer after move).Sound after [] := by
  cases step with
  | @evict completion rest _ ready =>
    have free := held_of_isReady ready
    obtain ⟨workers, _, held⟩ :=
      complete_frame completion { multiplexer with completions := rest }
    exact sound_of_free sound free (held.trans free) workers
  | @routeInbound _ rest _ items ready routed =>
    simp only [Account.moved, items, List.head?_cons, Option.elim_some]
    have waiting : account.Sound
        { multiplexer with inbound := { multiplexer.inbound with items := rest } } [] :=
      sound_of_same sound rfl rfl rfl
    have taken := sound_of_routed waiting (held_of_isReady ready) routed
    exact taken
  | @routeControl _ rest _ items ready routed =>
    simp only [Account.moved, items, List.head?_cons, Option.elim_some]
    have waiting : account.Sound { multiplexer with control := rest } [] :=
      sound_of_same sound rfl rfl rfl
    have taken := sound_of_routed waiting (held_of_isReady ready) routed
    exact taken
  | @handOver parcel _ held _ _ handed =>
    simp only [Account.moved, held, Option.elim_some]
    obtain ⟨own, generation, entry⟩ := sound.held parcel held
    have released : Orderly { multiplexer with held := none } :=
      orderly.of_same rfl rfl (List.Subset.refl _) rfl
    have owed : account.Sound { multiplexer with held := none } [parcel.item] := by
      refine ⟨fun item => ?_, by simp, sound.pending, sound.handled⟩
      have total := sound.total item
      simp only [count_pending, held, Option.map_some, Option.map_none, Option.toList_some,
        Option.toList_none, List.count_nil] at total ⊢
      omega
    have given := sound_of_handedOver released owed rfl own entry handed
    exact given
  | noticeClosed _ _ _ => cases routing
  | noticeCancelled _ _ => cases routing
  | finish _ _ => cases routing
  | @work generation taskMove worker result found moved =>
    simp only [Account.moved, found, Option.elim_some]
    have set := sound_of_setTask (worker.task.doneBy taskMove) [] orderly sound
      found moved.connection
      (fun item => by rw [moved.pending item]; simp only [List.count_nil]; omega)
      (fun item member => by cases member)
    exact sound_of_same set rfl rfl rfl

theorem run?_of_audit? {occurrences : List Occurrence} {before : Account}
    (ran : audit? setting occurrences before multiplexer = some (account, after)) :
    multiplexer.run? setting occurrences = some after := by
  induction occurrences generalizing multiplexer before with
  | nil => cases ran; rfl
  | cons occurrence rest ih =>
    obtain ⟨next, occurred, later⟩ := Option.bind_eq_some_iff.mp ran
    exact Option.bind_eq_some_iff.mpr ⟨next, occurred, ih later⟩

theorem exists_audit? {occurrences : List Occurrence} (before : Account)
    (ran : multiplexer.run? setting occurrences = some after) :
    ∃ account, audit? setting occurrences before multiplexer = some (account, after) := by
  induction occurrences generalizing multiplexer before with
  | nil => cases ran; exact ⟨before, rfl⟩
  | cons occurrence rest ih =>
    obtain ⟨next, occurred, later⟩ := Option.bind_eq_some_iff.mp ran
    obtain ⟨account, audited⟩ := ih (before.occurred multiplexer next occurrence) later
    exact ⟨account, Option.bind_eq_some_iff.mpr ⟨next, occurred, audited⟩⟩

/-- What a run preserves. -/
theorem sound_of_audit? {occurrences : List Occurrence} {before : Account}
    (orderly : multiplexer.Orderly) (sound : before.Sound multiplexer [])
    (ran : audit? setting occurrences before multiplexer = some (account, after))
    (routing : after.stage = .routing) : account.Sound after [] := by
  induction occurrences generalizing multiplexer before with
  | nil => cases ran; exact sound
  | cons occurrence rest ih =>
    obtain ⟨next, occurred, later⟩ := Option.bind_eq_some_iff.mp ran
    have goesOn : next.stage = .routing := run?_routing (run?_of_audit? later) routing
    refine ih (orderly.occur occurred goesOn) ?_ later
    cases occurrence with
    | moved move => exact sound_of_step orderly sound (step_of_advance? occurred) goesOn
    | _ =>
      obtain ⟨workers, table, _, _, held, _⟩ := untouched_of_occur? (by simp) occurred
      exact sound_of_same sound held workers table

end Multiplexer
end Parley
