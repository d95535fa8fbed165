import Parley.Lua.Evaluator
import Parley.Proofs.Conversation.Provenance
/-!
How protocols of ours end.

`OUR_STATUS` is for protocols that were started on this side. That much the search for a transition
looks at, and on triggers for anything but a status the rule cannot stand. It should also wait for
the protocol to be done. Protocols that came to nothing are passed over indeed, but one of ours that
is still waiting fires the rule as if it were done.
-/

namespace Parley

variable {definition : Definition} {σ : Type} [Evaluator σ]

theorem Turn.rule_of_transient (wellFormed : definition.WellFormed) {turn : Turn definition σ}
    {content : String} (about : turn.occasion = .item (.transient content))
    {transition : Transition} (found : turn.found? = some transition) :
    transition.trigger.rule ≠ .ourStatus := by
  obtain ⟨item, same, fired⟩ := Turn.find_of_found? found
  obtain rfl : .transient content = item := Occasion.item.inj (about.symm.trans same)
  have own : transition.trigger.protocol = .transient := Machine.find_suits fired
  exact Machine.rule_of_reserved (Machine.find_fits wellFormed _ fired).trigger (by rw [own]; rfl)

namespace Session

variable {session : Session definition σ}

theorem handle_of_given_up (client : Client) {change : Status}
    (ended : change.progress = .declined ∨ change.progress = .failed) :
    session.handle client (.status change) = session := by
  have unshown : (Item.status change).isShown = false := by
    rcases ended with declined | failed
    · simp [Item.isShown, declined]
    · simp [Item.isShown, failed]
  exact receive_unshown client unshown

theorem handle_of_waiting (client : Client) {change : Status} (ours : change.ours = true)
    (waiting : change.progress = .waiting) :
    session.handle client (.status change) =
      session.handle client (.status { change with progress := .done }) := by
  obtain ⟨connection, protocolId, protocol, progress, own, payload⟩ := change
  cases ours
  cases waiting
  rfl

/-- What is taken for the status of a protocol is for `OUR_STATUS` if and only if the protocol is
ours, and nothing that the machine is told of its own afterwards is. Nothing is taken for protocols
that came to nothing, but one of ours that is waiting is handled like one that is done. -/
theorem our_status_is_ours {draft : Draft} (accepted : draft.check = .ok definition)
    (client : Client) (session : Session definition σ) (change : Status) :
    (session.taken? client (.status change) = none →
        Stays session (session.handle client (.status change))) ∧
      (∀ transition sends, session.taken? client (.status change) = some (transition, sends) →
        (∃ ready : Session definition σ,
            session.handle client (.status change) = ready.commit transition) ∧
          (transition.trigger.rule = .ourStatus ↔ change.ours = true) ∧
          (change.progress = .done ∨ change.progress = .waiting)) ∧
      (∀ turn ∈ (session.handle client (.status change)).hops client, ∀ transition,
        turn.found? = some transition → transition.trigger.rule ≠ .ourStatus) ∧
      (change.progress = .declined ∨ change.progress = .failed →
        session.handle client (.status change) = session) ∧
      (change.ours = true → change.progress = .waiting →
        session.handle client (.status change) =
          session.handle client (.status { change with progress := .done })) := by
  refine ⟨receive_of_untaken, ?_, ?_, handle_of_given_up client, handle_of_waiting client⟩
  · intro transition sends taken
    obtain ⟨ready, _, _, committed⟩ := receive_of_taken taken
    obtain ⟨shown, _, _, resolved, _⟩ := taken?_eq_some_iff.mp taken
    have suits : (Item.status change).Suits transition.trigger :=
      Machine.find_suits (congrArg Prod.fst resolved)
    refine ⟨⟨ready, committed⟩, suits.2, ?_⟩
    cases progress : change.progress <;> simp [Item.isShown, progress] at shown ⊢
  · intro turn member transition found
    obtain ⟨_, about⟩ := (hops_feeds client _).occasion member
    exact Turn.rule_of_transient (Definition.wellFormed_of_check accepted) about found

end Session

/-- A notary hands out a credential once its own request for a proof has come to an end. -/
def Draft.notary : Draft where
  name := "notary"
  kind := .conversation
  keepMemory := false
  initial := { trigger := none, sends := [], target := "ISSUE" }
  states :=
    [("ISSUE",
      { transitions :=
          [{ trigger := some ⟨"present_proof", none, some "OUR_STATUS", none, none, false⟩
             sends :=
              [⟨"issue_credential", none, none, none, some (.issuing "cd-1" "[]"), false⟩]
             target := "DONE" }]
        terminate := false }),
      ("DONE", { transitions := [], terminate := true })]

def Transition.attest : Transition where
  trigger := ⟨.presentProof, .ourStatus, none, "", none, true⟩
  sends := [⟨.issueCredential, .data, none, "", some (.issuing "cd-1" "[]"), true⟩]
  target := "DONE"

def Definition.notary : Definition where
  name := "notary"
  kind := .conversation
  keepMemory := false
  initial := { sends := [], target := "ISSUE" }
  states := [⟨"ISSUE", [.attest], false⟩, ⟨"DONE", [], true⟩]
  initialIndex := ⟨0, by decide⟩
  checksum := Draft.notary.checksum

namespace Session

def unproved : Session Definition.notary Lua.State :=
  ⟨.new .notary "c" .initial (.constant (Fin.last 999999)), .empty⟩

def proofAt (progress : Progress) : Status := ⟨"c", "p", .presentProof, progress, true, .none⟩

def credential : Send := ⟨.issueCredential, none, "", .issuing "cd-1" "[]", true⟩

/-- A proof that is done is attested, and one that the notary has not asked for would not be. -/
theorem notary_attests :
    Draft.notary.check = .ok Definition.notary ∧
      unproved.taken? (.refusing fun _ => false) (.status (proofAt .done)) =
        some (.attest, [credential]) ∧
      (Transition.attest.trigger.rule = .ourStatus ↔ (proofAt .done).ours = true) := by
  have accepted : Draft.notary.check = .ok Definition.notary := rfl
  have taken : unproved.taken? (.refusing fun _ => false) (.status (proofAt .done)) =
      some (.attest, [credential]) := by decide +kernel
  obtain ⟨_, attested, _⟩ :=
    our_status_is_ours accepted (.refusing fun _ => false) unproved (proofAt .done)
  exact ⟨accepted, taken, (attested _ _ taken).2.1⟩

/-- The credential is out before the proof is there. -/
theorem notary_is_hasty :
    Draft.notary.check = .ok Definition.notary ∧
      unproved.taken? (.refusing fun _ => false) (.status (proofAt .waiting)) =
        some (.attest, [credential]) ∧
      Transition.attest.trigger.rule = .ourStatus ∧ (proofAt .waiting).progress = .waiting ∧
      (unproved.take (.refusing fun _ => false) (.status (proofAt .waiting))).ledger.attempts =
        [⟨"c", .issueCredential "c" "cd-1" "[]", none⟩] :=
  ⟨rfl, by decide +kernel, rfl, rfl, by decide +kernel⟩

end Session
end Parley
