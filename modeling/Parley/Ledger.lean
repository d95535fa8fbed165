import Parley.Client
/-!
What is written down while conversations run: the attempts to call the client, and counters.
-/

namespace Parley

structure Counters where
  notifications : Nat
  keepAlives : Nat
  started : Nat
  completed : Nat
  active : Nat
  routingErrors : Nat
  transitions : Nat
  unmatched : Nat
  sends : Nat
  sendErrors : Nat
  deriving DecidableEq

def Counters.zero : Counters := ⟨0, 0, 0, 0, 0, 0, 0, 0, 0, 0⟩

structure Ledger where
  /-- The last one first. -/
  attempts : List Attempt
  counters : Counters
  deriving DecidableEq

namespace Ledger

def empty : Ledger := ⟨[], .zero⟩

def noteNotification (ledger : Ledger) : Ledger :=
  { ledger with
    counters := { ledger.counters with notifications := ledger.counters.notifications + 1 } }

def noteKeepAlive (ledger : Ledger) : Ledger :=
  { ledger with counters := { ledger.counters with keepAlives := ledger.counters.keepAlives + 1 } }

def noteStart (ledger : Ledger) : Ledger :=
  { ledger with
    counters :=
      { ledger.counters with
        started := ledger.counters.started + 1, active := ledger.counters.active + 1 } }

def noteCompletion (ledger : Ledger) : Ledger :=
  { ledger with
    counters :=
      { ledger.counters with
        completed := ledger.counters.completed + 1, active := ledger.counters.active - 1 } }

def noteRoutingError (ledger : Ledger) : Ledger :=
  { ledger with
    counters := { ledger.counters with routingErrors := ledger.counters.routingErrors + 1 } }

def noteTransition (ledger : Ledger) : Ledger :=
  { ledger with
    counters := { ledger.counters with transitions := ledger.counters.transitions + 1 } }

def noteUnmatched (ledger : Ledger) : Ledger :=
  { ledger with counters := { ledger.counters with unmatched := ledger.counters.unmatched + 1 } }

def noteSend (ledger : Ledger) : Ledger :=
  { ledger with counters := { ledger.counters with sends := ledger.counters.sends + 1 } }

def noteSendError (ledger : Ledger) : Ledger :=
  { ledger with counters := { ledger.counters with sendErrors := ledger.counters.sendErrors + 1 } }

/-- Makes a call for the conversation with a connection. A refused one counts as an error. -/
def call (ledger : Ledger) (client : Client) (connection : String) (call : Call) : Bool × Ledger :=
  let refusal := client.refuses ledger.attempts call
  let noted := { ledger with attempts := ⟨connection, call, refusal⟩ :: ledger.attempts }
  if refusal.isNone then (true, noted) else (false, noted.noteSendError)

end Ledger
end Parley
