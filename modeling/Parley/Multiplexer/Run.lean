import Parley.Multiplexer.Basic
/-!
Running a multiplexer until nothing can happen any more, and talking to it from outside.

Of the ways in which it could run, `Multiplexer.settle` takes the one where everybody goes on for as
long as possible: the router until it waits, then one conversation after the other.
-/

namespace Parley.Multiplexer

variable {definition : Definition} {σ : Type}

def routerMoves : List Move :=
  [.handOver, .noticeCancelled, .evict, .routeInbound, .noticeClosed, .routeControl, .finish]

def nextOfRouter? [Evaluator σ] (setting : Setting σ)
    (multiplexer : Multiplexer definition σ) : Option (Multiplexer definition σ) :=
  routerMoves.findSome? fun move => multiplexer.advance? setting move

def routeFor [Evaluator σ] (setting : Setting σ) :
    Nat → Multiplexer definition σ → Multiplexer definition σ
  | 0, multiplexer => multiplexer
  | fuel + 1, multiplexer =>
    match multiplexer.nextOfRouter? setting with
    | some multiplexer => routeFor setting fuel multiplexer
    | none => multiplexer

/-- The number of moves for which the router has something at hand: an item is routed once and
handed over once for each attempt. -/
def routerWork (multiplexer : Multiplexer definition σ) : Nat :=
  (attemptLimit + 1) *
      (multiplexer.inbound.items.length + multiplexer.control.length +
        multiplexer.held.toList.length) +
    multiplexer.completions.length + 2

def runRouter [Evaluator σ] (setting : Setting σ)
    (multiplexer : Multiplexer definition σ) : Multiplexer definition σ :=
  multiplexer.routeFor setting multiplexer.routerWork

def nextOfWorker? [Evaluator σ] (setting : Setting σ) (generation : Nat)
    (multiplexer : Multiplexer definition σ) : Option (Multiplexer definition σ) :=
  Task.moves.findSome? fun move => multiplexer.work? setting generation move

def workFor [Evaluator σ] (setting : Setting σ) (generation : Nat) :
    Nat → Multiplexer definition σ → Multiplexer definition σ
  | 0, multiplexer => multiplexer
  | fuel + 1, multiplexer =>
    match multiplexer.nextOfWorker? setting generation with
    | some multiplexer => workFor setting generation fuel multiplexer
    | none => multiplexer

def runWorker [Evaluator σ] (setting : Setting σ) (multiplexer : Multiplexer definition σ)
    (worker : Worker definition σ) : Multiplexer definition σ :=
  multiplexer.workFor setting worker.generation worker.task.work

def round [Evaluator σ] (setting : Setting σ) (multiplexer : Multiplexer definition σ) :
    Multiplexer definition σ :=
  let routed := multiplexer.runRouter setting
  routed.workers.foldl (runWorker setting) routed

def isIdle [Evaluator σ] (setting : Setting σ) (multiplexer : Multiplexer definition σ) :
    Bool :=
  (multiplexer.nextOfRouter? setting).isNone &&
    multiplexer.workers.all fun worker =>
      (multiplexer.nextOfWorker? setting worker.generation).isNone

def settleFor [Evaluator σ] (setting : Setting σ) :
    Nat → Multiplexer definition σ → Multiplexer definition σ
  | 0, multiplexer => multiplexer
  | fuel + 1, multiplexer =>
    if multiplexer.isIdle setting then multiplexer
    else settleFor setting fuel (multiplexer.round setting)

/-- Each round but the last ones hands over an item. -/
def rounds (multiplexer : Multiplexer definition σ) : Nat := multiplexer.routerWork + 4

def settle [Evaluator σ] (setting : Setting σ) (multiplexer : Multiplexer definition σ) :
    Multiplexer definition σ :=
  multiplexer.settleFor setting multiplexer.rounds

def hasStopped (multiplexer : Multiplexer definition σ) : Bool := multiplexer.stage = .stopped

def offer? (multiplexer : Multiplexer definition σ) (item : Notification) :
    Option (Multiplexer definition σ) :=
  if multiplexer.inbound.isOpen && !multiplexer.hasStopped then
    some { multiplexer with inbound := multiplexer.inbound.push item }
  else none

def offerHook (multiplexer : Multiplexer definition σ) (data : HookData) :
    Except AgencyError (Multiplexer definition σ) :=
  if multiplexer.hasStopped then .error .shuttingDown
  else .ok { multiplexer with control := multiplexer.control ++ [data] }

def closeInbound (multiplexer : Multiplexer definition σ) : Multiplexer definition σ :=
  { multiplexer with inbound := multiplexer.inbound.close }

def cancel (multiplexer : Multiplexer definition σ) : Multiplexer definition σ :=
  { multiplexer with isCancelled := true }

def live (multiplexer : Multiplexer definition σ) : Except AgencyError (List String) :=
  if multiplexer.hasStopped then .error .shuttingDown else .ok multiplexer.table.keys

end Parley.Multiplexer
