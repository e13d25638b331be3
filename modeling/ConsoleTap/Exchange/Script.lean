import ConsoleTap.Exchange.Turn

/-!
# Scripted runs of the exchange

A script plays the world outside.  In each of its steps it does some of the
things the outside can do, in a fixed order, lets everything settle, moves the
clock if it wants to, and lets everything settle again.  What became visible
during a step is its report.
-/

namespace ConsoleTap.Exchange

open ConsoleTap.Json ConsoleTap.Target

structure Order where
  method : String
  params : Option Value := none
  /-- How long to wait for the reply; a notification has no limit. -/
  limit : Option Nat := none
deriving Inhabited

/-- What the world outside does in one step of a script, in this order. -/
structure ScriptStep where
  /-- A notification, written before anything else happens. -/
  notify : Option Order := none
  /-- Requests, whose callers act when everything settles. -/
  send : List Order := []
  shutdownFirst : Bool := false
  route : List Value := []
  /-- All writes fail from now on. -/
  failSink : Option TransportFault := none
  readerLeaves : Bool := false
  shutdown : Bool := false
  advance : Option Nat := none
deriving Inhabited

/-- The exchange and the channel it writes to. -/
structure World where
  state : State := {}
  sink : Sink := {}
deriving Inhabited

/-- What became visible during a step. -/
structure Report where
  notified : Option Outcome
  sent : List Command
  forwarded : List Value
  resolved : List (Nat × Outcome)
  closed : Bool
  notices : List Notice

/-- The outcomes of the requests, by number; notifications are not numbered. -/
def State.requestOutcomes (s : State) : List (Option Outcome) :=
  (s.calls.filter fun c => c.limit.isSome).map Call.outcome?

def newlyResolved (before after : List (Option Outcome)) : List (Nat × Outcome) :=
  (List.range after.length).filterMap fun n =>
    match after[n]?.join, before[n]?.join with
    | some outcome, none => some (n, outcome)
    | _, _ => none

def State.order (s : State) (o : Order) : State :=
  s.attempt (.begin o.method o.params o.limit)

/-- Performs one step of a script up to the point where everything settles. -/
def ScriptStep.outside (step : ScriptStep) (w : World) : World :=
  let s := w.state
  let s :=
    match step.notify with
    | some o => (s.order o).callerTurn w.sink s.calls.length
    | none => s
  let s := step.send.foldl State.order s
  let s := if step.shutdownFirst then s.shutdown else s
  let s := step.route.foldl (fun s v => s.attempt (.route v)) s
  let sink := { w.sink with failing := step.failSink.or w.sink.failing }
  let s := if step.readerLeaves then s.attempt .leave else s
  let s := if step.shutdown then s.shutdown else s
  ⟨s, sink⟩

def ScriptStep.perform (step : ScriptStep) (w : World) : World :=
  let w := step.outside w
  let s := w.state.settle w.sink
  match step.advance with
  | some ms => ⟨(s.attempt (.tick ms)).settle w.sink, w.sink⟩
  | none => ⟨s, w.sink⟩

def Report.between (step : ScriptStep) (before after : State) : Report where
  notified := step.notify.bind fun _ => after.calls[before.calls.length]?.bind Call.outcome?
  sent := after.sent.drop before.sent.length
  forwarded := after.forwarded.drop before.forwarded.length
  resolved := newlyResolved before.requestOutcomes after.requestOutcomes
  closed := after.closed
  notices := after.log.drop before.log.length

def runScript (w : World) : List ScriptStep → List Report
  | [] => []
  | step :: rest =>
      let after := step.perform w
      .between step w.state after.state :: runScript after rest

end ConsoleTap.Exchange
