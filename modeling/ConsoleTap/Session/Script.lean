import ConsoleTap.Session.Turn

/-!
# Scripted runs of a session

A script plays the target, the user and the reader of the lines.  Each of its
steps does some of the things they can do, in a fixed order, lets everything
settle, moves the clock if it wants to, and lets everything settle again.  What
became visible during a step is its report.
-/

namespace ConsoleTap.Session

open ConsoleTap.Exchange (Sink)
open ConsoleTap.Target (Command)

/-- What the world outside does in one step of a script, in this order. -/
structure ScriptStep where
  /-- Texts that arrive on the channel. -/
  push : List String := []
  pushFailure : Option TransportFault := none
  hangUp : Bool := false
  /-- The reader of the lines goes away. -/
  breakOutput : Bool := false
  /-- All writes fail from now on. -/
  failSink : Option TransportFault := none
  close : Bool := false
  advance : Option Nat := none
deriving Inhabited

/-- A session and the channel it writes to. -/
structure World where
  state : State := {}
  sink : Sink := {}
deriving Inhabited

/-- What became visible during a step. -/
structure Report where
  sent : List Command
  lines : List String
  alive : Bool
  sinkClosed : Bool
  ending : Option Ending
  notices : List Notice

/-- Does what the world outside does in a step before everything settles. -/
def ScriptStep.outside (step : ScriptStep) (w : World) : World :=
  let s := w.state
  let s := step.push.foldl (fun s text => s.attempt (.arrive (.frame text))) s
  let s := step.pushFailure.elim s fun cause => s.attempt (.arrive (.failure cause))
  let s := if step.hangUp then s.attempt (.arrive .hangUp) else s
  let s := if step.breakOutput then s.attempt .breakOutput else s
  let sink := { w.sink with failing := step.failSink.or w.sink.failing }
  let s := if step.close then (s.attempt .close).handleTurn sink s.handles.length else s
  ⟨s, sink⟩

def ScriptStep.perform (step : ScriptStep) (w : World) : World :=
  let w := step.outside w
  let s := w.state.settle w.sink
  match step.advance with
  | some ms => ⟨(s.attempt (.tick ms)).settle w.sink, w.sink⟩
  | none => ⟨s, w.sink⟩

def Report.between (before after : State) : Report where
  sent := after.core.sent.drop before.core.sent.length
  lines := after.output.drop before.output.length
  alive := !after.core.closed
  sinkClosed := decide (0 < after.channelCloses)
  ending := after.ending?
  notices := after.core.log.drop before.core.log.length

def runScript (w : World) : List ScriptStep → List Report
  | [] => []
  | step :: rest =>
      let after := step.perform w
      .between w.state after.state :: runScript after rest

end ConsoleTap.Session
