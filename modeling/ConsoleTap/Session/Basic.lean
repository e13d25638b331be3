import ConsoleTap.Exchange.Turn
import ConsoleTap.Session.Draft

/-!
# Sessions

A session ties four parties together by queues.  The receiver takes what arrives
on the channel and hands the frames to the exchange; the exchange's keeper
matches replies and passes the other frames on; the dispatcher makes their
printouts, fetching properties by calls of its own, and hands over their lines
in the order in which the frames arrived; and the runner waits for an end and
sees to it that everybody finishes.  Handles close the session from outside.

All of it is one value, `State`; `Session.Step` says which actions change it.

The receiver is `receive_loop`, the dispatcher `dispatch_loop`, the runner `run`;
a handle closes by `close`.
-/

namespace ConsoleTap.Session

open ConsoleTap.Json

/-- What comes in on the channel. -/
inductive Arrival where
  | frame (text : String)
  | failure (cause : TransportFault)
  | hangUp
deriving DecidableEq, Repr, Inhabited

/-- How far the runner has got. -/
inductive RunnerPhase where
  /-- Waiting for an end. -/
  | watching
  /-- Saw an end; somebody closes the exchange on its behalf. -/
  | shutting (how : Ending) (closer : Nat)
  /-- Waiting for the other parties to finish. -/
  | joining (how : Ending)
  | done (how : Ending)
deriving DecidableEq, Repr, Inhabited

/-- How far someone who closes the session has got. -/
inductive HandlePhase where
  /-- About to look whether the session is open. -/
  | asked
  /-- Found it open; about to shut the exchange. -/
  | admitted
  /-- Waiting for the exchange to be shut; then the channel is closed. -/
  | shutting (closer : Nat)
  | done
deriving DecidableEq, Repr, Inhabited

/-- A line that was handed over, and whether anybody was there to take it. -/
structure Emission where
  line : String
  delivered : Bool
deriving DecidableEq, Repr, Inhabited

/-- What a session is told when it starts. -/
structure Options where
  /-- Hops of property fetches for each value. -/
  maxDepth : Nat := 2
  /-- How long each fetch may take, in milliseconds. -/
  fetchTimeout : Nat := 2000
deriving DecidableEq, Repr, Inhabited

structure State where
  options : Options := {}
  core : Exchange.State := {}
  /-- What has arrived and was not yet received. -/
  inbound : List Arrival := []
  /-- Whether the target has hung up. -/
  hungUp : Bool := false
  receiving : Bool := true
  /-- How many of the frames passed on the dispatcher has taken. -/
  taken : Nat := 0
  /-- Whether the dispatcher still expects frames. -/
  expecting : Bool := true
  /-- The jobs in the making, in the order of their frames. -/
  jobs : List Job := []
  /-- Lines of a finished job that are still to be handed over. -/
  emitting : List String := []
  dispatching : Bool := true
  /-- The lines handed over, in order. -/
  emissions : List Emission := []
  outputGone : Bool := false
  runner : RunnerPhase := .watching
  handles : List HandlePhase := []
  /-- How often the channel was closed from this side. -/
  channelCloses : Nat := 0
deriving Inhabited

namespace State

/-- The frames that wait for the dispatcher. -/
def queue (s : State) : List Value := s.core.forwarded.drop s.taken

def note (s : State) (n : Notice) : State := { s with core := s.core.note n }

/-- How the session ended, if it did. -/
def ending? (s : State) : Option Ending :=
  match s.runner with
  | .done how => some how
  | _ => none

/-- The lines that somebody took. -/
def output (s : State) : List String :=
  (s.emissions.filter Emission.delivered).map Emission.line

def beginFetches (s : State) (handles : List String) : State :=
  { s with core := handles.foldl (fun core objectId =>
      core.attempt (.begin Target.getProperties (some (Target.propertiesParams objectId))
        (some s.options.fetchTimeout))) s.core }

end State
end ConsoleTap.Session
