import ConsoleTap.Session.Step

/-!
# Turns of a session

`settle` gives turns to the parties of a session in a fixed order until nobody
can act: the receiver takes what has arrived, the keeper empties its mailbox, the
runner looks for an end, and the dispatcher first puts in their places the
outcomes that have come, in the order in which they came, then takes the new
frames, and hands over the lines of what is finished.  A job that gets something
is looked through from its beginning, so its new fetches are sent in the order
of its tree.

A round may leave work for another one: calls begun in it are registered in the
next, and an end seen in it lets the others finish.  Four rounds are enough.
-/

namespace ConsoleTap.Session

open ConsoleTap.Exchange (Sink)

namespace State

def attempt (s : State) (a : Action) : State := (step? s a).getD s

def onCore (s : State) (f : Exchange.State → Exchange.State) : State :=
  { s with core := f s.core }

def sinkNow (s : State) (sink : Sink) : Sink := { sink with closed := decide (0 < s.channelCloses) }

/-! ### Starting -/

/-- Writes the commands that switch the target's events on, until one fails. -/
def activate (sink : Sink) (core : Exchange.State) :
    List String → Exchange.State × Option Fault
  | [] => (core, none)
  | method :: rest =>
      let n := core.calls.length
      let core := (core.attempt (.begin method none none)).callerTurn sink n
      match core.calls[n]?.bind Exchange.Call.outcome? with
      | some (.error cause) => (core.shutdown, some cause)
      | _ => activate sink core rest

/-- Starts a session over an open channel. A session that could not be started
    leaves its exchange, shut down, and the fault. -/
def start (options : Options) (sink : Sink) : Except (Fault × Exchange.State) State :=
  match activate sink {} Target.openingMethods with
  | (core, some cause) => .error (cause, core)
  | (core, none) => .ok { options := options, core := core.note .activated }

/-! ### Turns of the parties -/

/-- The receiver takes everything that has arrived, unless the session is closed. -/
def receiverTurn (s : State) : State :=
  s.inbound.foldl (fun s _ => if s.core.closed then s else s.attempt .receive)
    s |>.attempt .ceaseReceiving

/-- The keeper empties its mailbox. -/
def keeperTurn (s : State) : State := s.onCore Exchange.State.keeperTurns

/-- The runner looks for an end; a session that was closed ends for that reason. -/
def runnerTurn (s : State) : State :=
  let closer := s.core.closers.length
  let how := if s.core.closed then .closeRequested else .channelClosed
  let s := s.attempt (.observe how)
  let s := s.onCore (Exchange.State.closerTurn closer)
  (s.attempt .join).attempt .finish

/-- Lets a caller of the dispatcher act, and puts the outcome of its call in its
    place if there is one; then the same for the calls that this begins. -/
def serve (sink : Sink) : (hops : Nat) → State → (call : Nat) → State
  | 0, s, _ => s
  | hops + 1, s, n =>
      let s := s.onCore (Exchange.State.callerTurn (s.sinkNow sink) n)
      let grown := s.attempt (.grow n)
      (List.range' s.core.calls.length (grown.core.calls.length - s.core.calls.length)).foldl
        (serve sink hops) grown

/-- Looks through a job, in the order of its calls. -/
def serveJob (sink : Sink) (s : State) (job : Job) : State :=
  job.calls.foldl (serve sink (s.options.maxDepth + 1)) s

/-- Looks through the jobs for which outcomes have come, in the order of the
    outcomes. -/
def serveAnswered (sink : Sink) (s : State) : State :=
  s.core.answered.foldl (fun s n =>
    match s.jobs.find? (fun job => (job.fetch? n).isSome) with
    | some job => s.serveJob sink job
    | none => s) s

/-- Takes a frame and looks through its job. -/
def takeTurn (sink : Sink) (s : State) : State :=
  let taken := s.attempt .take
  match taken.jobs.getLast? with
  | some job => if s.taken < taken.taken then taken.serveJob sink job else taken
  | none => taken

/-- Hands over the lines of the first job, if it is finished. -/
def emitTurn (s : State) : State :=
  let s := s.attempt .collect
  s.emitting.foldl (fun s _ => s.attempt .emit) s

def dispatcherTurn (sink : Sink) (s : State) : State :=
  let s := s.serveAnswered sink
  let s := s.queue.foldl (fun s _ => s.takeTurn sink) s
  let s := s.jobs.foldl (fun s _ => s.emitTurn) s
  (s.attempt .expectNone).attempt .ceaseDispatching

/-- Someone who closes the session goes all the way. -/
def handleTurn (sink : Sink) (n : Nat) (s : State) : State :=
  let closer := s.core.closers.length
  let s := (s.attempt (.handle n none)).attempt (.handle n none)
  let s := s.onCore (Exchange.State.closerTurn closer)
  s.attempt (.handle n sink.closeFault)

/-! ### Settling -/

/-- One turn of every party. -/
def round (sink : Sink) (s : State) : State :=
  ((s.receiverTurn.keeperTurn).runnerTurn).dispatcherTurn sink

/-- Turns of all parties until nobody can act. -/
def settle (sink : Sink) (s : State) : State :=
  (List.range 4).foldl (fun s _ => s.round sink) s

end State
end ConsoleTap.Session
