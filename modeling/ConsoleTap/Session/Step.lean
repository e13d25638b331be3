import ConsoleTap.Session.Basic

/-!
# The actions of a session

Every change of a session's state is one `Action`, of the world outside or of a
party.  As with the exchange, whose actions are among them, `step?` says what
an action does and where it can take place, and the order of actions is left
open: where two things are ready, either may happen first.

A session begins with `start`; the parties' actions are those of `run` and `join`,
of `receive_loop` with `parse_frame`, of `dispatch_loop`, and of `close`.
-/

namespace ConsoleTap.Session

open ConsoleTap.Json

inductive Action where
  | arrive (x : Arrival)
  | close
  /-- Nobody takes lines any more. -/
  | breakOutput
  | tick (ms : Nat)
  /-- A caller, a closer or the keeper of the exchange acts. -/
  | core (a : Exchange.Action)
  | receive
  /-- The receiver notices that the session is closed. -/
  | ceaseReceiving
  | take
  /-- The dispatcher learns that no more frames will come. -/
  | expectNone
  /-- The outcome of a call is put in its place. -/
  | grow (call : Nat)
  /-- The lines of the first job, which is finished, are ready to be handed over. -/
  | collect
  | emit
  /-- The dispatcher has nothing left to do. -/
  | ceaseDispatching
  | observe (how : Ending)
  | join
  | finish
  /-- Someone who closes the session acts; closing the channel may fail. -/
  | handle (n : Nat) (closeFault : Option TransportFault)
deriving Inhabited

namespace State

/-! ### The receiver -/

/-- Hands a text to the exchange; only a JSON object is a frame. -/
def receiveText (s : State) (text : String) : State :=
  match Json.read? text with
  | some (.object ms) => { s with core := s.core.attempt (.route (.object ms)) }
  | _ => s.note (.malformedFrame (Json.byteLength text.toList))

/-- Takes what has arrived: a frame, or the end of the channel. -/
def receiveArrival (s : State) : Arrival → State
  | .frame text => s.receiveText text
  | .failure .closed | .hangUp => { s.note .channelEnded with receiving := false }
  | .failure cause => { s.note (.channelFailed cause) with receiving := false }

/-! ### The dispatcher -/

/-- Takes a frame and begins its job. -/
def takeFrame (s : State) (frame : Value) : State :=
  let (job, handles) := Job.ofFrame s.options.maxDepth s.core.calls.length frame
  let s := (Print.frameNotices frame).foldl note s
  { s with taken := s.taken + 1, jobs := s.jobs ++ [job] }.beginFetches handles

/-- Puts the outcome of a call that is over in its place. -/
def growCall? (s : State) (n : Nat) : Option State :=
  match (s.core.calls[n]?).bind Exchange.Call.outcome?, s.jobs.findSome? (Job.fetch? n) with
  | some outcome, some fetch =>
      let growth := fetch.grow s.core.calls.length outcome
      let s := growth.notice.elim s s.note
      some ({ s with jobs := s.jobs.map (Job.fill n growth.part) }.beginFetches growth.handles)
  | _, _ => none

def collect? (s : State) : Option State :=
  match s.emitting, s.jobs with
  | [], job :: rest => job.lines?.map fun ls => { s with jobs := rest, emitting := ls }
  | _, _ => none

def emit? (s : State) : Option State :=
  match s.emitting with
  | [] => none
  | line :: rest =>
      let s := if s.outputGone then s.note .lineLost else s
      some { s with
        emitting := rest
        emissions := s.emissions ++ [⟨line, !s.outputGone⟩] }

/-! ### The runner -/

/-- Whether there is an end of that kind to be seen. -/
def canObserve (s : State) : Ending → Bool
  | .channelClosed => !s.receiving
  | .closeRequested => s.core.closed

def observe (s : State) (how : Ending) : State :=
  let s := s.note (.ending how)
  { s with
    runner := .shutting how s.core.closers.length
    core := s.core.attempt .ask }

def closerDone (s : State) (closer : Nat) : Bool := s.core.closers[closer]? == some .done

def allFinished (s : State) : Bool :=
  !s.receiving && s.core.keeper == .stopped && !s.dispatching

/-! ### Handles -/

def handleStep? (s : State) (n : Nat) (closeFault : Option TransportFault) : Option State :=
  match s.handles[n]? with
  | some .asked =>
      some { s with handles := s.handles.set n (if s.core.closed then .done else .admitted) }
  | some .admitted =>
      let s := s.note .closing
      some { s with
        handles := s.handles.set n (.shutting s.core.closers.length)
        core := s.core.attempt .ask }
  | some (.shutting closer) =>
      if s.closerDone closer then
        let s := closeFault.elim s fun cause => s.note (.closeFailed cause)
        some { s with
          handles := s.handles.set n .done
          channelCloses := s.channelCloses + 1 }
      else none
  | some .done | none => none

end State

/-- What an action does, where it can take place. -/
def step? (s : State) : Action → Option State
  | .arrive x =>
      some (if s.hungUp then s
        else { s with inbound := s.inbound ++ [x], hungUp := decide (x = .hangUp) })
  | .close => some { s with handles := s.handles ++ [.asked] }
  | .breakOutput => some { s with outputGone := true }
  | .tick ms => (Exchange.step? s.core (.tick ms)).map fun core => { s with core := core }
  | .core a =>
      if a.isInner then (Exchange.step? s.core a).map fun core => { s with core := core }
      else none
  | .receive =>
      match s.receiving, s.inbound with
      | true, x :: rest => some ({ s with inbound := rest }.receiveArrival x)
      | _, _ => none
  | .ceaseReceiving =>
      if s.receiving && s.core.closed then some { s with receiving := false } else none
  | .take =>
      match s.expecting, s.queue with
      | true, frame :: _ => some (s.takeFrame frame)
      | _, _ => none
  | .expectNone =>
      if s.expecting && s.queue.isEmpty && s.core.keeper == .stopped then
        some { s with expecting := false }
      else none
  | .grow n => s.growCall? n
  | .collect => s.collect?
  | .emit => s.emit?
  | .ceaseDispatching =>
      if s.dispatching && !s.expecting && s.jobs.isEmpty && s.emitting.isEmpty then
        some { s with dispatching := false }
      else none
  | .observe how =>
      if s.runner = .watching ∧ s.canObserve how then some (s.observe how) else none
  | .join =>
      match s.runner with
      | .shutting how closer =>
          if s.closerDone closer then some { s with runner := .joining how } else none
      | _ => none
  | .finish =>
      match s.runner with
      | .joining how => if s.allFinished then some { s with runner := .done how } else none
      | _ => none
  | .handle n closeFault => s.handleStep? n closeFault

/-- Whether an action belongs to a party, not to the world outside. -/
def Action.isInner : Action → Bool
  | .arrive _ | .close | .breakOutput | .tick _ => false
  | _ => true

def Step (s : State) (a : Action) (t : State) : Prop := step? s a = some t

/-- Performs actions in order; none may fail. -/
def run? (s : State) : List Action → Option State
  | [] => some s
  | a :: rest => (step? s a).bind fun t => run? t rest

/-- No party can act before the world outside does something. -/
def Settled (s : State) : Prop := ∀ a, a.isInner = true → step? s a = none

end ConsoleTap.Session
