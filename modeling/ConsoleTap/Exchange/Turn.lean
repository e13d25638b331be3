import ConsoleTap.Exchange.Step

/-!
# Turns

A party that gets its turn goes on until it has to wait.  A turn of a caller or
a closer is a few actions in a row, a turn of the keeper one message, one round
of expiry, or the whole way out after a shutdown.  `settle` gives turns in a
fixed order until nobody can act: callers, the keeper until its mailbox is
empty and nothing is overdue, and callers once more.

What the channel says to a write is up to a `Sink`.

A turn is what one of these functions does between two awaits.
-/

namespace ConsoleTap.Exchange

/-- The outgoing side of a channel. -/
structure Sink where
  /-- The writes that fail from the one of that number on, counted from one. -/
  failFrom : Option (Nat × TransportFault) := none
  /-- All writes fail from now on. -/
  failing : Option TransportFault := none
  closed : Bool := false
  /-- What closing the channel reports. -/
  closeFault : Option TransportFault := none
deriving Repr, Inhabited

def Sink.verdict (sink : Sink) (writes : Nat) : Option TransportFault :=
  if sink.closed then some .closed
  else
    match sink.failing, sink.failFrom with
    | some cause, _ => some cause
    | none, some (n, cause) => if n ≤ writes + 1 then some cause else none
    | none, none => none

namespace State

/-- Performs an action, if it can take place. -/
def attempt (s : State) (a : Action) : State := (step? s a).getD s

def advanceCaller (sink : Sink) (n : Nat) (s : State) : State :=
  s.attempt (.caller n (sink.verdict s.writes.length))

/-- A turn of a caller: from its beginning to the wait for a reply, or from the
    reply to the end, is at most five actions. -/
def callerTurn (sink : Sink) (n : Nat) (s : State) : State :=
  (List.range 5).foldl (fun s _ => s.advanceCaller sink n) s

def closerTurn (n : Nat) (s : State) : State :=
  (List.range 3).foldl (fun s _ => s.attempt (.closer n)) s

/-- A turn of every caller, in the order in which the calls were begun. -/
def callerTurns (sink : Sink) (s : State) : State :=
  (List.range s.calls.length).foldl (fun s n => s.callerTurn sink n) s

def keeperExit (s : State) : State :=
  let s := s.attempt .shut
  let s := s.mailbox.foldl (fun s _ => s.attempt .discard) s
  s.attempt .stop

/-- A turn of the keeper: a message, or a round of expiry if there is none. -/
def keeperTurn (s : State) : State :=
  if s.mailbox.isEmpty then s.attempt .expire
  else
    let s := s.attempt .handle
    if s.keeper = .leaving then s.keeperExit else s

/-- Turns of the keeper until it has to wait. -/
def keeperTurns (s : State) : State :=
  (List.range (s.mailbox.length + 1)).foldl (fun s _ => s.keeperTurn) s

/-- Turns of all parties until nobody can act. -/
def settle (sink : Sink) (s : State) : State :=
  ((s.callerTurns sink).keeperTurns).callerTurns sink

/-- Somebody closes the session and gets a turn at once. -/
def shutdown (s : State) : State := (s.attempt .ask).closerTurn s.closers.length

end State
end ConsoleTap.Exchange
