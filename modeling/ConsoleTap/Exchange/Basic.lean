import ConsoleTap.Log
import ConsoleTap.Target.Message

/-!
# Requests and replies

The exchange gives each request an id, hands it to the channel and resolves it
once: by the reply with its id, by its deadline, or because the session closed.
This file holds the parties and what lies between them.

* A *call* is one request or notification on its way.  Its caller goes through
  the phases of `Phase`, one atomic action at a time.
* The *keeper* is the one party that owns the table of pending requests.  All
  others reach it through its mailbox, which it empties in order.
* A *closer* is someone who closes the session.

All of it is one value, `State`; `Exchange.Step` says which actions change it.

The exchange is `Correlator`, its mailbox the queue of its commands, and the
keeper's table the one that `run_actor` holds.  `Outcome.ofReply` is
`reply_outcome`.
-/

namespace ConsoleTap.Exchange

open ConsoleTap.Json ConsoleTap.Target

/-- How a call ends. A notification that was written ends with its own id. -/
abbrev Outcome := Except Fault Value

/-! ### What a reply means -/

/-- The outcome that a reply stands for: an error whenever it has an `error`
    member, of whatever shape, and its `result` otherwise. -/
def Outcome.ofReply (frame : Value) : Outcome :=
  match frame.get? "error" with
  | some e =>
      match readReplyError e with
      | .ok r => .error (.protocol r.code r.message)
      | .error _ => .error (.protocol 0 e.compact)
  | none => .ok ((frame.get? "result").getD .null)

/-- The id of the request that a frame answers, if any. -/
def replyId? (frame : Value) : Option Nat := (frame.get? "id").bind Value.asNat?

/-- The fault of a request that was not answered in time. -/
def timeoutFault (method : String) : Fault := .timeout ("Request " ++ method ++ " timed out")

/-! ### Callers -/

/-- How far a caller has got. -/
inductive Phase where
  /-- About to look whether the session is open. -/
  | started
  /-- Found the session open; about to draw an id. -/
  | admitted
  /-- Has an id; about to have its reply tracked, or to write if nobody waits for one. -/
  | numbered (id : Nat)
  /-- The registration is in the mailbox; about to write. -/
  | registered (id : Nat)
  /-- The write failed; about to have the registration taken back. -/
  | refused (id : Nat) (cause : TransportFault)
  /-- Written; waiting for the keeper's word. -/
  | waiting (id : Nat)
  /-- Over. -/
  | done (outcome : Outcome)
deriving Inhabited

/-- A request or notification. -/
structure Call where
  method : String
  params : Option Value
  /-- How long to wait for the reply, in milliseconds; a notification has none. -/
  limit : Option Nat
  phase : Phase := .started
  /-- The keeper's word to the caller, once it has been given. -/
  word : Option Outcome := none
deriving Inhabited

def Call.outcome? (c : Call) : Option Outcome :=
  match c.phase with
  | .done outcome => some outcome
  | _ => none

def Call.isOver (c : Call) : Bool := c.outcome?.isSome

/-! ### Mailbox and table -/

/-- A request whose reply is awaited. -/
structure Pending where
  id : Nat
  call : Nat
  method : String
  begunAt : Nat
  deadline : Nat
deriving DecidableEq, Repr, Inhabited

def without (ps : List Pending) (id : Nat) : List Pending := ps.filter fun p => p.id ≠ id

inductive Message where
  | register (request : Pending)
  | forget (id : Nat)
  | frame (value : Value)
  | shutdown
deriving DecidableEq, Repr, Inhabited

/-- How far the keeper has got. -/
inductive KeeperPhase where
  | running
  /-- Took a shutdown; the mailbox still accepts messages. -/
  | leaving
  /-- The mailbox is closed; what is left in it is being discarded. -/
  | draining
  | stopped
deriving DecidableEq, Repr, Inhabited

/-- How far someone who closes the session has got. -/
inductive CloserPhase where
  /-- About to look whether the session is open. -/
  | asked
  /-- Found it open; about to mark it closed. -/
  | admitted
  /-- Marked it closed; about to tell the keeper. -/
  | flagged
  | done
deriving DecidableEq, Repr, Inhabited

/-- A command handed to the channel, and why the channel refused it if it did. -/
structure Write where
  command : Command
  refusal : Option TransportFault
deriving DecidableEq, Repr, Inhabited

/-! ### The whole -/

/-- The exchange with its callers. Time is in milliseconds. Histories grow at
    the end and are never changed otherwise: `writes`, `forwarded`, `answered`
    and `log`. -/
structure State where
  now : Nat := 0
  closed : Bool := false
  /-- The id that is drawn next. It grows without end here, while the program counts in 64
      bits and would come round to zero. The two agree for the first `2 ^ 64 - 1` draws, a
      bound that only the theorem on fresh ids has as a condition. -/
  nextId : Nat := 1
  calls : List Call := []
  closers : List CloserPhase := []
  mailbox : List Message := []
  pending : List Pending := []
  keeper : KeeperPhase := .running
  /-- Whether anyone still reads forwarded frames. -/
  readerGone : Bool := false
  /-- The frames that resolved no request, in order. -/
  forwarded : List Value := []
  /-- The calls to which the keeper gave its word, in order. -/
  answered : List Nat := []
  writes : List Write := []
  log : List Notice := []
deriving Inhabited

namespace State

def mailboxOpen (s : State) : Bool :=
  match s.keeper with
  | .running | .leaving => true
  | .draining | .stopped => false

/-- Puts a message into the mailbox; a closed one swallows it. -/
def post (s : State) (m : Message) : State :=
  if s.mailboxOpen then { s with mailbox := s.mailbox ++ [m] } else s

def note (s : State) (n : Notice) : State := { s with log := s.log ++ [n] }

def updateCall (s : State) (n : Nat) (f : Call → Call) : State :=
  { s with calls := s.calls.modify n f }

def setPhase (s : State) (n : Nat) (phase : Phase) : State :=
  s.updateCall n fun c => { c with phase := phase }

def giveWord (s : State) (n : Nat) (outcome : Outcome) : State :=
  { s.updateCall n (fun c => { c with word := some outcome }) with
    answered := s.answered ++ [n] }

def recordWrite (s : State) (id : Nat) (c : Call) (refusal : Option TransportFault) : State :=
  { s with writes := s.writes ++ [⟨⟨id, c.method, c.params⟩, refusal⟩] }

def sent (s : State) : List Command :=
  (s.writes.filter fun w => w.refusal.isNone).map Write.command

/-- Whether some request has reached its deadline. -/
def hasOverdue (s : State) : Bool := s.pending.any fun p => decide (p.deadline ≤ s.now)

end State
end ConsoleTap.Exchange
