import ConsoleTap.Exchange.Basic

/-!
# The actions of the exchange

Every change of the exchange's state is one `Action`: of the world outside
(calls begin, frames arrive, the clock moves), of a caller, of a closer, or of
the keeper.  `step?` says what an action does in a state, and answers `none`
where it cannot take place.  The order of actions is nobody's choice here: what
holds of every sequence of steps holds in whatever order the parties run.

A caller's action carries the channel's verdict, which counts only where the
action is a write.

A caller acts in `send` or `notify`, a closer in `shutdown`, and the keeper in
`run_actor` with `route_frame` and `expire`; one action is what they do between
two points at which others can see or change what they share.
-/

namespace ConsoleTap.Exchange

open ConsoleTap.Json ConsoleTap.Target

/-- Something that happens. -/
inductive Action where
  | begin (method : String) (params : Option Value) (limit : Option Nat)
  /-- Somebody asks for the session to be closed. -/
  | ask
  | route (frame : Value)
  /-- The reader of forwarded frames goes away. -/
  | leave
  | tick (ms : Nat)
  | caller (n : Nat) (refusal : Option TransportFault)
  | closer (n : Nat)
  | handle
  /-- The keeper gives up on requests that are overdue. -/
  | expire
  /-- The keeper, having taken a shutdown, closes its mailbox. -/
  | shut
  /-- The keeper discards a message left in the closed mailbox. -/
  | discard
  /-- The keeper cancels what is pending and stops. -/
  | stop
deriving Inhabited

namespace State

/-! ### Callers -/

def enqueue (s : State) (n : Nat) (c : Call) (id limit : Nat) : State :=
  if s.mailboxOpen then
    (s.post (.register ⟨id, n, c.method, s.now, s.now + limit⟩)).setPhase n (.registered id)
  else s.setPhase n (.done (.error .cancelled))

/-- Writes the command of a call, and goes on as the channel's verdict demands. -/
def write (s : State) (n : Nat) (c : Call) (id : Nat) (refusal : Option TransportFault)
    (accepted : Phase) (refused : TransportFault → Phase) : State :=
  (s.recordWrite id c refusal).setPhase n
    (match refusal with
    | none => accepted
    | some cause => refused cause)

def callerStep? (s : State) (n : Nat) (refusal : Option TransportFault) : Option State :=
  match s.calls[n]? with
  | none => none
  | some c =>
      match c.phase with
      | .started =>
          some (s.setPhase n (if s.closed then .done (.error .cancelled) else .admitted))
      | .admitted => some ({ s with nextId := s.nextId + 1 }.setPhase n (.numbered s.nextId))
      | .numbered id =>
          match c.limit with
          | some limit => some (s.enqueue n c id limit)
          | none =>
              some (s.write n c id refusal (.done (.ok (.integer id)))
                fun cause => .done (.error (.transport cause)))
      | .registered id => some (s.write n c id refusal (.waiting id) (.refused id))
      | .refused id cause =>
          some ((s.post (.forget id)).setPhase n (.done (.error (.transport cause))))
      | .waiting _ => c.word.map fun outcome => s.setPhase n (.done outcome)
      | .done _ => none

/-! ### Closers -/

def closerStep? (s : State) (n : Nat) : Option State :=
  match s.closers[n]? with
  | some .asked =>
      some { s with closers := s.closers.set n (if s.closed then .done else .admitted) }
  | some .admitted => some { s with closed := true, closers := s.closers.set n .flagged }
  | some .flagged => some { s.post .shutdown with closers := s.closers.set n .done }
  | some .done | none => none

/-! ### The keeper -/

/-- Takes a frame: the reply of a pending request resolves it, and any other
    frame is passed on. -/
def takeFrame (s : State) (frame : Value) : State :=
  match (replyId? frame).bind fun id => s.pending.find? fun p => p.id = id with
  | some p =>
      ({ s with pending := without s.pending p.id }.note
        (.answered p.id p.method (.ofMillis (s.now - p.begunAt)))).giveWord p.call
          (Outcome.ofReply frame)
  | none =>
      if s.readerGone then s.note .frameWithoutReader
      else { s with forwarded := s.forwarded ++ [frame] }

def takeMessage (s : State) : Message → State
  | .register p =>
      { s with pending := without s.pending p.id ++ [p] }.note
        (.tracking p.id p.method)
  | .forget id => { s with pending := without s.pending id }
  | .frame v => s.takeFrame v
  | .shutdown => { s with keeper := .leaving }

def giveUp (s : State) (p : Pending) : State :=
  ({ s with pending := without s.pending p.id }.note
    (.timedOut p.id p.method (.ofMillis (s.now - p.begunAt)))).giveWord p.call
      (.error (timeoutFault p.method))

/-- Gives up on every request that is overdue. -/
def expireAll (s : State) : State :=
  (s.pending.filter fun p => decide (p.deadline ≤ s.now)).foldl giveUp s

/-- Discards a message: a registration is answered with a cancellation. -/
def discardMessage (s : State) : Message → State
  | .register p => s.giveWord p.call (.error .cancelled)
  | .forget _ | .frame _ | .shutdown => s

/-- Cancels every pending request and stops. -/
def cancelAll (s : State) : State :=
  let s := if s.pending.isEmpty then s else s.note (.cancelling s.pending.length)
  let s := s.pending.foldl (fun s p => s.giveWord p.call (.error .cancelled)) s
  { s with pending := [], keeper := .stopped }

end State

/-! ### All actions -/

/-- What an action does, where it can take place. -/
def step? (s : State) : Action → Option State
  | .begin method params limit =>
      some { s with calls := s.calls ++ [{ method := method, params := params, limit := limit }] }
  | .ask => some { s with closers := s.closers ++ [.asked] }
  | .route frame =>
      some (if s.mailboxOpen then s.post (.frame frame) else s.note .frameAfterStop)
  | .leave => some { s with readerGone := true }
  | .tick ms => some { s with now := s.now + ms }
  | .caller n refusal => s.callerStep? n refusal
  | .closer n => s.closerStep? n
  | .handle =>
      match s.keeper, s.mailbox with
      | .running, m :: rest => some ({ s with mailbox := rest }.takeMessage m)
      | _, _ => none
  | .expire => if s.keeper = .running ∧ s.hasOverdue then some s.expireAll else none
  | .shut => if s.keeper = .leaving then some { s with keeper := .draining } else none
  | .discard =>
      match s.keeper, s.mailbox with
      | .draining, m :: rest => some ({ s with mailbox := rest }.discardMessage m)
      | _, _ => none
  | .stop =>
      match s.keeper, s.mailbox with
      | .draining, [] => some s.cancelAll
      | _, _ => none

/-- Whether an action belongs to a party, not to the world outside. -/
def Action.isInner : Action → Bool
  | .begin .. | .ask | .route _ | .leave | .tick _ => false
  | .caller .. | .closer _ | .handle | .expire | .shut | .discard | .stop => true

def Step (s : State) (a : Action) (t : State) : Prop := step? s a = some t

/-- Performs actions in order; none may fail. -/
def run? (s : State) : List Action → Option State
  | [] => some s
  | a :: rest => (step? s a).bind fun t => run? t rest

/-- No party can act before the world outside does something. -/
def Settled (s : State) : Prop := ∀ a, a.isInner = true → step? s a = none

end ConsoleTap.Exchange
