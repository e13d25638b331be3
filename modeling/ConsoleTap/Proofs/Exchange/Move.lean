import ConsoleTap.Exchange.Step
import ConsoleTap.Proofs.Run

/-!
# The moves of the exchange

`step?` decides what an action does by looking at the party's progress.  `Move`
lists the cases once, each with its guard and the state it leads to, and
`move_of_step` says that there are no others.  Whatever is proved of all runs is
proved by going through the moves.

The keeper gives its word to several callers at once when requests expire or are
cancelled; `tell` is that, and the equations for `expireAll` and `cancelAll`
reduce both to it.
-/

namespace ConsoleTap.Exchange

open ConsoleTap.Json ConsoleTap.Target

/-! ### Words to several callers -/

/-- Gives the keeper's word to callers, in order. -/
def tell (calls : List Call) (words : List (Nat × Outcome)) : List Call :=
  words.foldl (fun calls w => calls.modify w.1 fun c => { c with word := some w.2 }) calls

@[simp] theorem tell_nil (calls : List Call) : tell calls [] = calls := rfl

theorem tell_cons (calls : List Call) (w : Nat × Outcome) (words : List (Nat × Outcome)) :
    tell calls (w :: words) =
      tell (calls.modify w.1 fun c => { c with word := some w.2 }) words := rfl

@[simp] theorem length_tell (calls : List Call) (words : List (Nat × Outcome)) :
    (tell calls words).length = calls.length := by
  induction words generalizing calls with
  | nil => rfl
  | cons w words ih => rw [tell_cons, ih, List.length_modify]

theorem getElem?_tell_of_not_mem {calls : List Call} {words : List (Nat × Outcome)} {n : Nat}
    (hn : n ∉ words.map Prod.fst) : (tell calls words)[n]? = calls[n]? := by
  induction words generalizing calls with
  | nil => rfl
  | cons w words ih =>
      simp only [List.map_cons, List.mem_cons, not_or] at hn
      rw [tell_cons, ih hn.2, List.getElem?_modify_ne _ _ (Ne.symm hn.1)]

theorem getElem?_tell_of_mem {calls : List Call} {words : List (Nat × Outcome)} {n : Nat}
    {o : Outcome} (hnodup : (words.map Prod.fst).Nodup) (hmem : (n, o) ∈ words) :
    (tell calls words)[n]? = calls[n]?.map fun c => { c with word := some o } := by
  induction words generalizing calls with
  | nil => simp at hmem
  | cons w words ih =>
      simp only [List.map_cons, List.nodup_cons] at hnodup
      rw [tell_cons]
      rcases List.mem_cons.mp hmem with heq | hrest
      · subst heq
        rw [getElem?_tell_of_not_mem hnodup.1, List.getElem?_modify_eq]
        rfl
      · have hne : w.1 ≠ n := by
          intro heq
          exact hnodup.1 (heq ▸ List.mem_map_of_mem (f := Prod.fst) hrest)
        rw [ih hnodup.2 hrest, List.getElem?_modify_ne _ _ hne]

theorem tell_frame {calls : List Call} {words : List (Nat × Outcome)} {n : Nat} {c' : Call}
    (hcall : (tell calls words)[n]? = some c') :
    ∃ c, calls[n]? = some c ∧ c' = { c with word := c'.word } := by
  induction words generalizing calls with
  | nil => exact ⟨c', hcall, rfl⟩
  | cons w words ih =>
      rw [tell_cons] at hcall
      obtain ⟨c, hc, heq⟩ := ih hcall
      rw [List.getElem?_modify] at hc
      obtain ⟨d, hd, hdc⟩ := Option.map_eq_some_iff.mp hc
      refine ⟨d, hd, ?_⟩
      rw [heq, ← hdc]
      split <;> rfl

/-! ### What the keeper's larger actions amount to -/

namespace State

/-- The requests that have reached their deadline. -/
def overdue (s : State) : List Pending := s.pending.filter fun p => decide (p.deadline ≤ s.now)

/-- What the keeper says to the callers of requests that ran out of time. -/
def timeouts (ps : List Pending) : List (Nat × Outcome) :=
  ps.map fun p => (p.call, .error (timeoutFault p.method))

/-- What the keeper says to the callers of requests that are cancelled. -/
def cancellations (ps : List Pending) : List (Nat × Outcome) :=
  ps.map fun p => (p.call, .error .cancelled)

@[simp] theorem map_fst_timeouts (ps : List Pending) :
    (timeouts ps).map Prod.fst = ps.map Pending.call := by
  simp [timeouts, Function.comp_def]

@[simp] theorem map_fst_cancellations (ps : List Pending) :
    (cancellations ps).map Prod.fst = ps.map Pending.call := by
  simp [cancellations, Function.comp_def]

/-- The requests but those with the ids of others. -/
def withoutAll (qs ps : List Pending) : List Pending :=
  ps.foldl (fun qs p => without qs p.id) qs

theorem mem_withoutAll {qs ps : List Pending} {q : Pending} :
    q ∈ withoutAll qs ps ↔ q ∈ qs ∧ ∀ p ∈ ps, q.id ≠ p.id := by
  induction ps generalizing qs with
  | nil => simp [withoutAll]
  | cons p ps ih =>
      rw [withoutAll, List.foldl_cons, ← withoutAll, ih]
      simp only [without, List.mem_filter, decide_eq_true_eq, List.forall_mem_cons, and_assoc]

theorem withoutAll_sublist (qs ps : List Pending) : List.Sublist (withoutAll qs ps) qs := by
  induction ps generalizing qs with
  | nil => exact List.Sublist.refl qs
  | cons p ps ih => exact (ih (without qs p.id)).trans List.filter_sublist

theorem foldl_giveUp (ps : List Pending) (s : State) :
    ps.foldl giveUp s =
      { s with
        pending := withoutAll s.pending ps
        calls := tell s.calls (timeouts ps)
        answered := s.answered ++ ps.map Pending.call
        log := s.log ++ ps.map fun p =>
          .timedOut p.id p.method (.ofMillis (s.now - p.begunAt)) } := by
  induction ps generalizing s with
  | nil => simp [withoutAll, timeouts]
  | cons p ps ih =>
      rw [List.foldl_cons, ih]
      simp [giveUp, giveWord, updateCall, note, withoutAll, timeouts, tell_cons]

theorem expireAll_eq (s : State) :
    s.expireAll =
      { s with
        pending := withoutAll s.pending s.overdue
        calls := tell s.calls (timeouts s.overdue)
        answered := s.answered ++ s.overdue.map Pending.call
        log := s.log ++ s.overdue.map fun p =>
          .timedOut p.id p.method (.ofMillis (s.now - p.begunAt)) } :=
  foldl_giveUp s.overdue s

theorem foldl_cancel (ps : List Pending) (s : State) :
    ps.foldl (fun s p => s.giveWord p.call (.error .cancelled)) s =
      { s with
        calls := tell s.calls (cancellations ps)
        answered := s.answered ++ ps.map Pending.call } := by
  induction ps generalizing s with
  | nil => simp [cancellations]
  | cons p ps ih =>
      rw [List.foldl_cons, ih]
      simp [giveWord, updateCall, cancellations, tell_cons]

theorem cancelAll_eq (s : State) :
    s.cancelAll =
      { s with
        pending := []
        keeper := .stopped
        calls := tell s.calls (cancellations s.pending)
        answered := s.answered ++ s.pending.map Pending.call
        log := s.log ++ if s.pending.isEmpty then [] else [.cancelling s.pending.length] } := by
  unfold cancelAll
  by_cases hempty : s.pending.isEmpty
  · simp only [hempty, if_true, foldl_cancel, List.append_nil]
  · simp only [hempty, foldl_cancel, note]
    rfl

/-- The pending request that a frame answers. -/
def awaited? (s : State) (frame : Value) : Option Pending :=
  (replyId? frame).bind fun id => s.pending.find? fun p => p.id = id

theorem awaited?_eq_some {s : State} {frame : Value} {p : Pending}
    (h : s.awaited? frame = some p) : p ∈ s.pending ∧ replyId? frame = some p.id := by
  obtain ⟨id, hid, hfind⟩ := Option.bind_eq_some_iff.mp h
  have hp : p.id = id := by simpa using List.find?_some hfind
  exact ⟨List.mem_of_find?_eq_some hfind, by rw [hid, hp]⟩

theorem awaited?_eq_none {s : State} {frame : Value} (h : s.awaited? frame = none)
    {p : Pending} (hp : p ∈ s.pending) : replyId? frame ≠ some p.id := by
  intro hid
  simp only [awaited?, hid, Option.bind_some, List.find?_eq_none, decide_eq_true_eq] at h
  exact h p hp rfl

end State

/-! ### The moves -/

/-- What an action can do in a state: the guard of each case, and where it leads. -/
inductive Move (s : State) : Action → State → Prop where
  | begin (method : String) (params : Option Value) (limit : Option Nat) :
      Move s (.begin method params limit)
        { s with calls := s.calls ++ [{ method := method, params := params, limit := limit }] }
  | ask : Move s .ask { s with closers := s.closers ++ [.asked] }
  | route (frame : Value) (hopen : s.mailboxOpen = true) :
      Move s (.route frame) { s with mailbox := s.mailbox ++ [.frame frame] }
  | routeLate (frame : Value) (hshut : s.mailboxOpen = false) :
      Move s (.route frame) (s.note .frameAfterStop)
  | leave : Move s .leave { s with readerGone := true }
  | tick (ms : Nat) : Move s (.tick ms) { s with now := s.now + ms }
  | letIn {n : Nat} {c : Call} {refusal : Option TransportFault} (hcall : s.calls[n]? = some c)
      (hphase : c.phase = .started) (hclosed : s.closed = false) :
      Move s (.caller n refusal) (s.setPhase n .admitted)
  | turnAway {n : Nat} {c : Call} {refusal : Option TransportFault}
      (hcall : s.calls[n]? = some c) (hphase : c.phase = .started) (hclosed : s.closed = true) :
      Move s (.caller n refusal) (s.setPhase n (.done (.error .cancelled)))
  | draw {n : Nat} {c : Call} {refusal : Option TransportFault} (hcall : s.calls[n]? = some c)
      (hphase : c.phase = .admitted) :
      Move s (.caller n refusal)
        ({ s with nextId := s.nextId + 1 }.setPhase n (.numbered s.nextId))
  | register {n id limit : Nat} {c : Call} {refusal : Option TransportFault}
      (hcall : s.calls[n]? = some c) (hphase : c.phase = .numbered id)
      (hlimit : c.limit = some limit) (hopen : s.mailboxOpen = true) :
      Move s (.caller n refusal)
        ({ s with
            mailbox := s.mailbox ++ [Message.register ⟨id, n, c.method, s.now, s.now + limit⟩]
          }.setPhase n (.registered id))
  | registerLate {n id limit : Nat} {c : Call} {refusal : Option TransportFault}
      (hcall : s.calls[n]? = some c) (hphase : c.phase = .numbered id)
      (hlimit : c.limit = some limit) (hshut : s.mailboxOpen = false) :
      Move s (.caller n refusal) (s.setPhase n (.done (.error .cancelled)))
  | notify {n id : Nat} {c : Call} (hcall : s.calls[n]? = some c)
      (hphase : c.phase = .numbered id) (hlimit : c.limit = none) :
      Move s (.caller n none)
        ((s.recordWrite id c none).setPhase n (.done (.ok (.integer id))))
  | notifyRefused {n id : Nat} {c : Call} {cause : TransportFault} (hcall : s.calls[n]? = some c)
      (hphase : c.phase = .numbered id) (hlimit : c.limit = none) :
      Move s (.caller n (some cause))
        ((s.recordWrite id c (some cause)).setPhase n (.done (.error (.transport cause))))
  | write {n id : Nat} {c : Call} (hcall : s.calls[n]? = some c)
      (hphase : c.phase = .registered id) :
      Move s (.caller n none) ((s.recordWrite id c none).setPhase n (.waiting id))
  | writeRefused {n id : Nat} {c : Call} {cause : TransportFault} (hcall : s.calls[n]? = some c)
      (hphase : c.phase = .registered id) :
      Move s (.caller n (some cause))
        ((s.recordWrite id c (some cause)).setPhase n (.refused id cause))
  | withdraw {n id : Nat} {c : Call} {cause : TransportFault} {refusal : Option TransportFault}
      (hcall : s.calls[n]? = some c) (hphase : c.phase = .refused id cause) :
      Move s (.caller n refusal)
        ((s.post (.forget id)).setPhase n (.done (.error (.transport cause))))
  | learn {n id : Nat} {c : Call} {outcome : Outcome} {refusal : Option TransportFault}
      (hcall : s.calls[n]? = some c) (hphase : c.phase = .waiting id)
      (hword : c.word = some outcome) :
      Move s (.caller n refusal) (s.setPhase n (.done outcome))
  | look {n : Nat} (hcloser : s.closers[n]? = some .asked) :
      Move s (.closer n)
        { s with closers := s.closers.set n (if s.closed then .done else .admitted) }
  | flag {n : Nat} (hcloser : s.closers[n]? = some .admitted) :
      Move s (.closer n) { s with closed := true, closers := s.closers.set n .flagged }
  | announce {n : Nat} (hcloser : s.closers[n]? = some .flagged) :
      Move s (.closer n) { s.post .shutdown with closers := s.closers.set n .done }
  | takeRequest {p : Pending} {rest : List Message} (hkeeper : s.keeper = .running)
      (hmail : s.mailbox = .register p :: rest) :
      Move s .handle
        ({ s with mailbox := rest, pending := without s.pending p.id ++ [p] }.note
          (.tracking p.id p.method))
  | takeForget {id : Nat} {rest : List Message} (hkeeper : s.keeper = .running)
      (hmail : s.mailbox = .forget id :: rest) :
      Move s .handle { s with mailbox := rest, pending := without s.pending id }
  | takeReply {frame : Value} {p : Pending} {rest : List Message} (hkeeper : s.keeper = .running)
      (hmail : s.mailbox = .frame frame :: rest) (hreply : s.awaited? frame = some p) :
      Move s .handle
        { s with
          mailbox := rest
          pending := without s.pending p.id
          calls := tell s.calls [(p.call, Outcome.ofReply frame)]
          answered := s.answered ++ [p.call]
          log := s.log ++ [.answered p.id p.method (.ofMillis (s.now - p.begunAt))] }
  | takeEvent {frame : Value} {rest : List Message} (hkeeper : s.keeper = .running)
      (hmail : s.mailbox = .frame frame :: rest) (hreply : s.awaited? frame = none)
      (hreader : s.readerGone = false) :
      Move s .handle { s with mailbox := rest, forwarded := s.forwarded ++ [frame] }
  | dropEvent {frame : Value} {rest : List Message} (hkeeper : s.keeper = .running)
      (hmail : s.mailbox = .frame frame :: rest) (hreply : s.awaited? frame = none)
      (hreader : s.readerGone = true) :
      Move s .handle ({ s with mailbox := rest }.note .frameWithoutReader)
  | takeShutdown {rest : List Message} (hkeeper : s.keeper = .running)
      (hmail : s.mailbox = .shutdown :: rest) :
      Move s .handle { s with mailbox := rest, keeper := .leaving }
  | expire (hkeeper : s.keeper = .running) (hoverdue : s.hasOverdue = true) :
      Move s .expire s.expireAll
  | shut (hkeeper : s.keeper = .leaving) : Move s .shut { s with keeper := .draining }
  | discardRequest {p : Pending} {rest : List Message} (hkeeper : s.keeper = .draining)
      (hmail : s.mailbox = .register p :: rest) :
      Move s .discard
        { s with
          mailbox := rest
          calls := tell s.calls [(p.call, .error .cancelled)]
          answered := s.answered ++ [p.call] }
  | discardOther {m : Message} {rest : List Message} (hkeeper : s.keeper = .draining)
      (hmail : s.mailbox = m :: rest) (hother : ∀ p, m ≠ .register p) :
      Move s .discard { s with mailbox := rest }
  | stop (hkeeper : s.keeper = .draining) (hmail : s.mailbox = []) : Move s .stop s.cancelAll

theorem move_of_callerStep {s t : State} {n : Nat} {refusal : Option TransportFault}
    (h : s.callerStep? n refusal = some t) : Move s (.caller n refusal) t := by
  unfold State.callerStep? at h
  rcases hcall : s.calls[n]? with _ | c
  · rw [hcall] at h
    cases h
  · rw [hcall] at h
    simp only at h
    rcases hphase : c.phase with _ | _ | id | id | ⟨id, cause⟩ | id | o
    · rw [hphase] at h
      simp only [Option.some.injEq] at h
      subst h
      cases hclosed : s.closed with
      | false => exact .letIn hcall hphase hclosed
      | true => exact .turnAway hcall hphase hclosed
    · rw [hphase] at h
      simp only [Option.some.injEq] at h
      subst h
      exact .draw hcall hphase
    · rw [hphase] at h
      rcases hlimit : c.limit with _ | limit
      · simp only [hlimit, Option.some.injEq, State.write] at h
        subst h
        cases refusal with
        | none => exact .notify hcall hphase hlimit
        | some cause => exact .notifyRefused hcall hphase hlimit
      · simp only [hlimit, Option.some.injEq, State.enqueue, State.post] at h
        subst h
        cases hopen : s.mailboxOpen with
        | false => exact .registerLate hcall hphase hlimit hopen
        | true => exact .register hcall hphase hlimit hopen
    · rw [hphase] at h
      simp only [Option.some.injEq, State.write] at h
      subst h
      cases refusal with
      | none => exact .write hcall hphase
      | some cause => exact .writeRefused hcall hphase
    · rw [hphase] at h
      simp only [Option.some.injEq] at h
      subst h
      exact .withdraw hcall hphase
    · rw [hphase] at h
      obtain ⟨o, hword, rfl⟩ := Option.map_eq_some_iff.mp h
      exact .learn hcall hphase hword
    · rw [hphase] at h
      cases h

theorem move_of_closerStep {s t : State} {n : Nat} (h : s.closerStep? n = some t) :
    Move s (.closer n) t := by
  unfold State.closerStep? at h
  split at h
  · rename_i hcloser
    simp only [Option.some.injEq] at h
    subst h
    exact .look hcloser
  · rename_i hcloser
    simp only [Option.some.injEq] at h
    subst h
    exact .flag hcloser
  · rename_i hcloser
    simp only [Option.some.injEq] at h
    subst h
    exact .announce hcloser
  · cases h
  · cases h

theorem move_of_takeMessage {s : State} {m : Message} {rest : List Message}
    (hkeeper : s.keeper = .running) (hmail : s.mailbox = m :: rest) :
    Move s .handle ({ s with mailbox := rest }.takeMessage m) := by
  cases m with
  | register p => exact .takeRequest hkeeper hmail
  | forget id => exact .takeForget hkeeper hmail
  | shutdown => exact .takeShutdown hkeeper hmail
  | frame frame =>
      have hmatch : (replyId? frame).bind (fun id => s.pending.find? fun p => p.id = id) =
          s.awaited? frame := rfl
      simp only [State.takeMessage, State.takeFrame, hmatch]
      cases hreply : s.awaited? frame with
      | some p => exact .takeReply hkeeper hmail hreply
      | none =>
          dsimp only
          split
          · rename_i hreader
            exact .dropEvent hkeeper hmail hreply hreader
          · rename_i hreader
            exact .takeEvent hkeeper hmail hreply (Bool.not_eq_true _ ▸ hreader)

theorem move_of_discardMessage {s : State} {m : Message} {rest : List Message}
    (hkeeper : s.keeper = .draining) (hmail : s.mailbox = m :: rest) :
    Move s .discard ({ s with mailbox := rest }.discardMessage m) := by
  cases m with
  | register p => exact .discardRequest hkeeper hmail
  | forget id => exact .discardOther hkeeper hmail (by simp)
  | frame frame => exact .discardOther hkeeper hmail (by simp)
  | shutdown => exact .discardOther hkeeper hmail (by simp)

/-- Every step is one of the moves. -/
theorem move_of_step {s t : State} {a : Action} (h : step? s a = some t) : Move s a t := by
  cases a with
  | begin method params limit =>
      obtain rfl := Option.some.inj h
      exact .begin method params limit
  | ask =>
      obtain rfl := Option.some.inj h
      exact .ask
  | route frame =>
      obtain rfl := Option.some.inj h
      cases hopen : s.mailboxOpen with
      | false => exact .routeLate frame hopen
      | true =>
          simp only [if_true, State.post, hopen]
          exact .route frame hopen
  | leave =>
      obtain rfl := Option.some.inj h
      exact .leave
  | tick ms =>
      obtain rfl := Option.some.inj h
      exact .tick ms
  | caller n refusal => exact move_of_callerStep h
  | closer n => exact move_of_closerStep h
  | handle =>
      simp only [step?] at h
      split at h
      · rename_i m rest hkeeper hmail
        obtain rfl := Option.some.inj h
        exact move_of_takeMessage hkeeper hmail
      · cases h
  | expire =>
      simp only [step?] at h
      split at h
      · rename_i hguard
        obtain rfl := Option.some.inj h
        exact .expire hguard.1 hguard.2
      · cases h
  | shut =>
      simp only [step?] at h
      split at h
      · rename_i hkeeper
        obtain rfl := Option.some.inj h
        exact .shut hkeeper
      · cases h
  | discard =>
      simp only [step?] at h
      split at h
      · rename_i m rest hkeeper hmail
        obtain rfl := Option.some.inj h
        exact move_of_discardMessage hkeeper hmail
      · cases h
  | stop =>
      simp only [step?] at h
      split at h
      · rename_i hkeeper hmail
        obtain rfl := Option.some.inj h
        exact .stop hkeeper hmail
      · cases h

/-- Every move is a step. -/
theorem step_of_move {s t : State} {a : Action} (h : Move s a t) : step? s a = some t := by
  cases h with
  | routeLate frame hshut => simp [step?, hshut]
  | route frame hopen => simp [step?, State.post, hopen]
  | letIn hcall hphase hclosed => simp [step?, State.callerStep?, hcall, hphase, hclosed]
  | turnAway hcall hphase hclosed => simp [step?, State.callerStep?, hcall, hphase, hclosed]
  | draw hcall hphase => simp [step?, State.callerStep?, hcall, hphase]
  | register hcall hphase hlimit hopen =>
      simp [step?, State.callerStep?, hcall, hphase, hlimit, State.enqueue, State.post, hopen]
  | registerLate hcall hphase hlimit hshut =>
      simp [step?, State.callerStep?, hcall, hphase, hlimit, State.enqueue, hshut]
  | notify hcall hphase hlimit =>
      simp [step?, State.callerStep?, hcall, hphase, hlimit, State.write]
  | notifyRefused hcall hphase hlimit =>
      simp [step?, State.callerStep?, hcall, hphase, hlimit, State.write]
  | write hcall hphase => simp [step?, State.callerStep?, hcall, hphase, State.write]
  | writeRefused hcall hphase => simp [step?, State.callerStep?, hcall, hphase, State.write]
  | withdraw hcall hphase => simp [step?, State.callerStep?, hcall, hphase]
  | learn hcall hphase hword => simp [step?, State.callerStep?, hcall, hphase, hword]
  | look hcloser => simp [step?, State.closerStep?, hcloser]
  | flag hcloser => simp [step?, State.closerStep?, hcloser]
  | announce hcloser => simp [step?, State.closerStep?, hcloser]
  | takeRequest hkeeper hmail => simp [step?, hkeeper, hmail, State.takeMessage]
  | takeForget hkeeper hmail => simp [step?, hkeeper, hmail, State.takeMessage]
  | takeReply hkeeper hmail hreply =>
      rw [State.awaited?] at hreply
      simp [step?, hkeeper, hmail, State.takeMessage, State.takeFrame, hreply, State.note,
        State.giveWord, State.updateCall, tell_cons]
  | takeEvent hkeeper hmail hreply hreader =>
      rw [State.awaited?] at hreply
      simp [step?, hkeeper, hmail, State.takeMessage, State.takeFrame, hreply, hreader]
  | dropEvent hkeeper hmail hreply hreader =>
      rw [State.awaited?] at hreply
      simp [step?, hkeeper, hmail, State.takeMessage, State.takeFrame, hreply, hreader]
  | takeShutdown hkeeper hmail => simp [step?, hkeeper, hmail, State.takeMessage]
  | expire hkeeper hoverdue => simp [step?, hkeeper, hoverdue]
  | shut hkeeper => simp [step?, hkeeper]
  | discardRequest hkeeper hmail =>
      simp [step?, hkeeper, hmail, State.discardMessage, State.giveWord, State.updateCall, tell_cons]
  | @discardOther m rest hkeeper hmail hother =>
      cases m with
      | register p => exact absurd rfl (hother p)
      | _ => simp [step?, hkeeper, hmail, State.discardMessage]
  | stop hkeeper hmail => simp [step?, hkeeper, hmail]
  | _ => rfl

end ConsoleTap.Exchange
