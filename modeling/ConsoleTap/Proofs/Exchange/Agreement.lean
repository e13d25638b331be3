import ConsoleTap.Proofs.Exchange.Finality
import ConsoleTap.Proofs.Exchange.Notices
import ConsoleTap.Proofs.Exchange.Withdrawals

/-!
# The log agrees with the outcomes

The keeper writes the log and the callers see the outcomes.  The two tell the same story:
a request is logged as waited for if the keeper took its registration, as answered if it
ended with a reply, as out of time if it ended with a timeout, and the number of requests
logged as cancelled is the number of those among the tracked that were.  What makes this
true is that the keeper decides about written requests only, and about each once.
-/

namespace ConsoleTap.Exchange

open ConsoleTap.Json

variable {s t : State} {a : Action} {as : List Action} {n id limit : Nat} {c : Call} {p : Pending}
  {m m' : Moment} {frame : Value} {o : Outcome}

/-! ### Registrations that the keeper took -/

/-- The registration that the keeper takes in a step, if it takes one. -/
def handledIn (s : State) : Action → List Pending
  | .handle =>
      match s.keeper, s.mailbox with
      | .running, .register p :: _ => [p]
      | _, _ => []
  | _ => []

/-- The registrations that the keeper takes in a run, in order. -/
def handled (as : List Action) : List Pending := Run.along step? handledIn {} as

theorem mem_handledIn_iff : p ∈ handledIn s a ↔ Handles (.register p) s a := by
  constructor
  · intro h
    unfold handledIn at h
    split at h
    · split at h
      · rename_i hkeeper hmail
        exact List.mem_singleton.mp h ▸ ⟨rfl, hkeeper, _, hmail⟩
      · cases h
    · cases h
  · rintro ⟨rfl, hkeeper, rest, hmail⟩
    simp [handledIn, hkeeper, hmail]

theorem mem_handled_iff (hrun : run? {} as = some s) :
    p ∈ handled as ↔ Happens as (Handles (.register p)) := by
  rw [run?_eq_follow] at hrun
  constructor
  · intro h
    obtain ⟨k, hk⟩ := List.mem_iff_getElem?.mp h
    obtain ⟨m, hm, j, hj, -⟩ := Run.exists_moment_of_along handledIn hrun hk
    exact ⟨m, hm, mem_handledIn_iff.mp (List.mem_of_getElem? hj)⟩
  · rintro ⟨m, hm, h⟩
    exact (Run.Moment.In.along_snoc_prefix handledIn hm).subset
      (List.mem_append_right _ (mem_handledIn_iff.mpr h))

theorem Happens.registered (h : Happens as (Handles (.register p))) :
    Happens as (Registers p) := by
  obtain ⟨m, hm, -, -, rest, hmail⟩ := h
  exact hm.happens (registered_of_tracked hm.run (mem_tracked_of_queued (by simp [hmail])))

/-- Once the keeper has taken a registration it is in the mailbox no more. -/
theorem Handles.not_queued (hm : Occurs as m) (h : Handles (.register p) m.state m.action) :
    m.next.Reaches p.call 3 ∧ Message.register p ∉ m.next.mailbox := by
  obtain ⟨-, -, rest, hmail⟩ := id h
  have hregistered := registered_of_tracked hm.run (mem_tracked_of_queued (p := p) (by simp [hmail]))
  refine ⟨(hregistered.reaches_of_registration hm.run).step hm.2.2, ?_⟩
  refine (hm.coherent.step hm.2.2).not_queued ?_
  rw [(hm.inserts h).2]
  exact List.mem_append_right _ (List.mem_singleton_self p)

theorem State.Reaches.stays_taken (h : s.Reaches p.call 3 ∧ Message.register p ∉ s.mailbox)
    (hstep : step? s a = some t) : t.Reaches p.call 3 ∧ Message.register p ∉ t.mailbox := by
  obtain ⟨hreaches, hnot⟩ := h
  refine ⟨hreaches.step hstep, fun hmem => ?_⟩
  rcases (move_of_step hstep).mailbox with hsame | ⟨x, happend, hregister⟩ | ⟨x, hdrop⟩
  · exact hnot (hsame ▸ hmem)
  · rw [happend, List.mem_append, List.mem_singleton] at hmem
    exact hmem.elim hnot fun hx => hreaches.not_registers (hregister p hx.symm)
  · exact hnot (hdrop ▸ List.mem_cons_of_mem x hmem)

/-- The keeper takes each registration once. -/
theorem Handles.unique (hm : Occurs as m) (h : Handles (.register p) m.state m.action)
    (hm' : Occurs as m') (h' : Handles (.register p) m'.state m'.action) : m = m' := by
  refine Run.Moment.In.eq_of_lasts
    (P := fun u => u.Reaches p.call 3 ∧ Message.register p ∉ u.mailbox)
    (fun _ _ _ hstep h => State.Reaches.stays_taken h hstep) hm hm' (h.not_queued hm)
    (h'.not_queued hm') ?_ ?_
  · obtain ⟨-, -, rest, hmail⟩ := h
    exact fun hnot => hnot.2 (by simp [hmail])
  · obtain ⟨-, -, rest, hmail⟩ := h'
    exact fun hnot => hnot.2 (by simp [hmail])

theorem handled_nodup (hrun : run? {} as = some s) : (handled as).Nodup := by
  rw [run?_eq_follow] at hrun
  refine Run.follow_induction (motive := fun as _ => (handled as).Nodup) List.nodup_nil ?_ hrun
  intro as u a v hrun hstep ih
  have hone : (handledIn u a).Nodup := by
    unfold handledIn
    split
    · split
      · exact List.nodup_singleton _
      · exact List.nodup_nil
    · exact List.nodup_nil
  rw [handled, Run.along_snoc handledIn hrun hstep]
  refine List.nodup_append.mpr ⟨ih, hone, ?_⟩
  rintro p hp q hq rfl
  obtain ⟨m, hm, hhandles⟩ := (mem_handled_iff ((run?_eq_follow _ _).trans hrun)).mp hp
  have hlast : Occurs (as ++ [a]) ⟨as, u, a, v⟩ := Run.Moment.in_last hrun hstep
  obtain rfl := hhandles.unique (Run.Moment.In.snoc hm a) hlast (mem_handledIn_iff.mp hq)
  have hlength := hm.1.length_le
  simp only [List.length_append, List.length_singleton] at hlength
  omega

/-- The keeper takes no registration once it has taken a shutdown. -/
theorem handled_before_shutdown (hrun : run? {} as = some s) (hm : Occurs as m)
    (hshutdown : Handles .shutdown m.state m.action) : handled as = handled m.before := by
  obtain ⟨rest, hrest⟩ := hm.1
  have hnext := Run.follow_snoc hm.2.1 hm.2.2
  rw [run?_eq_follow, ← hrest, Run.follow_append, hnext] at hrun
  have hhere : handledIn m.state m.action = [] := by
    obtain ⟨haction, hkeeper, rest, hmail⟩ := hshutdown
    rw [haction, handledIn, hkeeper, hmail]
  have hlater : Run.along step? handledIn m.next rest = [] := by
    refine Run.along_eq_nil handledIn hrun fun q hq => ?_
    have hleft : q.state.keeper ≠ .running :=
      Run.follow_keeps (P := fun u => u.keeper ≠ .running)
        (fun _ _ _ hstep h hv => h ((move_of_step hstep).running hv)) (hm.left_of_shutdown hshutdown)
        hq.2.1
    exact List.eq_nil_iff_forall_not_mem.mpr fun p hp => hleft (mem_handledIn_iff.mp hp).2.1
  rw [handled, ← hrest, Run.along_append handledIn {} _ rest hnext,
    Run.along_snoc handledIn hm.2.1 hm.2.2, hhere, hlater, List.append_nil, List.append_nil]
  rfl

/-! ### The lines about a request -/

theorem tracking_lines (hrun : run? {} as = some s) (h : Happens as (Handles (.register p))) :
    remarks .trace .tracking p.id s.log = [.tracking p.id p.method] := by
  obtain ⟨m, hm, hhandles⟩ := h
  rw [hm.remarks_eq hrun, hhandles.noticed]
  · simp [remarks, lines_trace, remark?]
  · intro m' hm' hremarks
    obtain ⟨q, hid, hhandles'⟩ := remarks_tracking_iff.mp hremarks
    have hq : Happens as (Handles (.register q)) := ⟨m', hm', hhandles'⟩
    obtain rfl := hq.registered.eq_of_id (Happens.registered ⟨m, hm, hhandles⟩) hid
    exact hhandles'.unique hm' hm hhandles

theorem answered_lines (hrun : run? {} as = some s) (hm : Occurs as m)
    (h : Answers p frame m.state m.action) :
    remarks .trace .answered p.id s.log =
      [.answered p.id p.method (.ofMillis (m.state.now - p.begunAt))] := by
  have hp := (State.awaited?_eq_some h.2).1
  rw [hm.remarks_eq hrun, h.noticed]
  · simp [remarks, lines_trace, remark?]
  · intro m' hm' hremarks
    obtain ⟨q, frame', hid, h'⟩ := remarks_answered_iff.mp hremarks
    have hq := (State.awaited?_eq_some h'.2).1
    obtain rfl := (hm'.registered hq).eq_of_id (hm.registered hp) hid
    exact hm'.eq_of_told hm (mem_tracked_of_mem_pending hq) (mem_tracked_of_mem_pending hp)
      (hm'.told_of_answers h') (hm.told_of_answers h)

theorem timedOut_lines (hrun : run? {} as = some s) (hm : Occurs as m)
    (h : Expires p m.state m.action) :
    remarks .trace .timedOut p.id s.log =
      [.timedOut p.id p.method (.ofMillis (m.state.now - p.begunAt))] := by
  rw [hm.remarks_eq hrun, h.remarks_noticed hm.coherent.distinct.ids]
  intro m' hm' hremarks
  obtain ⟨q, hid, h'⟩ := remarks_timedOut_iff.mp hremarks
  obtain rfl := (hm'.registered h'.2.1).eq_of_id (hm.registered h.2.1) hid
  exact h'.unique hm' hm h

/-! ### Outcomes -/

def isReply : Outcome → Bool
  | .ok _ | .error (.protocol ..) => true
  | .error _ => false

theorem isReply_ofReply (frame : Value) : isReply (Outcome.ofReply frame) = true := by
  rcases ofReply_cases frame with ⟨v, hv⟩ | ⟨code, message, hv⟩ <;> rw [hv] <;> rfl

def isTimeout : Outcome → Bool
  | .error fault => fault.isTimeout
  | .ok _ => false

theorem isTimeout_ofReply (frame : Value) : isTimeout (Outcome.ofReply frame) = false := by
  rcases ofReply_cases frame with ⟨v, hv⟩ | ⟨code, message, hv⟩ <;> rw [hv] <;> rfl

/-- Whoever wrote its command and got word has it for its outcome, once it has one or nobody can
    act. -/
theorem Happens.outcome_of_told (h : Happens as (Writes n id none)) (hrun : run? {} as = some s)
    (htold : s.Told n o) (hover : (s.outcome? n).isSome = true ∨ Settled s) :
    s.outcome? n = some o := by
  rcases hover with hsome | hsettled
  · obtain ⟨o', ho'⟩ := Option.isSome_iff_exists.mp hsome
    obtain ⟨c, hcall, hdone⟩ := done_of_outcome? ho'
    obtain ⟨d, hd, hword⟩ := htold
    obtain ⟨e, he, hphase⟩ := h.heeds hrun
    obtain rfl := Option.some.inj (hcall.symm.trans hd)
    obtain rfl := Option.some.inj (hcall.symm.trans he)
    rcases hphase with hwaiting | ⟨o'', hdone', hword'⟩
    · rw [hdone] at hwaiting
      cases hwaiting
    · rw [outcome?_of_done hcall hdone', Option.some.inj (hword'.symm.trans hword)]
  · exact hsettled.outcome_of_told (h.heeds hrun) htold

/-- A registration bears the method and the time limit of its request. -/
theorem Happens.registered_call (h : Happens as (Registers p)) (hrun : run? {} as = some s)
    (hcall : s.calls[p.call]? = some c) :
    p.method = c.method ∧ ∃ limit, c.limit = some limit ∧ p.deadline = p.begunAt + limit := by
  obtain ⟨r, hr, d, _, limit, -, hd, -, hlimit, -, hp⟩ := h
  obtain ⟨hsame, hmethod⟩ := hr.call_kept hrun hd hcall
  refine ⟨?_, limit, hsame.trans hlimit, ?_⟩
  · rw [hp, hmethod]
  · rw [hp]

/-- What a log says about a request with that outcome. -/
structure Reported (log : List Notice) (id limit : Nat) (method : String)
    (outcome : Option Outcome) : Prop where
  answered : outcome.any isReply = true →
    ∃ d, remarks .trace .answered id log = [.answered id method d]
  unanswered : outcome.any isReply = false → remarks .trace .answered id log = []
  timedOut : outcome.any isTimeout = true →
    ∃ ms, limit ≤ ms ∧ remarks .trace .timedOut id log = [.timedOut id method (.ofMillis ms)]
  inTime : outcome.any isTimeout = false → remarks .trace .timedOut id log = []

section Agreement

variable (hrun : run? {} as = some s) (hpaced : Paced as) (hatonce : AnswersAtOnce as)
  (hpositive : ∀ c ∈ s.calls, ∀ limit, c.limit = some limit → 0 < limit)
include hrun hpaced hatonce

theorem Answers.outcome (hm : Occurs as m) (h : Answers p frame m.state m.action)
    (hover : (s.outcome? p.call).isSome = true ∨ Settled s) :
    s.outcome? p.call = some (Outcome.ofReply frame) := by
  have hp := (State.awaited?_eq_some h.2).1
  have hwritten := hatonce.written hpaced hm hp (Or.inl ⟨frame, h.1⟩)
  exact hwritten.outcome_of_told hrun (hm.told_at_end hrun (hm.told_of_answers h)) hover

include hpositive

theorem Expires.outcome (hm : Occurs as m) (h : Expires p m.state m.action)
    (hover : (s.outcome? p.call).isSome = true ∨ Settled s) :
    s.outcome? p.call = some (.error (timeoutFault p.method)) := by
  have hregistered := hm.registered h.2.1
  obtain ⟨c, hcall, -⟩ := hregistered.reaches_of_registration hrun
  obtain ⟨-, limit, hlimit, hdeadline⟩ := hregistered.registered_call hrun hcall
  have hpos := hpositive c (List.mem_of_getElem? hcall) limit hlimit
  have hwritten := hatonce.written hpaced hm h.2.1 (Or.inr (Or.inl ⟨h, by omega⟩))
  exact hwritten.outcome_of_told hrun (hm.told_at_end hrun (hm.told_of_expires h)) hover

/-- The log says of a request that is over, or of any request when nobody can act, how it ended. -/
theorem reported (hcall : s.calls[n]? = some c) (hlimit : c.limit = some limit)
    (hdrawn : Happens as (Draws n id)) (hover : (s.outcome? n).isSome = true ∨ Settled s) :
    Reported s.log id limit c.method (s.outcome? n) := by
  have hcause : ∀ {o}, s.outcome? n = some o → Cause as n id o := by
    intro o ho
    obtain ⟨d, hd, hdone⟩ := done_of_outcome? ho
    obtain rfl := Option.some.inj (hcall.symm.trans hd)
    exact cause_of_outcome hrun hcall hlimit hdrawn hdone
  have hown : ∀ {m : Moment} {p : Pending}, Occurs as m → p ∈ m.state.pending → p.id = id →
      p.call = n :=
    fun hm hp hid => (hid ▸ hm.drawn_of_pending hp).drawer_unique hdrawn
  constructor
  · intro hreply
    cases ho : s.outcome? n with
    | none => simp [ho] at hreply
    | some o =>
        rw [ho, Option.any_some] at hreply
        cases hcause ho with
        | @reply m p frame hm hanswers hn hid =>
            subst hn hid
            have hregistered := hm.registered (State.awaited?_eq_some hanswers.2).1
            rw [answered_lines hrun hm hanswers, (hregistered.registered_call hrun hcall).1]
            exact ⟨_, rfl⟩
        | _ => cases hreply
  · intro hnoReply
    refine remarks_eq_nil hrun ?_
    rintro ⟨m, hm, hremarks⟩
    obtain ⟨p, frame, hid, hanswers⟩ := remarks_answered_iff.mp hremarks
    obtain rfl := hown hm (State.awaited?_eq_some hanswers.2).1 hid
    rw [hanswers.outcome hrun hpaced hatonce hm hover, Option.any_some, isReply_ofReply] at hnoReply
    cases hnoReply
  · intro htimeout
    cases ho : s.outcome? n with
    | none => simp [ho] at htimeout
    | some o =>
        rw [ho, Option.any_some] at htimeout
        cases hcause ho with
        | @expiry m p hm hexpires hn hid =>
            subst hn hid
            obtain ⟨hmethod, limit', hlimit', hdeadline⟩ :=
              (hm.registered hexpires.2.1).registered_call hrun hcall
            obtain rfl := Option.some.inj (hlimit.symm.trans hlimit')
            have hdue := hexpires.2.2
            rw [timedOut_lines hrun hm hexpires, hmethod]
            exact ⟨_, by omega, rfl⟩
        | @reply m p frame =>
            rw [isTimeout_ofReply] at htimeout
            cases htimeout
        | _ => cases htimeout
  · intro hinTime
    refine remarks_eq_nil hrun ?_
    rintro ⟨m, hm, hremarks⟩
    obtain ⟨p, hid, hexpires⟩ := remarks_timedOut_iff.mp hremarks
    obtain rfl := hown hm hexpires.2.1 hid
    rw [hexpires.outcome hrun hpaced hatonce hpositive hm hover] at hinTime
    cases hinTime

end Agreement

/-! ### Cancellations -/

def isCancelled : Outcome → Bool
  | .error .cancelled => true
  | _ => false

theorem isCancelled_iff : isCancelled o = true ↔ o = .error .cancelled := by
  cases o with
  | ok v => exact ⟨nofun, nofun⟩
  | error fault => cases fault <;> simp [isCancelled]

/-- Whose word came to be a cancellation: its registration was next in the mailbox that the keeper
    discards, or it was in the table as the keeper stopped. -/
theorem Progress.cancels {c' : Call} (h : Progress s n a c c')
    (hnew : c.word ≠ some (.error .cancelled)) (hword : c'.word = some (.error .cancelled)) :
    (s.keeper = .draining ∧ ∃ p rest, s.mailbox = .register p :: rest ∧ p.call = n) ∨
      a = .stop ∧ ∃ p ∈ s.pending, p.call = n := by
  cases h with
  | @answered _ frame p rest hkeeper hmail hreply hn =>
      have hisReply := isReply_ofReply frame
      rw [Option.some.inj hword] at hisReply
      cases hisReply
  | expired hp hn => cases hword
  | cancelledQueued hkeeper hmail hn => exact Or.inl ⟨hkeeper, _, _, hmail, hn⟩
  | cancelled hkeeper hp hn => exact Or.inr ⟨rfl, _, hp, hn⟩
  | _ => exact absurd hword hnew

theorem Handles.earlier_of_left (hm : Occurs as m) (h : Handles (.register p) m.state m.action)
    (hm' : Occurs as m') (hleft : m'.state.keeper ≠ .running) : m.Earlier m' := by
  rcases Nat.lt_trichotomy m.before.length m'.before.length with hlt | heq | hgt
  · exact hlt
  · obtain rfl := Run.Moment.In.eq_of_length hm hm' heq
    exact absurd h.2.1 hleft
  · have hkeep : ∀ u b v, step? u b = some v → u.keeper ≠ .running → v.keeper ≠ .running :=
      fun _ _ _ hstep h hv => h ((move_of_step hstep).running hv)
    exact absurd h.2.1 (Run.Moment.In.lasts hkeep hm' hm hgt (hkeep _ _ _ hm'.2.2 hleft))

/-- A request that the keeper took and that got a cancellation for its word was in the table as the
    keeper stopped. -/
theorem stopped_of_cancelled (hrun : run? {} as = some s) (hhandled : Happens as (Handles (.register p)))
    (htold : s.Told p.call (.error .cancelled)) :
    ∃ m, Occurs as m ∧ m.action = .stop ∧ p ∈ m.state.pending := by
  obtain ⟨c, hcall, hword⟩ := htold
  obtain ⟨m, d, d', hm, hd, -, hprogress, hnew, hword'⟩ :=
    exists_progress (P := fun c => c.word = some (.error .cancelled)) hrun hcall hword
      (fun c _ hword => by simp [hword])
  have hsame : ∀ {q : Pending}, q ∈ m.state.tracked → q.call = p.call → q = p := fun hq hcall =>
    (hm.happens (registered_of_tracked hm.run hq)).registration_unique hhandled.registered hcall
  rcases hprogress.cancels hnew hword' with ⟨hkeeper, q, rest, hmail, hn⟩ | ⟨haction, q, hq, hn⟩
  · -- the keeper took the registration while it ran, so it does not discard it later
    obtain ⟨r, hr, hhandles⟩ := hhandled
    have hearlier := hhandles.earlier_of_left hr hm (by simp [hkeeper])
    have hnot := (Run.Moment.In.lasts
      (P := fun u => u.Reaches p.call 3 ∧ Message.register p ∉ u.mailbox)
      (fun _ _ _ hstep h => State.Reaches.stays_taken h hstep) hr hm hearlier
      (hhandles.not_queued hr)).2
    obtain rfl := hsame (mem_tracked_of_queued (by simp [hmail])) hn
    exact absurd (by simp [hmail]) hnot
  · obtain rfl := hsame (mem_tracked_of_mem_pending hq) hn
    exact ⟨m, hm, haction, hq⟩

theorem Occurs.told_of_stop (hm : Occurs as m) (haction : m.action = .stop)
    (hp : p ∈ m.state.pending) : m.next.Told p.call (.error .cancelled) := by
  have hcalls : m.next.calls = tell m.state.calls (State.cancellations m.state.pending) := by
    have hmove := hm.move
    rw [haction] at hmove
    generalize m.next = v at hmove
    cases hmove with
    | stop hkeeper hmail => rw [State.cancelAll_eq]
  refine hm.coherent.told_of_tell hcalls ?_ (mem_tracked_of_mem_pending hp) (List.mem_map_of_mem hp)
  rw [State.map_fst_cancellations]
  exact hm.coherent.distinct.calls

/-- The keeper stops once. -/
theorem Move.stopped (hmove : Move s a t) (hstopped : s.keeper = .stopped) :
    t.keeper = .stopped := by
  cases hmove with
  | withdraw hcall hphase =>
      rw [State.post]
      split <;> exact hstopped
  | announce hcloser =>
      rw [State.post]
      split <;> exact hstopped
  | takeShutdown hkeeper =>
      rw [hstopped] at hkeeper
      cases hkeeper
  | expire hkeeper =>
      rw [hstopped] at hkeeper
      cases hkeeper
  | shut hkeeper =>
      rw [hstopped] at hkeeper
      cases hkeeper
  | stop hkeeper hmail => rw [State.cancelAll_eq]
  | _ => exact hstopped

theorem Occurs.stop_unique (hm : Occurs as m) (hstop : m.action = .stop) (hm' : Occurs as m')
    (hstop' : m'.action = .stop) : m = m' := by
  have hturn : ∀ {m : Moment}, Occurs as m → m.action = .stop →
      ¬ m.state.keeper = .stopped ∧ m.next.keeper = .stopped := by
    intro m hm hstop
    have hmove := hm.move
    rw [hstop] at hmove
    generalize m.next = v at hmove
    cases hmove with
    | stop hkeeper hmail =>
        rw [State.cancelAll_eq]
        exact ⟨by simp [hkeeper], rfl⟩
  exact Run.Moment.In.eq_of_lasts (P := fun u => u.keeper = .stopped)
    (fun _ _ _ hstep h => (move_of_step hstep).stopped h) hm hm' (hturn hm hstop).2
    (hturn hm' hstop').2 (hturn hm hstop).1 (hturn hm' hstop').1

def isCancelling : Notice → Bool
  | .cancelling _ => true
  | _ => false

theorem stop_of_cancelling {l : Notice} (hl : l ∈ noticed s a) (htest : isCancelling l = true) :
    a = .stop := by
  cases notes_of_mem hl with
  | cancelling ha h => exact ha
  | _ => cases htest

/-- How many requests the log says were cancelled: as many as were in the table as the keeper
    stopped. -/
theorem cancelling_lines (hrun : run? {} as = some s) :
    (∃ m, Occurs as m ∧ m.action = .stop ∧ lines .trace isCancelling s.log =
      if m.state.pending.length = 0 then [] else [.cancelling m.state.pending.length]) ∨
    (∀ m, Occurs as m → m.action ≠ .stop) ∧ lines .trace isCancelling s.log = [] := by
  by_cases hstop : ∃ m, Occurs as m ∧ m.action = .stop
  · obtain ⟨m, hm, haction⟩ := hstop
    refine Or.inl ⟨m, hm, haction, ?_⟩
    rw [hm.lines_eq hrun fun m' hm' l hl htest =>
      hm'.stop_unique (stop_of_cancelling hl htest) hm haction]
    rw [haction, lines_trace, noticed]
    cases m.state.pending <;> rfl
  · push Not at hstop
    exact Or.inr ⟨hstop, lines_eq_nil hrun fun m hm l hl htest =>
      hstop m hm (stop_of_cancelling hl htest)⟩

section Agreement

variable (hrun : run? {} as = some s) (hpaced : Paced as) (hatonce : AnswersAtOnce as)
include hrun hpaced hatonce

/-- When nobody can act, the requests that the keeper took and that were cancelled are those that
    were in the table as it stopped. -/
theorem Settled.cancelled_iff (hsettled : Settled s) :
    p ∈ handled as ∧ (s.outcome? p.call).any isCancelled = true ↔
      ∃ m, Occurs as m ∧ m.action = .stop ∧ p ∈ m.state.pending := by
  rw [mem_handled_iff hrun]
  constructor
  · rintro ⟨hhandled, hcancelled⟩
    refine stopped_of_cancelled hrun hhandled ?_
    obtain ⟨m, hm, hhandles⟩ := hhandled
    have htracked : p ∈ m.state.tracked := by
      obtain ⟨-, -, rest, hmail⟩ := hhandles
      exact mem_tracked_of_queued (by simp [hmail])
    rcases hatonce.written_or_gaveUp hm htracked (fun n refusal h => by cases hhandles.1.symm.trans h)
      with hwritten | ⟨c, cause, hcall, hdone⟩
    · obtain ⟨c, hcall, hphase⟩ := hwritten.heeds hrun
      rcases hphase with hwaiting | ⟨o, hdone, hword⟩
      · rw [outcome?_of_waiting hcall hwaiting] at hcancelled
        cases hcancelled
      · rw [outcome?_of_done hcall hdone, Option.any_some, isCancelled_iff] at hcancelled
        exact ⟨c, hcall, hcancelled ▸ hword⟩
    · rw [run?_eq_follow] at hrun
      rw [Run.Moment.In.lasts_to_end
        (P := fun u => u.outcome? p.call = some (.error (.transport cause)))
        (fun _ _ _ hstep h => (move_of_step hstep).outcome h) hm hrun
        ((move_of_step hm.2.2).outcome (outcome?_of_done hcall hdone))] at hcancelled
      cases hcancelled
  · rintro ⟨m, hm, haction, hp⟩
    have hwritten := hatonce.written hpaced hm hp (Or.inr (Or.inr haction))
    have htold := hm.told_at_end hrun (hm.told_of_stop haction hp)
    rw [hwritten.outcome_of_told hrun htold (Or.inr hsettled)]
    exact ⟨hm.happens (handled_of_pending hm.run hp), rfl⟩

/-- When nobody can act, the log gives the number of cancelled requests among those that the keeper
    took, or is silent if there is none. -/
theorem Settled.cancelling_count (hsettled : Settled s) {k : Nat}
    (hk : k = (handled as).countP fun p => (s.outcome? p.call).any isCancelled) :
    lines .trace isCancelling s.log = if k = 0 then [] else [.cancelling k] := by
  rcases cancelling_lines hrun with ⟨m, hm, haction, hlines⟩ | ⟨hnone, hlines⟩
  · suffices h : k = m.state.pending.length by rw [hlines, h]
    rw [hk, List.countP_eq_length_filter]
    refine List.Perm.length_eq ((List.perm_ext_iff_of_nodup ((handled_nodup hrun).filter _)
      hm.coherent.distinct.ids.of_map).mpr fun p => ?_)
    rw [List.mem_filter, hsettled.cancelled_iff hrun hpaced hatonce]
    constructor
    · rintro ⟨m', hm', hstop, hp⟩
      exact hm'.stop_unique hstop hm haction ▸ hp
    · exact fun hp => ⟨m, hm, haction, hp⟩
  · suffices h : k = 0 by rw [hlines, if_pos h]
    rw [hk, List.countP_eq_zero]
    intro p hp hcancelled
    obtain ⟨m, hm, hstop, -⟩ :=
      (hsettled.cancelled_iff hrun hpaced hatonce).mp ⟨hp, hcancelled⟩
    exact hnone m hm hstop

end Agreement

theorem cancelling_at_most_once (hrun : run? {} as = some s) :
    ∃ k, lines .trace isCancelling s.log = if k = 0 then [] else [.cancelling k] := by
  rcases cancelling_lines hrun with ⟨m, -, -, hlines⟩ | ⟨-, hlines⟩
  · exact ⟨_, hlines⟩
  · exact ⟨0, hlines⟩

/-- The log at trace level agrees with the outcomes: there is one line that a request is waited for
    if the keeper took its registration before it took a shutdown, and none otherwise; of a request
    that is over, and of any request when nobody can act, there is one line that it was answered
    if it ended with a reply, one that it timed out, after no less than its time limit, if it
    ended with a timeout, and none of the kind otherwise; and there is at most one line that
    requests are cancelled, with the number of those cancelled among the requests that the keeper
    took, and none if there are no such requests. -/
theorem log_agrees (hrun : run? {} as = some s) (hpaced : Paced as) (hatonce : AnswersAtOnce as)
    (hpositive : ∀ c ∈ s.calls, ∀ limit, c.limit = some limit → 0 < limit) :
    (∀ id,
      (∀ p ∈ handled as, p.id = id → remarks .trace .tracking id s.log = [.tracking id p.method]) ∧
      ((∀ p ∈ handled as, p.id ≠ id) → remarks .trace .tracking id s.log = [])) ∧
    (∀ m, Occurs as m → Handles .shutdown m.state m.action → handled as = handled m.before) ∧
    (∀ n c limit id, s.calls[n]? = some c → c.limit = some limit → Happens as (Draws n id) →
      (s.outcome? n).isSome = true ∨ Settled s →
      Reported s.log id limit c.method (s.outcome? n)) ∧
    ∃ k, lines .trace isCancelling s.log = (if k = 0 then [] else [.cancelling k]) ∧
      (Settled s → k = (handled as).countP fun p => (s.outcome? p.call).any isCancelled) := by
  refine ⟨fun id => ⟨?_, fun hnone => ?_⟩, fun m => handled_before_shutdown hrun,
    fun n c limit id => reported hrun hpaced hatonce hpositive, ?_⟩
  · rintro p hp rfl
    exact tracking_lines hrun ((mem_handled_iff hrun).mp hp)
  · refine remarks_eq_nil hrun ?_
    rintro ⟨m, hm, hremarks⟩
    obtain ⟨p, hid, hhandles⟩ := remarks_tracking_iff.mp hremarks
    exact hnone p ((mem_handled_iff hrun).mpr ⟨m, hm, hhandles⟩) hid
  · by_cases hsettled : Settled s
    · exact ⟨_, hsettled.cancelling_count hrun hpaced hatonce rfl, fun _ => rfl⟩
    · obtain ⟨k, hk⟩ := cancelling_at_most_once hrun
      exact ⟨k, hk, fun h => absurd h hsettled⟩

theorem answersAtOnce_of_callersKept
    (h : ∀ kept ∈ Run.along step? (callersKept Phase.isMidTurn) {} as, kept = true) :
    AnswersAtOnce as := by
  rintro m n hm ⟨c, hcall, hturn⟩
  refine caller_of_callersKept (fun kept hmem => h kept ?_) hcall hturn
  exact (Run.Moment.In.along_snoc_prefix _ hm).subset (List.mem_append_right _ hmem)

/-- A request that is answered, one that runs out of time, one that is refused, one that is
    cancelled, and one that comes when the session is closed. -/
def mixedRun : List Action :=
  [.begin "kept" none (some 9), .caller 0 none, .caller 0 none, .caller 0 none, .caller 0 none,
    .begin "late" none (some 4), .caller 1 none, .caller 1 none, .caller 1 none, .caller 1 none,
    .begin "refused" none (some 5), .caller 2 none, .caller 2 none, .caller 2 none,
    .caller 2 (some .closed), .caller 2 none,
    .begin "open" none (some 20), .caller 3 none, .caller 3 none, .caller 3 none, .caller 3 none,
    .handle, .handle, .handle, .handle, .handle,
    .route (.object [("id", .integer 1)]), .handle, .caller 0 none,
    .tick 4, .expire, .caller 1 none,
    .ask, .closer 0, .closer 0, .closer 0, .handle, .shut, .stop, .caller 3 none,
    .begin "after" none (some 1), .caller 4 none]

/-- Whether the run is one of those that the agreement is about, and where it leads. -/
theorem mixedRun_eval :
    ((Run.along step? clockKept {} mixedRun).all fun kept => kept) = true ∧
      ((Run.along step? (callersKept Phase.isMidTurn) {} mixedRun).all fun kept => kept) = true ∧
      (handled mixedRun).map Pending.id = [1, 2, 3, 4] ∧
      ((run? {} (mixedRun.take 7)).bind fun u => (step? u (.caller 1 none)).map fun _ =>
        (u.calls[1]?.map Call.phase, u.nextId)) = some (some .admitted, 2) ∧
      ((run? {} mixedRun).map fun s => (decide (Settled s), s.calls.map Call.limit,
        s.calls[1]?.map Call.method, s.outcome? 1,
        (handled mixedRun).countP fun p => (s.outcome? p.call).any isCancelled)) =
        some (true, [some 9, some 4, some 5, some 20, some 1], some "late",
          some (.error (timeoutFault "late")), 1) := by
  refine ⟨?_, ?_, ?_, ?_, ?_⟩ <;> rfl

theorem log_agrees_mixed :
    Paced mixedRun ∧ AnswersAtOnce mixedRun ∧ ∃ s, run? {} mixedRun = some s ∧ Settled s ∧
      (∀ c ∈ s.calls, ∀ limit, c.limit = some limit → 0 < limit) ∧
      Happens mixedRun (Draws 1 2) ∧ remarks .trace .tracking 5 s.log = [] ∧
      Reported s.log 2 4 "late" (some (.error (timeoutFault "late"))) ∧
      lines .trace isCancelling s.log = [.cancelling 1] := by
  obtain ⟨hclock, hcallers, hhandled, hdraw, hend⟩ := mixedRun_eval
  have hpaced : Paced mixedRun := paced_of_clockKept (List.all_eq_true.mp hclock)
  have hatonce : AnswersAtOnce mixedRun :=
    answersAtOnce_of_callersKept (List.all_eq_true.mp hcallers)
  obtain ⟨s, hrun, hs⟩ := Option.map_eq_some_iff.mp hend
  simp only [Prod.mk.injEq, decide_eq_true_eq] at hs
  obtain ⟨hsettled, hlimits, hmethod, houtcome, hcount⟩ := hs
  obtain ⟨u, hu, hstep⟩ := Option.bind_eq_some_iff.mp hdraw
  obtain ⟨v, hv, hdrawn⟩ := Option.map_eq_some_iff.mp hstep
  rw [Prod.mk.injEq] at hdrawn
  obtain ⟨hphase, hnext⟩ := hdrawn
  obtain ⟨d, hd, hadmitted⟩ := Option.map_eq_some_iff.mp hphase
  have hdraws : Happens mixedRun (Draws 1 2) :=
    ⟨⟨mixedRun.take 7, u, .caller 1 none, v⟩,
      ⟨⟨mixedRun.drop 8, rfl⟩, (run?_eq_follow _ _).symm.trans hu, hv⟩,
      d, none, rfl, hd, hadmitted, hnext⟩
  have hpositive : ∀ c ∈ s.calls, ∀ limit, c.limit = some limit → 0 < limit := by
    intro c hc limit hlimit
    have hmem := List.mem_map_of_mem (f := Call.limit) hc
    rw [hlimits, hlimit] at hmem
    simp only [List.mem_cons, Option.some.injEq, List.not_mem_nil, or_false] at hmem
    rcases hmem with rfl | rfl | rfl | rfl | rfl <;> decide
  obtain ⟨htracking, -, hreported, k, hlines, hk⟩ := log_agrees hrun hpaced hatonce hpositive
  refine ⟨hpaced, hatonce, s, hrun, hsettled, hpositive, hdraws, (htracking 5).2 ?_, ?_, ?_⟩
  · intro p hp hid
    have hmem := List.mem_map_of_mem (f := Pending.id) hp
    simp [hhandled, hid] at hmem
  · obtain ⟨c, hcall, hname⟩ := Option.map_eq_some_iff.mp hmethod
    have hlimit : c.limit = some 4 := by
      have hat := congrArg (fun limits => limits[1]?) hlimits
      simpa [hcall] using hat
    have h := hreported 1 c 4 2 hcall hlimit hdraws (Or.inr hsettled)
    rwa [hname, houtcome] at h
  · rw [hlines, hk hsettled, hcount]
    rfl

end ConsoleTap.Exchange
