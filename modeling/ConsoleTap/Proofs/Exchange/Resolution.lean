import ConsoleTap.Proofs.Exchange.Closing
import ConsoleTap.Proofs.Exchange.History

/-!
# Every request is resolved once

A request has five ways to its end: its reply, its deadline, a failed write, and the
cancellation of what the keeper tracks or finds in its mailbox on the way out.  All of
them race, and each request ends in one of them.  What is left when nobody can act is
what was registered and written and has no outcome; after a shutdown nothing is left.
-/

namespace ConsoleTap.Exchange

open ConsoleTap.Json ConsoleTap.Target

variable {s t : State} {as : List Action} {n id : Nat} {c : Call} {p : Pending}

/-- The outcome of the call of that number, once it is over. -/
def State.outcome? (s : State) (n : Nat) : Option Outcome := (s.calls[n]?).bind Call.outcome?

theorem outcome?_of_done {o : Outcome} (hcall : s.calls[n]? = some c) (hdone : c.phase = .done o) :
    s.outcome? n = some o := by
  simp [State.outcome?, hcall, Call.outcome?, hdone]

theorem outcome?_of_waiting (hcall : s.calls[n]? = some c) (hphase : c.phase = .waiting id) :
    s.outcome? n = none := by
  simp [State.outcome?, hcall, Call.outcome?, hphase]

theorem done_of_outcome? {o : Outcome} (h : s.outcome? n = some o) :
    ∃ c, s.calls[n]? = some c ∧ c.phase = .done o := by
  obtain ⟨c, hcall, hdone⟩ := Option.bind_eq_some_iff.mp h
  refine ⟨c, hcall, ?_⟩
  cases hphase : c.phase <;> simp_all [Call.outcome?]

theorem outcome?_of_run {o : Outcome} {bs : List Action} (hrun : run? s bs = some t)
    (h : s.outcome? n = some o) : t.outcome? n = some o := by
  rw [run?_eq_follow] at hrun
  exact Run.follow_keeps (P := fun u => u.outcome? n = some o)
    (fun _ _ _ hstep h => (move_of_step hstep).outcome h) h hrun

/-! ### Settled states -/

/-- When nobody can act, a call is over or waits for a word that was not given. -/
theorem Settled.call (h : Settled s) (hcall : s.calls[n]? = some c) :
    (∃ o, c.phase = .done o) ∨ ∃ id, c.phase = .waiting id ∧ c.word = none := by
  have hstep : s.callerStep? n none = none := h (.caller n none) rfl
  simp only [State.callerStep?, hcall] at hstep
  cases hphase : c.phase with
  | done o => exact Or.inl ⟨o, rfl⟩
  | waiting id =>
      simp only [hphase, Option.map_eq_none_iff] at hstep
      exact Or.inr ⟨id, rfl, hstep⟩
  | numbered id => cases hlimit : c.limit <;> simp [hphase, hlimit] at hstep
  | _ => simp [hphase] at hstep

theorem Settled.closer (h : Settled s) {x : CloserPhase} (hx : x ∈ s.closers) : x = .done := by
  obtain ⟨n, hn⟩ := List.mem_iff_getElem?.mp hx
  have hstep : s.closerStep? n = none := h (.closer n) rfl
  cases x <;> simp_all [State.closerStep?]

theorem Settled.keeper (h : Settled s) :
    (s.keeper = .running ∧ s.mailbox = []) ∨ s.keeper = .stopped := by
  have hhandle := h .handle rfl
  have hshut := h .shut rfl
  have hdiscard := h .discard rfl
  have hstop := h .stop rfl
  cases hkeeper : s.keeper <;> cases hmail : s.mailbox <;>
    simp_all [step?]

theorem Settled.mailbox (h : Settled s) (hclosing : Closing s) : s.mailbox = [] := by
  rcases h.keeper with ⟨-, hmail⟩ | hstopped
  · exact hmail
  · exact (hclosing.stopped_empty hstopped).1

/-- Whether every call is over, nobody has asked for the session to be closed and the keeper has
    nothing to do. -/
def State.isIdle (s : State) : Bool :=
  s.calls.all Call.isOver && s.closers.isEmpty && s.mailbox.isEmpty && s.pending.isEmpty &&
    s.keeper == .running

theorem settled_of_isIdle (h : s.isIdle = true) : Settled s := by
  simp only [State.isIdle, Bool.and_eq_true, List.all_eq_true, List.isEmpty_iff, beq_iff_eq] at h
  obtain ⟨⟨⟨⟨hcalls, hclosers⟩, hmail⟩, hpending⟩, hkeeper⟩ := h
  intro a ha
  cases a with
  | caller n refusal =>
      simp only [step?, State.callerStep?]
      cases hcall : s.calls[n]? with
      | none => rfl
      | some c =>
          have hover := hcalls c (List.mem_of_getElem? hcall)
          cases hphase : c.phase <;> simp_all [Call.isOver, Call.outcome?]
  | closer n => simp [step?, State.closerStep?, hclosers]
  | expire => simp [step?, State.hasOverdue, hpending]
  | handle | shut | discard | stop => simp [step?, hkeeper, hmail]
  | _ => cases ha

/-- What the parties could do, by all that the state has of them. -/
def State.candidates (s : State) : List Action :=
  (List.range s.calls.length).map (fun n => .caller n none) ++
    (List.range s.closers.length).map .closer ++ [.handle, .expire, .shut, .discard, .stop]

theorem isInner_of_mem_candidates {a : Action} (ha : a ∈ s.candidates) : a.isInner = true := by
  simp only [State.candidates, List.mem_append, List.mem_map, List.mem_cons, List.not_mem_nil,
    or_false] at ha
  rcases ha with (⟨n, -, rfl⟩ | ⟨n, -, rfl⟩) | rfl | rfl | rfl | rfl | rfl <;> rfl

/-- Whether a caller can act does not depend on the channel's verdict. -/
theorem callerStep?_eq_none (refusal : Option TransportFault)
    (h : s.callerStep? n none = none) : s.callerStep? n refusal = none := by
  unfold State.callerStep? at h ⊢
  split at h
  · rfl
  · split at h
    · cases h
    · cases h
    · split at h <;> cases h
    · cases h
    · cases h
    · exact h
    · rfl

theorem settled_iff : Settled s ↔ ∀ a ∈ s.candidates, step? s a = none := by
  constructor
  · exact fun h a ha => h a (isInner_of_mem_candidates ha)
  · intro h a ha
    cases a with
    | caller n refusal =>
        by_cases hn : n < s.calls.length
        · exact callerStep?_eq_none refusal (h (.caller n none) (by simp [State.candidates, hn]))
        · simp [step?, State.callerStep?, List.getElem?_eq_none (Nat.not_lt.mp hn)]
    | closer n =>
        by_cases hn : n < s.closers.length
        · exact h (.closer n) (by simp [State.candidates, hn])
        · simp [step?, State.closerStep?, List.getElem?_eq_none (Nat.not_lt.mp hn)]
    | handle | expire | shut | discard | stop => exact h _ (by simp [State.candidates])
    | _ => cases ha

instance (s : State) : Decidable (Settled s) :=
  decidable_of_iff (∀ a ∈ s.candidates, (step? s a).isNone = true)
    (by simp only [Option.isNone_iff_eq_none, settled_iff])

theorem Settled.tracked (h : Settled s) (hclosing : Closing s) : s.tracked = s.pending := by
  simp [State.tracked, h.mailbox hclosing]

theorem Settled.pending_waiting (h : Settled s) (hrun : run? {} as = some s)
    (hp : p ∈ s.pending) :
    ∃ c, s.calls[p.call]? = some c ∧ c.phase = .waiting p.id ∧ c.word = none := by
  have hclosing := closing_of_run hrun
  obtain ⟨c, hcall, hword, howns⟩ :=
    (coherent_of_run hrun).tracked_call p (mem_tracked_of_mem_pending hp)
  refine ⟨c, hcall, ?_, hword⟩
  rcases howns with hheld | ⟨cause, hdone⟩
  · rcases h.call hcall with ⟨o, hdone⟩ | ⟨id, hphase, -⟩
    · simp [hdone, Phase.heldId?] at hheld
    · rw [hphase, Phase.heldId?, Option.some.injEq] at hheld
      rw [hphase, hheld]
  · -- a request that was given up is followed by its withdrawal, and no message is left
    rcases h.keeper with ⟨hrunning, hmail⟩ | hstopped
    · have hforget := (followed_of_run hrun).table hrunning p hp ⟨c, cause, hcall, hdone⟩
      simp [hmail] at hforget
    · simp [(hclosing.stopped_empty hstopped).2] at hp

theorem Settled.pending_of_waiting (h : Settled s) (hrun : run? {} as = some s)
    (hcall : s.calls[n]? = some c) (hphase : c.phase = .waiting id) :
    ∃ p ∈ s.pending, p.call = n ∧ p.id = id := by
  have hheld : c.phase.heldId? = some id := by simp [hphase, Phase.heldId?]
  have hword : c.word = none := by
    rcases h.call hcall with ⟨o, hdone⟩ | ⟨_, -, hword⟩
    · rw [hphase] at hdone
      cases hdone
    · exact hword
  obtain ⟨p, hp, hpn, hpid⟩ := (coherent_of_run hrun).held hcall hheld hword
  have hp' : p ∈ s.tracked := hp
  rw [h.tracked (closing_of_run hrun)] at hp'
  exact ⟨p, hp', hpn, hpid⟩

/-- When nobody can act, the requests that are pending are those that were registered and
    written and have no outcome. -/
theorem Settled.mem_pending_iff (h : Settled s) (hrun : run? {} as = some s) :
    p ∈ s.pending ↔
      Happens as (Registers p) ∧ Happens as (Writes p.call p.id none) ∧
        s.outcome? p.call = none := by
  constructor
  · intro hp
    obtain ⟨c, hcall, hphase, -⟩ := h.pending_waiting hrun hp
    exact ⟨registered_of_tracked hrun (mem_tracked_of_mem_pending hp),
      written_of_waiting hrun hcall hphase, outcome?_of_waiting hcall hphase⟩
  · rintro ⟨hregistered, -, hnone⟩
    obtain ⟨c, hcall, -⟩ := hregistered.reaches_of_registration hrun
    rcases h.call hcall with ⟨o, hdone⟩ | ⟨id, hphase, -⟩
    · rw [outcome?_of_done hcall hdone] at hnone
      cases hnone
    · obtain ⟨q, hq, hqn, -⟩ := h.pending_of_waiting hrun hcall hphase
      have hqregistered := registered_of_tracked hrun (mem_tracked_of_mem_pending hq)
      rw [hregistered.registration_unique hqregistered hqn.symm]
      exact hq

theorem Settled.not_pending_of_refused (h : Settled s) (hrun : run? {} as = some s)
    {cause : TransportFault} (hrefused : Happens as (Writes n id (some cause)))
    (hp : p ∈ s.pending) : p.id ≠ id := by
  rintro rfl
  have hwritten := ((h.mem_pending_iff hrun).mp hp).2.1
  have hn : n = p.call := hrefused.drawn_of_write.drawer_unique hwritten.drawn_of_write
  subst hn
  cases hrefused.verdict_unique hwritten

/-! ### After a shutdown -/

theorem length_closers_of_move {a : Action} (hmove : Move s a t) :
    s.closers.length ≤ t.closers.length := by
  cases hmove with
  | ask => simp
  | withdraw hcall hphase =>
      rw [State.post]
      split <;> exact Nat.le_refl _
  | look hcloser => simp
  | flag hcloser => simp
  | announce hcloser => simp
  | expire hkeeper hoverdue => rw [State.expireAll_eq]
  | stop hkeeper hmail => rw [State.cancelAll_eq]
  | _ => exact Nat.le_refl _

theorem closers_ne_nil_of_asked (hrun : run? {} as = some s) (hask : Action.ask ∈ as) :
    s.closers ≠ [] := by
  rw [run?_eq_follow] at hrun
  obtain ⟨m, hm, haction⟩ := Run.exists_moment_of_mem hrun hask
  have hnext : 0 < m.next.closers.length := by
    have hstep := hm.2.2
    rw [haction] at hstep
    rw [← Option.some.inj hstep]
    simp
  have hlength : 0 < s.closers.length :=
    Run.Moment.In.lasts_to_end (P := fun u => 0 < u.closers.length)
      (fun _ _ _ hstep h => h.trans_le (length_closers_of_move (move_of_step hstep))) hm hrun hnext
  exact List.ne_nil_of_length_pos hlength

theorem Settled.stopped_of_closers (h : Settled s) (hclosing : Closing s) (hne : s.closers ≠ []) :
    s.closed = true ∧ s.keeper = .stopped := by
  obtain ⟨x, hx⟩ := List.exists_mem_of_ne_nil _ hne
  have hclosed : s.closed = true := hclosing.done_closed (h.closer hx ▸ hx)
  refine ⟨hclosed, ?_⟩
  rcases h.keeper with ⟨hrunning, hmail⟩ | hstopped
  · rcases hclosing.on_its_way hclosed with hne | hmem | hflagged
    · exact absurd hrunning hne
    · simp [hmail] at hmem
    · cases h.closer hflagged
  · exact hstopped

theorem Settled.stopped (h : Settled s) (hrun : run? {} as = some s) (hask : Action.ask ∈ as) :
    s.keeper = .stopped :=
  (h.stopped_of_closers (closing_of_run hrun) (closers_ne_nil_of_asked hrun hask)).2

theorem Settled.outcome_of_stopped (h : Settled s) (hrun : run? {} as = some s)
    (hstopped : s.keeper = .stopped) (hlt : n < s.calls.length) : ∃ o, s.outcome? n = some o := by
  have hcall : s.calls[n]? = some s.calls[n] := List.getElem?_eq_getElem hlt
  rcases h.call hcall with ⟨o, hdone⟩ | ⟨id, hphase, -⟩
  · exact ⟨o, outcome?_of_done hcall hdone⟩
  · obtain ⟨p, hp, -⟩ := h.pending_of_waiting hrun hcall hphase
    simp [((closing_of_run hrun).stopped_empty hstopped).2] at hp

/-- Exactly-once resolution, in every run.  An outcome is never replaced by another one, and the
    keeper gives nobody its word twice.  When nobody can act, the pending requests are those that
    were registered and written and have no outcome, each under its own id, and a failed write
    has left nothing.  When nobody can act after a shutdown, nothing is pending and every call
    has its outcome, for good. -/
theorem requests_resolved_once (hrun : run? {} as = some s) :
    (s.answered.Nodup ∧
      ∀ n o, s.outcome? n = some o → ∀ bs t, run? s bs = some t → t.outcome? n = some o) ∧
    (Settled s →
      (s.pending.map Pending.id).Nodup ∧
      (∀ p, p ∈ s.pending ↔
        Happens as (Registers p) ∧ Happens as (Writes p.call p.id none) ∧
          s.outcome? p.call = none) ∧
      ∀ n id cause, Happens as (Writes n id (some cause)) → ∀ p ∈ s.pending, p.id ≠ id) ∧
    (Settled s → Action.ask ∈ as →
      s.pending = [] ∧
      ∀ n < s.calls.length, ∃ o, ∀ bs t, run? s bs = some t → t.outcome? n = some o) := by
  have hcoherent := coherent_of_run hrun
  refine ⟨⟨hcoherent.answered_nodup, ?_⟩, ?_, ?_⟩
  · intro n o ho bs t hbs
    exact outcome?_of_run hbs ho
  · intro hsettled
    refine ⟨?_, ?_, ?_⟩
    · have hids := hcoherent.ids_nodup
      exact hids.sublist ((List.sublist_append_left _ _).map _)
    · intro p
      exact hsettled.mem_pending_iff hrun
    · intro n id cause hrefused p hp
      exact hsettled.not_pending_of_refused hrun hrefused hp
  · intro hsettled hask
    have hstopped := hsettled.stopped hrun hask
    refine ⟨((closing_of_run hrun).stopped_empty hstopped).2, ?_⟩
    intro n hlt
    obtain ⟨o, ho⟩ := hsettled.outcome_of_stopped hrun hstopped hlt
    exact ⟨o, fun bs t hbs => outcome?_of_run hbs ho⟩

/-- One request is registered behind the shutdown, and one finds the mailbox closed. -/
def lateRun : List Action :=
  [.begin "behind" none (some 5), .begin "late" none (some 5), .caller 0 none, .caller 0 none,
    .caller 1 none, .caller 1 none, .ask, .closer 0, .closer 0, .closer 0, .caller 0 none,
    .caller 0 none, .handle, .shut, .caller 1 none, .discard, .stop, .caller 0 none]

/-- Where `lateRun` leads. -/
def lateEnd : State where
  closed := true
  nextId := 3
  calls :=
    [⟨"behind", none, some 5, .done (.error .cancelled), some (.error .cancelled)⟩,
      ⟨"late", none, some 5, .done (.error .cancelled), none⟩]
  closers := [.done]
  keeper := .stopped
  answered := [0]
  writes := [⟨⟨1, "behind", none⟩, none⟩]

theorem lateEnd_settled : Settled lateEnd := by
  intro a ha
  cases a with
  | caller n refusal => rcases n with _ | _ | n <;> rfl
  | closer n => rcases n with _ | n <;> rfl
  | handle => rfl
  | expire => rfl
  | shut => rfl
  | discard => rfl
  | stop => rfl
  | _ => cases ha

theorem requests_resolved_once_late :
    run? {} lateRun = some lateEnd ∧ lateEnd.pending = [] ∧
      ∀ n < lateEnd.calls.length,
        ∃ o, ∀ bs t, run? lateEnd bs = some t → t.outcome? n = some o :=
  have hrun : run? {} lateRun = some lateEnd := rfl
  ⟨hrun, (requests_resolved_once hrun).2.2 lateEnd_settled (by simp [lateRun])⟩

end ConsoleTap.Exchange
