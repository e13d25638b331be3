import ConsoleTap.Proofs.Exchange.Cutoff
import ConsoleTap.Proofs.Session.Arrivals
import ConsoleTap.Proofs.Session.Quiet
import ConsoleTap.Proofs.Session.Requests
import ConsoleTap.Proofs.Session.Settling
import ConsoleTap.Proofs.Session.Shown
import Mathlib

/-!
# The end of a session

The runner waits for the keeper, the receiver and the dispatcher; the dispatcher waits for
the keeper and for its fetches, and may begin others meanwhile; and the keeper waits for a
shutdown.  Once the session was closed, or the target's end has arrived, nobody waits in
vain: the parties come to rest without the clock, and at rest everybody has finished.

The argument goes round from one party to the next.  Somebody is asked to shut the
exchange, so at rest the keeper has stopped; then no call is left without its outcome, so
no job is left, and with nothing left to expect the dispatcher has ceased.
-/

namespace ConsoleTap.Session

open ConsoleTap.Json

variable {options : Options} {s t : State} {a : Action} {as : List Action} {n : Nat}
  {groups : List (List String)}

/-! ### Who was asked to shut the exchange -/

/-- Whoever waits for the exchange to be shut waits for somebody who was asked to do it, and
    whoever is past that has seen somebody who was. -/
structure Entrusted (s : State) : Prop where
  runner : ∀ how closer, s.runner = .shutting how closer → closer < s.core.closers.length
  handle : ∀ closer, .shutting closer ∈ s.handles → closer < s.core.closers.length
  past : s.runner ≠ .watching → 0 < s.core.closers.length
  done : .done ∈ s.handles → 0 < s.core.closers.length

theorem Move.length_closers (hmove : Move s a t) : s.core.closers.length ≤ t.core.closers.length :=
  hmove.core_keeps (P := fun u => s.core.closers.length ≤ u.closers.length)
    (fun _ _ _ _ hcore h => h.trans (Exchange.length_closers_of_move hcore)) (fun _ _ h => h)
    (le_refl _)

theorem length_closers_of_ask {n : Notice} {core : Exchange.State}
    (hask : Exchange.step? (s.core.note n) .ask = some core) :
    s.core.closers.length < core.closers.length := by
  obtain rfl := Option.some.inj hask
  rw [List.length_append]
  exact Nat.lt_succ_self _

theorem Entrusted.same (h : Entrusted s)
    (hlength : s.core.closers.length ≤ t.core.closers.length)
    (hrunner : t.runner = s.runner) (hhandles : t.handles = s.handles) : Entrusted t where
  runner how closer ht := (h.runner how closer (hrunner ▸ ht)).trans_le hlength
  handle closer ht := (h.handle closer (hhandles ▸ ht)).trans_le hlength
  past ht := (h.past (hrunner ▸ ht)).trans_le hlength
  done ht := (h.done (hhandles ▸ ht)).trans_le hlength

theorem Entrusted.step (h : Entrusted s) (hmove : Move s a t)
    (hasked : s.core.closed = true → 0 < s.core.closers.length) : Entrusted t := by
  have hlength := hmove.length_closers
  cases hmove with
  | close =>
      refine ⟨h.runner, fun closer ht => ?_, h.past, fun ht => ?_⟩
      · rcases List.mem_append.mp ht with ht | ht
        · exact h.handle closer ht
        · simp at ht
      · rcases List.mem_append.mp ht with ht | ht
        · exact h.done ht
        · simp at ht
  | observe hrunner hend hask =>
      have hnew := length_closers_of_ask hask
      refine ⟨fun how' closer ht => ?_, fun closer ht => (h.handle closer ht).trans hnew,
        fun _ => (Nat.zero_le _).trans_lt hnew, fun ht => (h.done ht).trans hnew⟩
      obtain ⟨-, rfl⟩ := RunnerPhase.shutting.inj ht
      exact hnew
  | join hrunner hdone =>
      exact ⟨nofun, h.handle, fun _ => h.past (by simp [hrunner]), h.done⟩
  | finish hrunner hfinished =>
      exact ⟨nofun, h.handle, fun _ => h.past (by simp [hrunner]), h.done⟩
  | look hhandle =>
      refine ⟨h.runner, fun closer ht => ?_, h.past, fun ht => ?_⟩
      · rcases List.mem_or_eq_of_mem_set ht with ht | heq
        · exact h.handle closer ht
        · split at heq <;> cases heq
      · rcases List.mem_or_eq_of_mem_set ht with ht | heq
        · exact h.done ht
        · split at heq
          · rename_i hclosed
            exact hasked hclosed
          · cases heq
  | shut hhandle hask =>
      have hnew := length_closers_of_ask hask
      refine ⟨fun how closer ht => (h.runner how closer ht).trans hnew, fun closer ht => ?_,
        fun _ => (Nat.zero_le _).trans_lt hnew, fun _ => (Nat.zero_le _).trans_lt hnew⟩
      rcases List.mem_or_eq_of_mem_set ht with ht | heq
      · exact (h.handle closer ht).trans hnew
      · obtain rfl := HandlePhase.shutting.inj heq
        exact hnew
  | closeChannel hhandle hdone =>
      have hpast : 0 < s.core.closers.length :=
        (Nat.zero_le _).trans_lt (h.handle _ (List.mem_of_getElem? hhandle))
      refine ⟨h.runner, fun closer ht => ?_, h.past, fun _ => hpast⟩
      rcases List.mem_or_eq_of_mem_set ht with ht | heq
      · exact h.handle closer ht
      · cases heq
  | _ => exact h.same hlength rfl rfl

theorem entrusted_of_run (hrun : run? (opened options) as = some s) : Entrusted s := by
  rw [run?_eq_follow] at hrun
  refine Run.follow_induction (motive := fun _ s => Entrusted s) ?_ ?_ hrun
  · exact ⟨by simp [opened], by simp [opened], by simp [opened], by simp [opened]⟩
  · intro as u a v hrun hstep h
    rw [← run?_eq_follow] at hrun
    obtain ⟨log, hcore⟩ := exists_log_of_run hrun
    exact h.step (move_of_step hstep) fun hclosed =>
      List.length_pos_of_ne_nil ((Exchange.closing_of_run hcore).asked hclosed)

/-! ### Ways to the end -/

/-- The session was closed from outside, or the target's end has come in. -/
def EndCalled (as : List Action) : Prop :=
  .close ∈ as ∨ .arrive .hangUp ∈ as ∨ ∃ cause, .arrive (.failure cause) ∈ as

/-- The receiver has seen the end, or it waits for him. -/
def State.EndArrived (s : State) : Prop :=
  s.receiving = false ∨ ∃ x ∈ s.inbound, ∀ text, x ≠ .frame text

theorem Move.endArrived (hmove : Move s a t) (h : s.EndArrived) : t.EndArrived := by
  have hrest : ∀ {text rest}, s.inbound = .frame text :: rest → s.receiving = true →
      ∃ x ∈ rest, ∀ text, x ≠ .frame text := by
    intro text rest hinbound hreceiving
    rcases h with hceased | ⟨x, hx, hend⟩
    · rw [hreceiving] at hceased
      cases hceased
    · rw [hinbound] at hx
      rcases List.mem_cons.mp hx with rfl | hx
      · exact absurd rfl (hend text)
      · exact ⟨x, hx, hend⟩
  cases hmove with
  | arrive y hhungUp =>
      exact h.imp_right fun ⟨x, hx, hend⟩ => ⟨x, List.mem_append_left _ hx, hend⟩
  | receive hreceiving hinbound hread hroute => exact Or.inr (hrest hinbound hreceiving)
  | receiveMalformed n hreceiving hinbound hread => exact Or.inr (hrest hinbound hreceiving)
  | receiveEnd => exact Or.inl rfl
  | ceaseReceiving => exact Or.inl rfl
  | _ => exact h

theorem endArrived_of_hungUp (hrun : run? (opened options) as = some s) (hhungUp : s.hungUp = true) :
    s.EndArrived := by
  rw [run?_eq_follow] at hrun
  refine Run.follow_keeps (P := fun u => u.hungUp = true → u.EndArrived) ?_ ?_ hrun hhungUp
  · intro u a v hstep hu hv
    have hmove := move_of_step hstep
    by_cases hhungUp : u.hungUp = true
    · exact hmove.endArrived (hu hhungUp)
    · cases hmove with
      | arrive x hopen =>
          obtain rfl := of_decide_eq_true hv
          exact Or.inr ⟨_, List.mem_append_right _ (List.mem_singleton_self _), nofun⟩
      | _ => exact absurd hv hhungUp
  · exact nofun

theorem endArrived_of_arrival {x : Arrival} (hrun : run? (opened options) as = some s)
    (hx : .arrive x ∈ as) (hend : ∀ text, x ≠ .frame text) : s.EndArrived := by
  rw [run?_eq_follow] at hrun
  obtain ⟨m, hm, haction⟩ := Run.exists_moment_of_mem hrun hx
  refine Run.Moment.In.lasts_to_end (P := State.EndArrived)
    (fun _ _ _ hstep h => (move_of_step hstep).endArrived h) hm hrun ?_
  have hmove : Move m.state m.action m.next := move_of_step hm.2.2
  rw [haction] at hmove
  generalize hnext : m.next = u at hmove
  cases hmove with
  | arrive _ hopen =>
      exact Or.inr ⟨x, List.mem_append_right _ (List.mem_singleton_self x), hend⟩
  | arriveLate _ hhungUp =>
      exact endArrived_of_hungUp ((run?_eq_follow _ _).trans hm.2.1) hhungUp

theorem Move.length_handles (hmove : Move s a t) : s.handles.length ≤ t.handles.length := by
  cases hmove <;> simp

theorem handles_ne_nil_of_close (hrun : run? (opened options) as = some s)
    (hclose : .close ∈ as) : s.handles ≠ [] := by
  rw [run?_eq_follow] at hrun
  obtain ⟨m, hm, haction⟩ := Run.exists_moment_of_mem hrun hclose
  apply List.ne_nil_of_length_pos
  refine Run.Moment.In.lasts_to_end (P := fun u => 0 < u.handles.length)
    (fun _ _ _ hstep h => h.trans_le (move_of_step hstep).length_handles) hm hrun ?_
  have hmove : Move m.state m.action m.next := move_of_step hm.2.2
  rw [haction] at hmove
  generalize hnext : m.next = u at hmove
  cases hmove with
  | close => simp

/-! ### At rest -/

theorem Settled.closerDone (hsettled : Settled s) {closer : Nat}
    (hlt : closer < s.core.closers.length) : s.closerDone closer = true := by
  have hquiet : Exchange.Settled { s.core with log := s.core.log } := hsettled.core
  have hdone := hquiet.closer (List.getElem_mem hlt)
  rw [State.closerDone, List.getElem?_eq_getElem hlt, beq_iff_eq]
  exact congrArg some hdone

theorem Settled.handle (hsettled : Settled s) (hentrusted : Entrusted s) {phase : HandlePhase}
    (hphase : phase ∈ s.handles) : phase = .done := by
  obtain ⟨n, hn⟩ := List.mem_iff_getElem?.mp hphase
  have hnone : s.handleStep? n none = none := hsettled (.handle n none) rfl
  cases phase with
  | done => rfl
  | asked => simp [State.handleStep?, hn] at hnone
  | admitted => simp [State.handleStep?, hn] at hnone
  | shutting closer =>
      have hdone := hsettled.closerDone (hentrusted.handle closer hphase)
      simp [State.handleStep?, hn, hdone] at hnone

theorem Settled.observes (hsettled : Settled s) {how : Ending} (hend : s.canObserve how = true) :
    s.runner ≠ .watching := by
  intro hrunner
  have hnone := hsettled (.observe how) rfl
  simp [step?, hrunner, hend] at hnone

/-- At rest somebody was asked to shut the exchange. -/
theorem Settled.entrusted (hsettled : Settled s) (hrun : run? (opened options) as = some s)
    (hend : EndCalled as) : 0 < s.core.closers.length := by
  have hentrusted := entrusted_of_run hrun
  have hended : s.EndArrived → 0 < s.core.closers.length := by
    intro harrived
    have hreceiving : s.receiving = false := by
      rcases harrived with hceased | ⟨x, hx, -⟩
      · exact hceased
      · by_contra hreceiving
        rw [hsettled.inbound (eq_true_of_ne_false hreceiving)] at hx
        cases hx
    apply hentrusted.past
    have hend : s.canObserve .channelClosed = true := by
      rw [State.canObserve, hreceiving]
      rfl
    exact hsettled.observes hend
  rcases hend with hclose | hhangUp | ⟨cause, hfailure⟩
  · obtain ⟨phase, hphase⟩ := List.exists_mem_of_ne_nil _ (handles_ne_nil_of_close hrun hclose)
    exact hentrusted.done (hsettled.handle hentrusted hphase ▸ hphase)
  · exact hended (endArrived_of_arrival hrun hhangUp nofun)
  · exact hended (endArrived_of_arrival hrun hfailure nofun)

section AtRest

variable (hsettled : Settled s) (hrun : run? (opened options) as = some s)
include hsettled hrun

theorem Settled.keeper_stopped (hend : EndCalled as) :
    s.core.closed = true ∧ s.core.keeper = .stopped := by
  obtain ⟨log, hcore, hquiet⟩ := hsettled.exists_log hrun
  apply hquiet.stopped_of_closers (Exchange.closing_of_run hcore)
  exact List.ne_nil_of_length_pos (hsettled.entrusted hrun hend)

theorem Settled.exists_outcome (hstopped : s.core.keeper = .stopped)
    (hn : n < s.core.calls.length) : ∃ o, s.core.outcome? n = some o := by
  obtain ⟨log, hcore, hquiet⟩ := hsettled.exists_log hrun
  exact hquiet.outcome_of_stopped hcore hstopped hn

theorem Settled.no_jobs (hstopped : s.core.keeper = .stopped) : s.jobs = [] := by
  obtain ⟨groups, hdispatched⟩ := dispatched_of_run hrun
  cases hjobs : s.jobs with
  | nil => rfl
  | cons job rest =>
      -- the first job would wait for a call that is over
      obtain ⟨n, fetch, hfetch⟩ := hsettled.exists_fetch hdispatched hjobs
      have hfirst : s.jobs[0]? = some job := by rw [hjobs]; rfl
      obtain ⟨objectId, hbegun⟩ := ((hdispatched.job hfirst).begunFor hfetch).isFetch hrun
      obtain ⟨c, limit, hcall, -⟩ := hbegun.call
      obtain ⟨o, ho⟩ :=
        hsettled.exists_outcome hrun hstopped (List.getElem?_eq_some_iff.mp hcall).1
      rw [hsettled.outcome_eq_none (List.mem_of_getElem? hfirst) hfetch] at ho
      cases ho

theorem Settled.dispatching (hstopped : s.core.keeper = .stopped) : s.dispatching = false := by
  have hexpecting : s.expecting = false := by
    by_contra hexpecting
    have hnone := hsettled .expectNone rfl
    simp [step?, hexpecting, hsettled.queue hrun, hstopped] at hnone
  by_contra hdispatching
  have hnone := hsettled .ceaseDispatching rfl
  simp [step?, hdispatching, hexpecting, hsettled.no_jobs hrun hstopped,
    hsettled.emitting] at hnone

omit hrun in
theorem Settled.receiving (hclosed : s.core.closed = true) : s.receiving = false := by
  by_contra hreceiving
  have hnone := hsettled .ceaseReceiving rfl
  simp [step?, hreceiving, hclosed] at hnone

theorem Settled.returned (hclosed : s.core.closed = true) (hstopped : s.core.keeper = .stopped) :
    ∃ how, s.runner = .done how := by
  have hreceiving := hsettled.receiving hclosed
  have hdispatching := hsettled.dispatching hrun hstopped
  cases hrunner : s.runner with
  | done how => exact ⟨how, rfl⟩
  | watching =>
      have hend : s.canObserve .closeRequested = true := hclosed
      exact absurd hrunner (hsettled.observes hend)
  | shutting how closer =>
      have hdone := hsettled.closerDone ((entrusted_of_run hrun).runner how closer hrunner)
      have hnone := hsettled .join rfl
      simp [step?, hrunner, hdone] at hnone
  | joining how =>
      have hnone := hsettled .finish rfl
      simp [step?, hrunner, State.allFinished, hreceiving, hdispatching, hstopped] at hnone

end AtRest

/-! ### What was handed over -/

theorem State.IsFetch.le {objectId : String} (h : s.IsFetch n objectId)
    (hrun : run? (opened options) as = some s) : 3 ≤ n := by
  by_contra hlt
  have hnone := object?_of_opening hrun (Nat.not_le.mp hlt)
  rw [h.object?] at hnone
  cases hnone

/-- When the keeper has stopped, a frame that was received before the shutdown was sent has resolved
    a request or was passed on. -/
theorem passedOn_of_received_before {before after : List Action} {u : State} {k : Nat}
    {frame : Value} (hbefore : run? (opened options) before = some u) (hsent : ¬ u.ShutdownSent)
    (hafter : run? u after = some s) (hstopped : s.core.keeper = .stopped)
    (hk : (routedFrames options before)[k]? = some frame) :
    (∃ n, Exchange.ResolvedBy (coreRun options (before ++ after)) k n) ∨
      ∃ i, Exchange.PassedOn (coreRun options (before ++ after)) k i ∧
        s.core.forwarded[i]? = some frame := by
  have hrun : run? (opened options) (before ++ after) = some s := by
    rw [run?_append, hbefore, Option.bind_some, hafter]
  obtain ⟨rest, hrest⟩ := taken_of_received_before hbefore hsent hafter hstopped
  have hframe : (Exchange.taken (coreRun options (before ++ after)))[k]? = some frame := by
    rw [← hrest, List.getElem?_append_left (List.getElem?_eq_some_iff.mp hk).1, hk]
  obtain ⟨core, hcore, -⟩ := core_of_run hrun
  rw [forwarded_eq_events hrun]
  exact Exchange.fate_of_taken hcore hframe

/-- A group shows what became of a fetch that had no outcome when the keeper took the shutdown: that
    the session was closed, or, if the channel takes its time and the caller was in the middle of
    its turn, how the channel refused the command. -/
def ShownCutOff (options : Options) (as : List Action) (s : State) (groups : List (List String))
    (core : Exchange.State) (n : Nat) : Prop :=
  ∃ i lines node, groups[i]? = some lines ∧ Shows options as s i n node lines ∧
    (node = .text "[Object: Session closed]" ∨
      ¬ Exchange.AnswersAtOnce (coreRun options as) ∧ core.MidTurn n ∧
        ∃ id cause, node = .text (Print.failureText (.transport cause)) ∧
          Exchange.Happens (coreRun options as) (Exchange.Writes n id (some cause)))

section CutOff

variable {q : Exchange.Moment} {objectId : String}
  (hsettled : Settled s) (hrun : run? (opened options) as = some s)
  (hstopped : s.core.keeper = .stopped) (hq : Exchange.Occurs (coreRun options as) q)
  (hshutdown : Exchange.Handles .shutdown q.state q.action)
  (hfetch : s.IsFetch n objectId) (hundecided : q.state.Undecided n)
include hsettled hrun hstopped hq hshutdown hfetch hundecided

theorem outcome_of_cut_off :
    s.core.outcome? n = some (.error .cancelled) ∨
      ¬ Exchange.AnswersAtOnce (coreRun options as) ∧ q.state.MidTurn n ∧
        ∃ id cause, s.core.outcome? n = some (.error (.transport cause)) ∧
          Exchange.Happens (coreRun options as) (Exchange.Writes n id (some cause)) := by
  obtain ⟨c, limit, hcall, hlimit⟩ := hfetch.call
  obtain ⟨o, ho⟩ := hsettled.exists_outcome hrun hstopped (List.getElem?_eq_some_iff.mp hcall).1
  obtain ⟨d, hd, hdone⟩ := Exchange.done_of_outcome? ho
  obtain rfl := Option.some.inj (hcall.symm.trans hd)
  obtain ⟨log, hcore⟩ := exists_log_of_run hrun
  rcases hq.cut_off hcore hshutdown hundecided hcall hlimit hdone with
    rfl | ⟨hturn, id, cause, rfl, hrefused⟩
  · exact Or.inl ho
  · exact Or.inr ⟨fun h => h.not_midTurn hq hshutdown hturn, hturn, id, cause, ho, hrefused⟩

theorem shownCutOff (hdispatched : Dispatched options as s groups) :
    ShownCutOff options as s groups q.state n := by
  obtain ⟨c, limit, hcall, -⟩ := hfetch.call
  obtain ⟨i, hbegun⟩ :=
    exists_begunFor hrun (hfetch.le hrun) (List.getElem?_eq_some_iff.mp hcall).1
  have hlt : i < groups.length := by
    have htaken := hdispatched.taken_eq
    rw [hsettled.no_jobs hrun hstopped, List.length_nil, Nat.add_zero] at htaken
    exact htaken ▸ hbegun.lt_taken hrun
  have hlines : groups[i]? = some groups[i] := List.getElem?_eq_getElem hlt
  have hgroup := hdispatched.group hlines
  rcases outcome_of_cut_off hsettled hrun hstopped hq hshutdown hfetch hundecided with
    hcancelled | ⟨hslow, hturn, id, cause, houtcome, hrefused⟩
  · exact ⟨i, _, _, hlines, hgroup.shows hbegun hcancelled, Or.inl rfl⟩
  · exact ⟨i, _, _, hlines, hgroup.shows hbegun houtcome,
      Or.inr ⟨hslow, hturn, id, cause, rfl, hrefused⟩⟩

end CutOff

/-! ### The end -/

/-- Everybody has finished, nothing is pending, and what was handed over are these groups. -/
structure TornDown (options : Options) (as : List Action) (s : State)
    (groups : List (List String)) : Prop where
  returned : ∃ how, s.runner = .done how
  receiving : s.receiving = false
  dispatching : s.dispatching = false
  keeper : s.core.keeper = .stopped
  shutdown : Exchange.Happens (coreRun options as) (Exchange.Handles .shutdown)
  pending : s.core.pending = []
  emitted : s.emissions.map Emission.line = groups.flatten
  group : ∀ i lines, groups[i]? = some lines → Group options as s i lines
  /-- A frame that was received before the shutdown was sent has its group, unless it resolved a
      request. -/
  received : ∀ before after u, as = before ++ after → run? (opened options) before = some u →
    ¬ u.ShutdownSent → ∀ k frame, (routedFrames options before)[k]? = some frame →
      (∃ n, Exchange.ResolvedBy (coreRun options as) k n) ∨
      ∃ i lines, Exchange.PassedOn (coreRun options as) k i ∧
        s.core.forwarded[i]? = some frame ∧ groups[i]? = some lines
  /-- The fetches that had no outcome when the keeper took the shutdown, among them those that were
      begun only later. -/
  cutOff : ∀ q n objectId, Exchange.Occurs (coreRun options as) q →
    Exchange.Handles .shutdown q.state q.action → s.IsFetch n objectId → q.state.Undecided n →
      ShownCutOff options as s groups q.state n

theorem Settled.tornDown (hsettled : Settled s) (hrun : run? (opened options) as = some s)
    (hend : EndCalled as) : ∃ groups, TornDown options as s groups := by
  obtain ⟨hclosed, hstopped⟩ := hsettled.keeper_stopped hrun hend
  obtain ⟨groups, hdispatched⟩ := dispatched_of_run hrun
  obtain ⟨log, hcore⟩ := exists_log_of_run hrun
  obtain ⟨hemissions, hlength⟩ := hdispatched.output_all (hsettled.queue hrun)
    (hsettled.no_jobs hrun hstopped) hsettled.emitting
  refine ⟨groups, hsettled.returned hrun hclosed hstopped, hsettled.receiving hclosed,
    hsettled.dispatching hrun hstopped, hstopped,
    Exchange.handled_shutdown hcore (by simp [hstopped]),
    ((Exchange.closing_of_run hcore).stopped_empty hstopped).2, hemissions,
    fun _ _ hgroup => hdispatched.group hgroup, ?_, ?_⟩
  · rintro before after u rfl hbefore hsent k frame hk
    have hafter : run? u after = some s := by
      rwa [run?_append, hbefore, Option.bind_some] at hrun
    rcases passedOn_of_received_before hbefore hsent hafter hstopped hk with
      hresolved | ⟨i, hpassed, hi⟩
    · exact Or.inl hresolved
    · have hlt : i < groups.length := hlength ▸ (List.getElem?_eq_some_iff.mp hi).1
      exact Or.inr ⟨i, groups[i], hpassed, hi, List.getElem?_eq_getElem hlt⟩
  · intro q n objectId hq hshutdown hfetch hundecided
    exact shownCutOff hsettled hrun hstopped hq hshutdown hfetch hundecided hdispatched

/-- A session comes to its end without waiting for the clock.  Once it was closed, or the target's
    end has come in, the parties act by themselves until nobody can act, they cannot go on
    forever in any order, and when nobody can act everybody has finished. -/
theorem teardown_completes {sink : Exchange.Sink} {s₀ : State}
    (hstart : State.start options sink = .ok s₀) (hrun : run? s₀ as = some s)
    (hend : EndCalled as) :
    (∃ bs t, (∀ b ∈ bs, b.isInner = true) ∧ run? s bs = some t ∧ Settled t) ∧ Acc Acts s ∧
      (Settled s → ∃ groups, TornDown options as s groups) := by
  obtain rfl := start_eq_opened hstart
  exact ⟨exists_settled s, wellFounded_acts.apply s, fun hsettled => hsettled.tornDown hrun hend⟩

/-- Two console calls arrive.  The session is closed when the fetch for the first one was answered
    and that for the second one was not; what the answer brings is asked for only after the keeper
    has taken the shutdown. -/
def closedRun : List Action :=
  [.arrive (.frame (callFrame "7").compact), .receive, .core .handle, .take,
    .core (.caller 3 none), .core (.caller 3 none), .core (.caller 3 none), .core (.caller 3 none),
    .core .handle, .arrive (.frame (callFrame "9").compact), .receive, .core .handle, .take,
    .core (.caller 4 none), .core (.caller 4 none), .core (.caller 4 none), .core (.caller 4 none),
    .core .handle, .arrive (.frame (replyFrame 4 [objectNamed "x" "8"]).compact), .receive,
    .core .handle, .close, .handle 0 none, .handle 0 none, .core (.closer 0), .core (.closer 0),
    .core (.closer 0), .core .handle, .core (.caller 3 none), .grow 3]

/-- What the calls fetch in the end, which action of the exchange is its thirty-fifth, and what that
    finds. -/
theorem closedRun_eval :
    ((run? (opened {}) closedRun).map fun s => (s.object? 4, s.object? 5),
      (coreRun {} closedRun)[34]?,
      (Exchange.run? {} ((coreRun {} closedRun).take 34)).bind fun u =>
        (Exchange.step? u .handle).map fun _ =>
          (u.keeper, u.mailbox, (u.calls[4]?).map fun c => (c.phase, c.word),
            (u.calls[5]?).isNone)) =
      (some (some "9", some "8"), some .handle,
        some (.running, [.shutdown], some (.waiting 5, none), true)) := by
  cbv

theorem teardown_completes_closed :
    State.start {} {} = .ok (opened {}) ∧ EndCalled closedRun ∧
      ∃ s bs t groups, run? (opened {}) closedRun = some s ∧ (∀ b ∈ bs, b.isInner = true) ∧
        run? s bs = some t ∧ Settled t ∧ TornDown {} (closedRun ++ bs) t groups ∧
        ∀ n ∈ [4, 5], ∃ i lines, groups[i]? = some lines ∧
          Shows {} (closedRun ++ bs) t i n (.text "[Object: Session closed]") lines := by
  have heval := closedRun_eval
  simp only [Prod.mk.injEq] at heval
  obtain ⟨hend, haction, hmoment⟩ := heval
  obtain ⟨s, hrun, hs⟩ := Option.map_eq_some_iff.mp hend
  simp only [Prod.mk.injEq] at hs
  obtain ⟨hfourth, hfifth⟩ := hs
  obtain ⟨u, hu, hstep⟩ := Option.bind_eq_some_iff.mp hmoment
  obtain ⟨v, hv, hstate⟩ := Option.map_eq_some_iff.mp hstep
  simp only [Prod.mk.injEq, Option.isNone_iff_eq_none] at hstate
  obtain ⟨hkeeper, hmail, hcall, hnone⟩ := hstate
  obtain ⟨c, hc, hphase⟩ := Option.map_eq_some_iff.mp hcall
  simp only [Prod.mk.injEq] at hphase
  have hclosed : .close ∈ closedRun := by simp [closedRun]
  obtain ⟨⟨bs, t, hbs, hrest, hsettled⟩, -, -⟩ :=
    teardown_completes start_default hrun (Or.inl hclosed)
  have hwhole : run? (opened {}) (closedRun ++ bs) = some t := by
    rw [run?_append, hrun, Option.bind_some, hrest]
  obtain ⟨groups, htorn⟩ := (teardown_completes start_default hwhole
    (Or.inl (List.mem_append_left _ hclosed))).2.2 hsettled
  refine ⟨start_default, Or.inl hclosed, s, bs, t, groups, hrun, hbs, hrest, hsettled, htorn, ?_⟩
  obtain ⟨q, hq, rfl, hhandle⟩ : ∃ q : Exchange.Moment,
      Exchange.Occurs (coreRun {} (closedRun ++ bs)) q ∧ q.state = u ∧ q.action = .handle := by
    rw [Exchange.run?_eq_follow] at hu
    have hq := Run.Moment.in_of_getElem? haction hu hv
    refine ⟨_, Run.Moment.In.mono hq ?_, rfl, rfl⟩
    rw [coreRun_append hrun]
    exact List.prefix_append _ _
  -- neither caller is in the middle of its turn when the keeper takes the shutdown
  have hshows : ∀ n objectId, s.object? n = some objectId →
      (∀ d, q.state.calls[n]? = some d → d.phase = .waiting 5 ∧ d.word = none) →
      ∃ i lines, groups[i]? = some lines ∧
        Shows {} (closedRun ++ bs) t i n (.text "[Object: Session closed]") lines := by
    intro n objectId hobject hwaiting
    have hfetch := (isFetch_of_object? hrun hobject).lasts (lasts_of_run hrest)
    have hundecided : q.state.Undecided n := by
      intro d hd
      obtain ⟨hphase, hword⟩ := hwaiting d hd
      exact ⟨by rw [Exchange.Call.outcome?, hphase], hword⟩
    obtain ⟨i, lines, node, hgroup, hshows, hnode⟩ :=
      htorn.cutOff q n objectId hq ⟨hhandle, hkeeper, [], hmail⟩ hfetch hundecided
    rcases hnode with rfl | ⟨-, ⟨d, hd, hturn⟩, -⟩
    · exact ⟨i, lines, hgroup, hshows⟩
    · rw [(hwaiting d hd).1] at hturn
      cases hturn
  intro n hn
  simp only [List.mem_cons, List.not_mem_nil, or_false] at hn
  rcases hn with rfl | rfl
  · refine hshows 4 "9" hfourth fun d hd => ?_
    obtain rfl := Option.some.inj (hc.symm.trans hd)
    exact hphase
  · refine hshows 5 "8" hfifth fun d hd => ?_
    rw [hnone] at hd
    cases hd

end ConsoleTap.Session
