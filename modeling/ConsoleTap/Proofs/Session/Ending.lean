import ConsoleTap.Proofs.Session.Teardown

/-!
# How the end is reported

The runner reports a close that was asked for, or the end of the channel.  It tells the
latter by the receiver's being gone, and the receiver goes for two reasons: because the
channel ended, and because he, too, noticed the close.  So a close from outside is
reported as the channel's end whenever the receiver notices it before the runner looks.
Otherwise the report is right: a close is reported only after somebody called for it, and
when nobody did, the end of the channel is what is reported.
-/

namespace ConsoleTap.Session

open ConsoleTap.Json

variable {options : Options} {s t : State} {a : Action} {as : List Action} {how : Ending}
  {m r : Moment}

/-! ### What the runner saw -/

/-- The end that the runner has seen. -/
def RunnerPhase.seen? : RunnerPhase → Option Ending
  | .watching => none
  | .shutting how _ | .joining how | .done how => some how

theorem Move.sees (hmove : Move s a t) (hnew : s.runner.seen? ≠ some how)
    (hseen : t.runner.seen? = some how) :
    a = .observe how ∧ s.runner = .watching ∧ s.canObserve how = true := by
  cases hmove with
  | observe hrunner hend hask =>
      obtain rfl := Option.some.inj hseen
      exact ⟨rfl, hrunner, hend⟩
  | join hrunner hdone =>
      rw [hrunner] at hnew
      exact absurd hseen hnew
  | finish hrunner hfinished =>
      rw [hrunner] at hnew
      exact absurd hseen hnew
  | _ => exact absurd hseen hnew

/-- The runner looks once, and what it sees then is how the session ends. -/
theorem observed_of_ending (hrun : run? (opened options) as = some s)
    (hending : s.ending? = some how) :
    ∃ m, Occurs options as m ∧ m.action = .observe how ∧ m.state.runner = .watching ∧
      m.state.canObserve how = true := by
  have hseen : s.runner.seen? = some how := by
    unfold State.ending? at hending
    split at hending
    · rename_i hrunner
      rw [hrunner]
      exact hending
    · cases hending
  obtain ⟨m, hm, hnew, hnext⟩ := exists_moment (P := fun u => u.runner.seen? = some how) hrun hseen
    (by simp [opened, RunnerPhase.seen?])
  exact ⟨m, hm, hm.move.sees hnew hnext⟩

theorem Move.watching (hmove : Move s a t) (hrunner : s.runner ≠ .watching) :
    t.runner ≠ .watching := by
  cases hmove with
  | observe => nofun
  | join => nofun
  | finish => nofun
  | _ => exact hrunner

theorem Occurs.watching (hr : Occurs options as r) (hm : Occurs options as m)
    (hearlier : r.Earlier m) (hrunner : m.state.runner = .watching) :
    r.state.runner = .watching := by
  by_contra hseen
  exact Run.Moment.In.lasts (P := fun u => u.runner ≠ .watching)
    (fun _ _ _ hstep h => (move_of_step hstep).watching h) hr hm hearlier
    (hr.move.watching hseen) hrunner

theorem Occurs.observes (hm : Occurs options as m) (haction : m.action = .observe how) :
    m.state.runner = .watching ∧ m.next.runner ≠ .watching := by
  have hmove := hm.move
  rw [haction] at hmove
  generalize m.next = u at hmove
  cases hmove with
  | observe hrunner hend hask => exact ⟨hrunner, nofun⟩

/-- The runner looks only once. -/
theorem Occurs.eq_of_observes {how' : Ending} (hm : Occurs options as m)
    (hr : Occurs options as r) (haction : m.action = .observe how)
    (haction' : r.action = .observe how') : how = how' := by
  obtain ⟨hbefore, hafter⟩ := hm.observes haction
  obtain ⟨hbefore', hafter'⟩ := hr.observes haction'
  have hmr : m = r := Run.Moment.In.eq_of_lasts (P := fun u => u.runner ≠ .watching)
    (fun _ _ _ hstep h => (move_of_step hstep).watching h) hm hr hafter hafter'
    (not_not_intro hbefore) (not_not_intro hbefore')
  subst hmr
  exact Action.observe.inj (haction.symm.trans haction')

/-! ### Why the receiver is gone -/

/-- In that step the receiver takes the end of the channel, or the error that it failed with. -/
def ReceivesEnd (m : Moment) : Prop :=
  m.action = .receive ∧ m.state.receiving = true ∧
    ∃ x rest, m.state.inbound = x :: rest ∧ ∀ text, x ≠ .frame text

/-- In that step the receiver goes because the session was closed. -/
def NoticesClose (m : Moment) : Prop := m.action = .ceaseReceiving ∧ m.state.core.closed = true

theorem Occurs.goes (hm : Occurs options as m) (hbefore : m.state.receiving = true)
    (hafter : m.next.receiving = false) : ReceivesEnd m ∨ NoticesClose m := by
  obtain ⟨before, u, a, v⟩ := m
  have hmove : Move u a v := move_of_step hm.2.2
  simp only at hbefore hafter
  cases hmove with
  | receiveEnd n hreceiving hinbound hx =>
      exact Or.inl ⟨rfl, hbefore, _, _, hinbound, hx⟩
  | ceaseReceiving hreceiving hclosed => exact Or.inr ⟨rfl, hclosed⟩
  | _ => exact absurd (hbefore.symm.trans hafter) Bool.noConfusion

/-- A receiver that is gone by some moment went at an earlier one. -/
theorem Occurs.gone (hm : Occurs options as m) (hreceiving : m.state.receiving = false) :
    ∃ r, Occurs options as r ∧ r.Earlier m ∧ (ReceivesEnd r ∨ NoticesClose r) := by
  obtain ⟨r, hr, hbefore, hafter⟩ :=
    exists_moment (P := fun u => u.receiving = false) hm.run hreceiving Bool.noConfusion
  obtain ⟨hras, hearlier⟩ := hm.earlier hr
  exact ⟨r, hras, hearlier, hras.goes (eq_true_of_ne_false hbefore) hafter⟩

/-! ### Who closed the session -/

/-- As long as the runner has seen no end and nobody has called for a close, nobody was asked to
    shut the exchange. -/
theorem closers_of_watching (hrun : run? (opened options) as = some s)
    (hrunner : s.runner = .watching) (hhandles : s.handles = []) : s.core.closers = [] := by
  rw [run?_eq_follow] at hrun
  refine Run.follow_keeps
    (P := fun u => u.runner = .watching → u.handles = [] → u.core.closers = []) ?_ ?_ hrun
    hrunner hhandles
  · intro u a v hstep hu hrunner hhandles
    have hmove := move_of_step hstep
    have hwatching : u.runner = .watching := by
      by_contra hseen
      exact hmove.watching hseen hrunner
    have hnone : u.handles = [] := by
      apply List.length_eq_zero_iff.mp
      have hlength := hmove.length_handles
      rw [hhandles, List.length_nil] at hlength
      exact Nat.le_zero.mp hlength
    refine hmove.core_keeps (P := fun core => core.closers = []) ?_ (fun _ _ h => h)
      (hu hwatching hnone)
    intro b hb core core' hcore hclosers
    by_contra hne
    obtain rfl := hcore.asked hclosers hne
    -- only the runner and the handles ask
    cases hmove with
    | observe => cases hrunner
    | look hhandle => simp [hnone] at hhandle
    | shut hhandle => simp [hnone] at hhandle
    | closeChannel hhandle => simp [hnone] at hhandle
    | core hinner =>
        obtain rfl := List.mem_singleton.mp hb
        cases hinner
    | receive => simp [coreActions] at hb
    | receiveMalformed => simp [coreActions] at hb
    | receiveEnd => simp [coreActions] at hb
    | take => simp [coreActions, fetchAction] at hb
    | grow => simp [coreActions, fetchAction] at hb
    | _ => simp [coreActions] at hb
  · exact fun _ _ => rfl

theorem close_of_handles (hrun : run? (opened options) as = some s) (hhandles : s.handles ≠ []) :
    .close ∈ as := by
  obtain ⟨m, hm, hbefore, hafter⟩ :=
    exists_moment (P := fun u => u.handles ≠ []) hrun hhandles (by simp [opened])
  have haction : m.action = .close := by
    have hmove := hm.move
    rw [not_ne_iff] at hbefore
    generalize m.action = a, m.next = u at hmove hafter
    cases hmove with
    | close => rfl
    | look hhandle => simp [hbefore] at hhandle
    | shut hhandle => simp [hbefore] at hhandle
    | closeChannel hhandle => simp [hbefore] at hhandle
    | _ => exact absurd hbefore hafter
  rw [← haction]
  exact hm.1.subset (List.mem_append_right _ (List.mem_singleton_self _))

/-- A session that is closed while its runner still watches was closed by somebody who called for
    it. -/
theorem Occurs.close_called (hm : Occurs options as m) (hclosed : m.state.core.closed = true)
    (hrunner : m.state.runner = .watching) : .close ∈ as := by
  obtain ⟨log, hcore⟩ := exists_log_of_run hm.run
  have hasked : m.state.core.closers ≠ [] := (Exchange.closing_of_run hcore).asked hclosed
  have hhandles : m.state.handles ≠ [] := fun hnone =>
    hasked (closers_of_watching hm.run hrunner hnone)
  exact ((List.prefix_append _ _).trans hm.1).subset (close_of_handles hm.run hhandles)

/-! ### The report -/

/-- The receiver noticed the close before the runner looked, and the runner took him for one that
    the channel had left. -/
def Outrun (options : Options) (as : List Action) : Prop :=
  ∃ r m, Occurs options as r ∧ Occurs options as m ∧ r.Earlier m ∧ NoticesClose r ∧
    m.action = .observe .channelClosed

/-- What each report says about the run. -/
theorem cause_of_report (hrun : run? (opened options) as = some s)
    (hending : s.ending? = some how) :
    (how = .closeRequested ∧ .close ∈ as) ∨
      (how = .channelClosed ∧ ((∃ r, Occurs options as r ∧ ReceivesEnd r) ∨
        (.close ∈ as ∧ Outrun options as))) := by
  obtain ⟨m, hm, haction, hrunner, hend⟩ := observed_of_ending hrun hending
  cases how with
  | closeRequested => exact Or.inl ⟨rfl, hm.close_called hend hrunner⟩
  | channelClosed =>
      have hgone : m.state.receiving = false := by simpa [State.canObserve] using hend
      obtain ⟨r, hr, hearlier, hends | hnotices⟩ := hm.gone hgone
      · exact Or.inr ⟨rfl, Or.inl ⟨r, hr, hends⟩⟩
      · have hcalled := hr.close_called hnotices.2 (hr.watching hm hearlier hrunner)
        exact Or.inr ⟨rfl, Or.inr ⟨hcalled, r, m, hr, hm, hearlier, hnotices, haction⟩⟩

/-- What is reported.  A close is reported only if somebody called for one, and the end of the channel
    only if the receiver took it, or the close outran the runner.  When nobody can act, a session
    that nobody closed and whose channel has ended or failed has reported just that; and one that
    was closed and whose receiver took no end has reported the close exactly if it did not outrun
    the runner. -/
theorem end_reported {sink : Exchange.Sink} {s₀ : State}
    (hstart : State.start options sink = .ok s₀) (hrun : run? s₀ as = some s) :
    (∀ how, s.ending? = some how →
      (how = .closeRequested ∧ .close ∈ as) ∨
        (how = .channelClosed ∧ ((∃ r, Occurs options as r ∧ ReceivesEnd r) ∨
          (.close ∈ as ∧ Outrun options as)))) ∧
    (.close ∉ as → Settled s →
      (.arrive .hangUp ∈ as ∨ ∃ cause, .arrive (.failure cause) ∈ as) →
        s.ending? = some .channelClosed) ∧
    (.close ∈ as → Settled s → (∀ r, Occurs options as r → ¬ ReceivesEnd r) →
      (s.ending? = some .closeRequested ↔ ¬ Outrun options as)) := by
  obtain rfl := start_eq_opened hstart
  have hreturned : Settled s → EndCalled as → ∃ how, s.ending? = some how := by
    intro hsettled hend
    obtain ⟨groups, htorn⟩ := hsettled.tornDown hrun hend
    obtain ⟨how, hrunner⟩ := htorn.returned
    exact ⟨how, by rw [State.ending?, hrunner]⟩
  refine ⟨fun how hending => cause_of_report hrun hending, ?_, ?_⟩
  · intro hclose hsettled hend
    obtain ⟨how, hending⟩ := hreturned hsettled (Or.inr hend)
    rcases cause_of_report hrun hending with ⟨-, hcalled⟩ | ⟨rfl, -⟩
    · exact absurd hcalled hclose
    · exact hending
  · intro hclose hsettled hends
    constructor
    · rintro hending ⟨-, m, -, hm, -, -, haction⟩
      obtain ⟨m', hm', haction', -⟩ := observed_of_ending hrun hending
      cases hm.eq_of_observes hm' haction haction'
    · intro hfirst
      obtain ⟨how, hending⟩ := hreturned hsettled (Or.inl hclose)
      rcases cause_of_report hrun hending with ⟨rfl, -⟩ | ⟨-, ⟨r, hr, hreceives⟩ | ⟨-, houtrun⟩⟩
      · exact hending
      · exact absurd hreceives (hends r hr)
      · exact absurd houtrun hfirst

/-- The session is closed, and the receiver notices it before the runner looks. -/
def outrunRun : List Action :=
  [.close, .handle 0 none, .handle 0 none, .core (.closer 0), .core (.closer 0),
    .core (.closer 0), .handle 0 none, .ceaseReceiving, .observe .channelClosed,
    .core (.closer 1), .join, .core .handle, .core .shut, .core .stop, .expectNone,
    .ceaseDispatching, .finish]

theorem outrunRun_eval :
    (run? (opened {}) outrunRun).map (fun s => (decide (Settled s), s.ending?)) =
      some (true, some .channelClosed) := by
  cbv

/-- A session that was closed while nothing had come in reports that its channel has ended. -/
theorem close_outrun :
    State.start {} {} = .ok (opened {}) ∧ Action.close ∈ outrunRun ∧
      (∀ x, Action.arrive x ∉ outrunRun) ∧
      ∃ s, run? (opened {}) outrunRun = some s ∧ Settled s ∧
        s.ending? = some .channelClosed ∧ s.ending? ≠ some .closeRequested := by
  obtain ⟨s, hrun, hs⟩ := Option.map_eq_some_iff.mp outrunRun_eval
  obtain ⟨hsettled, hending⟩ := Prod.mk.inj hs
  refine ⟨start_default, by simp [outrunRun], by simp [outrunRun], s, hrun,
    of_decide_eq_true hsettled, hending, ?_⟩
  rw [hending]
  decide

/-- The session is closed, and the runner looks before the receiver does. -/
def closeSeenRun : List Action :=
  [.close, .handle 0 none, .handle 0 none, .core (.closer 0), .core (.closer 0),
    .core (.closer 0), .handle 0 none, .observe .closeRequested, .ceaseReceiving,
    .core (.closer 1), .join, .core .handle, .core .shut, .core .stop, .expectNone,
    .ceaseDispatching, .finish]

theorem closeSeenRun_eval :
    (run? (opened {}) closeSeenRun).map (fun s => decide (Settled s)) = some true := by
  cbv

theorem end_reported_seen :
    State.start {} {} = .ok (opened {}) ∧ ∃ s, run? (opened {}) closeSeenRun = some s ∧
      Settled s ∧ (∀ r, Occurs {} closeSeenRun r → ¬ ReceivesEnd r) ∧ ¬ Outrun {} closeSeenRun ∧
      s.ending? = some .closeRequested := by
  obtain ⟨s, hrun, hs⟩ := Option.map_eq_some_iff.mp closeSeenRun_eval
  have hsettled : Settled s := of_decide_eq_true hs
  have hmem : ∀ {m}, Occurs {} closeSeenRun m → m.action ∈ closeSeenRun := fun hm =>
    hm.1.subset (List.mem_append_right _ List.mem_cons_self)
  have hends : ∀ r, Occurs {} closeSeenRun r → ¬ ReceivesEnd r := by
    rintro r hr ⟨haction, -⟩
    have hreceive := hmem hr
    rw [haction] at hreceive
    simp [closeSeenRun] at hreceive
  have hseen : ¬ Outrun {} closeSeenRun := by
    rintro ⟨r, m, -, hm, -, -, haction⟩
    have hobserve := hmem hm
    rw [haction] at hobserve
    simp [closeSeenRun] at hobserve
  have hclose : Action.close ∈ closeSeenRun := List.mem_cons_self
  exact ⟨start_default, s, hrun, hsettled, hends, hseen,
    ((end_reported start_default hrun).2.2 hclose hsettled hends).mpr hseen⟩

end ConsoleTap.Session
