import ConsoleTap.Proofs.Exchange.Coherence

/-!
# The log and the reader

The log is written and never read, and whether anyone reads what is passed on decides
only whether a frame is passed on or noted.  So a state can be told otherwise, with
another log and another reader, and the same actions take place: `Move.retold` says so of
one action.  A session writes its own notices into the log of its exchange, which makes
the states of its exchange those of a run of the exchange but for the log
(`run_of_muted`); and a run that the reader leaves resolves the same requests as the run
in which it stays (`run_of_retold`).
-/

namespace ConsoleTap.Exchange

open ConsoleTap.Json

variable {s t u : State} {a : Action} {as : List Action} {gone : Bool} {passed : List Value}
  {log : List Notice}

/-- The state with another reader and another log. -/
def State.retold (s : State) (gone : Bool) (passed : List Value) (log : List Notice) : State :=
  { s with readerGone := gone, forwarded := passed, log := log }

/-- Whether the reader goes away by an action. -/
def Action.isLeave : Action → Bool
  | .leave => true
  | _ => false

theorem retold_post (s : State) (m : Message) :
    (s.post m).retold gone passed log = (s.retold gone passed log).post m := by
  have hopen : (s.retold gone passed log).mailboxOpen = s.mailboxOpen := rfl
  rw [State.post, State.post, hopen]
  split <;> rfl

/-- A state that is told otherwise allows the same move; the reader stays as it is unless it
    leaves, and as long as it is the same, so are the frames passed on. -/
theorem Move.retold (hmove : Move s a t) (gone : Bool) (passed : List Value) (log : List Notice) :
    ∃ gone' passed' log', Move (s.retold gone passed log) a (t.retold gone' passed' log') ∧
      (gone = s.readerGone →
        gone' = t.readerGone ∧ (passed = s.forwarded → passed' = t.forwarded)) ∧
      (a.isLeave = false → gone' = gone) := by
  cases hmove with
  | begin method params limit =>
      exact ⟨_, _, _, .begin method params limit, fun h => ⟨h, id⟩, fun _ => rfl⟩
  | ask => exact ⟨_, _, _, .ask, fun h => ⟨h, id⟩, fun _ => rfl⟩
  | route frame hopen => exact ⟨_, _, _, .route frame hopen, fun h => ⟨h, id⟩, fun _ => rfl⟩
  | routeLate frame hshut =>
      exact ⟨_, _, _, .routeLate frame hshut, fun h => ⟨h, id⟩, fun _ => rfl⟩
  | leave => exact ⟨true, _, _, .leave, fun _ => ⟨rfl, id⟩, fun h => by cases h⟩
  | tick ms => exact ⟨_, _, _, .tick ms, fun h => ⟨h, id⟩, fun _ => rfl⟩
  | letIn hcall hphase hclosed =>
      exact ⟨_, _, _, .letIn hcall hphase hclosed, fun h => ⟨h, id⟩, fun _ => rfl⟩
  | turnAway hcall hphase hclosed =>
      exact ⟨_, _, _, .turnAway hcall hphase hclosed, fun h => ⟨h, id⟩, fun _ => rfl⟩
  | draw hcall hphase => exact ⟨_, _, _, .draw hcall hphase, fun h => ⟨h, id⟩, fun _ => rfl⟩
  | register hcall hphase hlimit hopen =>
      exact ⟨_, _, _, .register hcall hphase hlimit hopen, fun h => ⟨h, id⟩, fun _ => rfl⟩
  | registerLate hcall hphase hlimit hshut =>
      exact ⟨_, _, _, .registerLate hcall hphase hlimit hshut, fun h => ⟨h, id⟩, fun _ => rfl⟩
  | notify hcall hphase hlimit =>
      exact ⟨_, _, _, .notify hcall hphase hlimit, fun h => ⟨h, id⟩, fun _ => rfl⟩
  | notifyRefused hcall hphase hlimit =>
      exact ⟨_, _, _, .notifyRefused hcall hphase hlimit, fun h => ⟨h, id⟩, fun _ => rfl⟩
  | write hcall hphase => exact ⟨_, _, _, .write hcall hphase, fun h => ⟨h, id⟩, fun _ => rfl⟩
  | writeRefused hcall hphase =>
      exact ⟨_, _, _, .writeRefused hcall hphase, fun h => ⟨h, id⟩, fun _ => rfl⟩
  | @withdraw n id c cause refusal hcall hphase =>
      have hmoved : Move (s.retold gone passed log) (.caller n refusal) _ :=
        .withdraw hcall hphase
      rw [← retold_post] at hmoved
      refine ⟨gone, passed, log, hmoved, ?_, fun _ => rfl⟩
      rw [State.post]
      split <;> exact fun h => ⟨h, fun h => h⟩
  | learn hcall hphase hword =>
      exact ⟨_, _, _, .learn hcall hphase hword, fun h => ⟨h, id⟩, fun _ => rfl⟩
  | look hcloser => exact ⟨_, _, _, .look hcloser, fun h => ⟨h, id⟩, fun _ => rfl⟩
  | flag hcloser => exact ⟨_, _, _, .flag hcloser, fun h => ⟨h, id⟩, fun _ => rfl⟩
  | @announce n hcloser =>
      have hmoved : Move (s.retold gone passed log) (.closer n) _ := .announce hcloser
      rw [← retold_post] at hmoved
      refine ⟨gone, passed, log, hmoved, ?_, fun _ => rfl⟩
      rw [State.post]
      split <;> exact fun h => ⟨h, fun h => h⟩
  | takeRequest hkeeper hmail =>
      exact ⟨_, _, _, .takeRequest hkeeper hmail, fun h => ⟨h, id⟩, fun _ => rfl⟩
  | takeForget hkeeper hmail =>
      exact ⟨_, _, _, .takeForget hkeeper hmail, fun h => ⟨h, id⟩, fun _ => rfl⟩
  | takeReply hkeeper hmail hreply =>
      exact ⟨_, _, _, .takeReply hkeeper hmail hreply, fun h => ⟨h, id⟩, fun _ => rfl⟩
  | takeEvent hkeeper hmail hreply hreader =>
      cases gone with
      | false =>
          exact ⟨_, _, _, .takeEvent hkeeper hmail hreply rfl, fun h => ⟨h, fun h => h ▸ rfl⟩,
            fun _ => rfl⟩
      | true =>
          refine ⟨_, _, _, .dropEvent hkeeper hmail hreply rfl, fun h => ?_, fun _ => rfl⟩
          rw [hreader] at h
          cases h
  | dropEvent hkeeper hmail hreply hreader =>
      cases gone with
      | false =>
          refine ⟨_, _, _, .takeEvent hkeeper hmail hreply rfl, fun h => ?_, fun _ => rfl⟩
          rw [hreader] at h
          cases h
      | true =>
          exact ⟨_, _, _, .dropEvent hkeeper hmail hreply rfl, fun h => ⟨h, id⟩, fun _ => rfl⟩
  | takeShutdown hkeeper hmail =>
      exact ⟨_, _, _, .takeShutdown hkeeper hmail, fun h => ⟨h, id⟩, fun _ => rfl⟩
  | expire hkeeper hoverdue =>
      have hmoved : Move (s.retold gone passed log) .expire _ := .expire hkeeper hoverdue
      rw [State.expireAll_eq] at hmoved ⊢
      exact ⟨_, _, _, hmoved, fun h => ⟨h, id⟩, fun _ => rfl⟩
  | shut hkeeper => exact ⟨_, _, _, .shut hkeeper, fun h => ⟨h, id⟩, fun _ => rfl⟩
  | discardRequest hkeeper hmail =>
      exact ⟨_, _, _, .discardRequest hkeeper hmail, fun h => ⟨h, id⟩, fun _ => rfl⟩
  | discardOther hkeeper hmail hother =>
      exact ⟨_, _, _, .discardOther hkeeper hmail hother, fun h => ⟨h, id⟩, fun _ => rfl⟩
  | stop hkeeper hmail =>
      have hmoved : Move (s.retold gone passed log) .stop _ := .stop hkeeper hmail
      rw [State.cancelAll_eq] at hmoved ⊢
      exact ⟨_, _, _, hmoved, fun h => ⟨h, id⟩, fun _ => rfl⟩

/-! ### Another log -/

/-- The state without what was logged. -/
def State.muted (s : State) : State := { s with log := [] }

theorem muted_eq_iff : s.muted = t.muted ↔ s = { t with log := s.log } := by
  constructor
  · intro h
    cases s
    cases t
    simp only [State.muted, State.mk.injEq] at h ⊢
    simp_all
  · intro h
    rw [h]
    rfl

/-- States that differ in their logs alone allow the same actions, and differ in their logs alone
    after them. -/
theorem step_of_muted (hmuted : u.muted = s.muted) (hstep : step? s a = some t) :
    ∃ v, step? u a = some v ∧ v.muted = t.muted := by
  obtain ⟨gone', passed', log', hmove, hsame, -⟩ :=
    (move_of_step hstep).retold s.readerGone s.forwarded u.log
  obtain ⟨rfl, hpassed⟩ := hsame rfl
  obtain rfl := hpassed rfl
  rw [muted_eq_iff] at hmuted
  rw [hmuted]
  exact ⟨_, step_of_move hmove, rfl⟩

theorem run_of_muted (hmuted : u.muted = s.muted) (hrun : run? s as = some t) :
    ∃ v, run? u as = some v ∧ v.muted = t.muted := by
  induction as generalizing s u with
  | nil =>
      obtain rfl := Option.some.inj hrun
      exact ⟨u, rfl, hmuted⟩
  | cons a rest ih =>
      obtain ⟨s', hstep, hrest⟩ := Option.bind_eq_some_iff.mp hrun
      obtain ⟨u', hstep', hmuted'⟩ := step_of_muted hmuted hstep
      obtain ⟨v, hv, hvt⟩ := ih hmuted' hrest
      exact ⟨v, by rw [run?, hstep', Option.bind_some, hv], hvt⟩

theorem Settled.relogged (h : Settled s) (log : List Notice) :
    Settled { s with log := log } := by
  intro a hinner
  cases hstep : step? { s with log := log } a with
  | none => rfl
  | some t =>
      obtain ⟨v, hv, -⟩ := step_of_muted (u := s) (s := { s with log := log }) rfl hstep
      rw [h a hinner] at hv
      cases hv

/-! ### Another reader -/

/-- Had the reader stayed, the same would have happened but for what was passed on and logged. -/
theorem run_of_retold (hrun : run? s as = some t) (passed : List Value) (log : List Notice) :
    ∃ passed' log', run? (s.retold false passed log) (as.filter fun a => !a.isLeave) =
      some (t.retold false passed' log') := by
  induction as generalizing s passed log with
  | nil =>
      obtain rfl := Option.some.inj hrun
      exact ⟨passed, log, rfl⟩
  | cons a rest ih =>
      obtain ⟨s', hstep, hrest⟩ := Option.bind_eq_some_iff.mp hrun
      by_cases hleave : a.isLeave = true
      · rw [List.filter_cons_of_neg (by simp [hleave])]
        have hsame : s'.retold false passed log = s.retold false passed log := by
          cases a with
          | leave =>
              obtain rfl := Option.some.inj hstep
              rfl
          | _ => cases hleave
        rw [← hsame]
        exact ih hrest passed log
      · rw [Bool.not_eq_true] at hleave
        rw [List.filter_cons_of_pos (by simp [hleave])]
        obtain ⟨gone', passed', log', hmove, -, hstays⟩ :=
          (move_of_step hstep).retold false passed log
        obtain rfl := hstays hleave
        obtain ⟨passed'', log'', hv⟩ := ih hrest passed' log'
        exact ⟨passed'', log'', by rw [run?, step_of_move hmove, Option.bind_some, hv]⟩

end ConsoleTap.Exchange
