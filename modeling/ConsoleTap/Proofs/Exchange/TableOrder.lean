import ConsoleTap.Proofs.Exchange.Coherence

/-!
# The order of the table

The keeper goes through its table of pending requests in whatever order the table is in:
when it looks for what is overdue, and when it cancels what is left.  A run in which the
table may be rearranged at any time gives the same words to the same callers as the run in
which it never is.  What differs is the order in which the words are given, and the log.

Ids and callers are told apart in the table.  So a reply finds the same request in every
order, and words to different callers do not depend on which of them comes first.
-/

namespace ConsoleTap.Exchange

open ConsoleTap.Json

variable {s t u : State} {a : Action} {as : List Action} {ps qs : List Pending}
  {answered : List Nat} {log : List Notice}

/-! ### Words in another order -/

theorem tell_perm {words words' : List (Nat × Outcome)} (hperm : words.Perm words')
    (hnodup : (words.map Prod.fst).Nodup) (calls : List Call) :
    tell calls words = tell calls words' := by
  refine List.ext_getElem? fun n => ?_
  by_cases hn : n ∈ words.map Prod.fst
  · obtain ⟨⟨m, o⟩, hmem, rfl⟩ := List.mem_map.mp hn
    rw [getElem?_tell_of_mem hnodup hmem,
      getElem?_tell_of_mem ((hperm.map Prod.fst).nodup hnodup) (hperm.subset hmem)]
  · rw [getElem?_tell_of_not_mem hn,
      getElem?_tell_of_not_mem fun h => hn ((hperm.map Prod.fst).symm.subset h)]

theorem withoutAll_eq_filter (qs ps : List Pending) :
    State.withoutAll qs ps = qs.filter fun q => ∀ p ∈ ps, q.id ≠ p.id := by
  induction ps generalizing qs with
  | nil => simp [State.withoutAll]
  | cons p ps ih =>
      rw [State.withoutAll, List.foldl_cons, ← State.withoutAll, ih, without, List.filter_filter]
      refine List.filter_congr fun q _ => ?_
      simp [Bool.and_comm]

theorem withoutAll_perm {qs' ps' : List Pending} (hqs : qs.Perm qs') (hps : ps.Perm ps') :
    (State.withoutAll qs ps).Perm (State.withoutAll qs' ps') := by
  have hsame : (fun q : Pending => decide (∀ p ∈ ps, q.id ≠ p.id)) =
      fun q => decide (∀ p ∈ ps', q.id ≠ p.id) := by
    funext q
    simp only [hps.mem_iff]
  rw [withoutAll_eq_filter, withoutAll_eq_filter, hsame]
  exact hqs.filter _

/-! ### A table in another order -/

/-- The state with its table and the words given so far in another order, and with another log. -/
def State.rearranged (s : State) (ps : List Pending) (answered : List Nat) (log : List Notice) :
    State :=
  { s with pending := ps, answered := answered, log := log }

theorem rearranged_post (s : State) (m : Message) :
    (s.post m).rearranged ps answered log = (s.rearranged ps answered log).post m := by
  have hopen : (s.rearranged ps answered log).mailboxOpen = s.mailboxOpen := rfl
  rw [State.post, State.post, hopen]
  split <;> rfl

/-- Ids and callers are told apart in the table. -/
structure State.Distinct (s : State) : Prop where
  ids : (s.pending.map Pending.id).Nodup
  calls : (s.pending.map Pending.call).Nodup

theorem Coherent.distinct (h : Coherent s.books) : s.Distinct where
  ids := h.ids_nodup.sublist ((List.sublist_append_left _ _).map _)
  calls := h.calls_nodup.sublist ((List.sublist_append_left _ _).map _)

theorem State.Distinct.rearranged (h : s.Distinct) (hps : ps.Perm s.pending) :
    (s.rearranged ps answered log).Distinct where
  ids := (hps.map Pending.id).symm.nodup h.ids
  calls := (hps.map Pending.call).symm.nodup h.calls

/-- A reply finds the same request whatever the order of the table. -/
theorem awaited?_rearranged (h : s.Distinct) (hps : ps.Perm s.pending) (frame : Value) :
    (s.rearranged ps answered log).awaited? frame = s.awaited? frame := by
  cases hs : s.awaited? frame with
  | none =>
      cases hr : (s.rearranged ps answered log).awaited? frame with
      | none => rfl
      | some p =>
          obtain ⟨hp, hid⟩ := State.awaited?_eq_some hr
          exact absurd hid (State.awaited?_eq_none hs (hps.subset hp))
  | some p =>
      obtain ⟨hp, hid⟩ := State.awaited?_eq_some hs
      cases hr : (s.rearranged ps answered log).awaited? frame with
      | none => exact absurd hid (State.awaited?_eq_none hr (hps.symm.subset hp))
      | some q =>
          obtain ⟨hq, hid'⟩ := State.awaited?_eq_some hr
          have heq : q = p := List.inj_on_of_nodup_map h.ids (hps.subset hq) hp
            (Option.some.inj (hid'.symm.trans hid))
          rw [heq]

theorem hasOverdue_rearranged (hps : ps.Perm s.pending) (answered : List Nat)
    (log : List Notice) : (s.rearranged ps answered log).hasOverdue = s.hasOverdue :=
  hps.any_eq

theorem overdue_rearranged (hps : ps.Perm s.pending) :
    (s.rearranged ps answered log).overdue.Perm s.overdue :=
  hps.filter _

/-- The overdue requests are of different callers. -/
theorem State.Distinct.overdue_calls (h : s.Distinct) : (s.overdue.map Pending.call).Nodup :=
  h.calls.sublist (List.filter_sublist.map Pending.call)

/-- With its table in another order, a state allows the same move, to the same state with its table
    in another order. -/
theorem Move.rearranged (hmove : Move s a t) (hdistinct : s.Distinct) (hps : ps.Perm s.pending)
    (answered : List Nat) (log : List Notice) :
    ∃ ps' answered' log', Move (s.rearranged ps answered log) a (t.rearranged ps' answered' log') ∧
      ps'.Perm t.pending ∧ (answered.Perm s.answered → answered'.Perm t.answered) := by
  cases hmove with
  | begin method params limit => exact ⟨_, _, _, .begin method params limit, hps, id⟩
  | ask => exact ⟨_, _, _, .ask, hps, id⟩
  | route frame hopen => exact ⟨_, _, _, .route frame hopen, hps, id⟩
  | routeLate frame hshut => exact ⟨_, _, _, .routeLate frame hshut, hps, id⟩
  | leave => exact ⟨_, _, _, .leave, hps, id⟩
  | tick ms => exact ⟨_, _, _, .tick ms, hps, id⟩
  | letIn hcall hphase hclosed => exact ⟨_, _, _, .letIn hcall hphase hclosed, hps, id⟩
  | turnAway hcall hphase hclosed => exact ⟨_, _, _, .turnAway hcall hphase hclosed, hps, id⟩
  | draw hcall hphase => exact ⟨_, _, _, .draw hcall hphase, hps, id⟩
  | register hcall hphase hlimit hopen =>
      exact ⟨_, _, _, .register hcall hphase hlimit hopen, hps, id⟩
  | registerLate hcall hphase hlimit hshut =>
      exact ⟨_, _, _, .registerLate hcall hphase hlimit hshut, hps, id⟩
  | notify hcall hphase hlimit => exact ⟨_, _, _, .notify hcall hphase hlimit, hps, id⟩
  | notifyRefused hcall hphase hlimit =>
      exact ⟨_, _, _, .notifyRefused hcall hphase hlimit, hps, id⟩
  | write hcall hphase => exact ⟨_, _, _, .write hcall hphase, hps, id⟩
  | writeRefused hcall hphase => exact ⟨_, _, _, .writeRefused hcall hphase, hps, id⟩
  | @withdraw n id c cause refusal hcall hphase =>
      have hmoved : Move (s.rearranged ps answered log) (.caller n refusal) _ :=
        .withdraw hcall hphase
      rw [← rearranged_post] at hmoved
      refine ⟨ps, answered, log, hmoved, ?_⟩
      rw [State.post]
      split <;> exact ⟨hps, fun h => h⟩
  | learn hcall hphase hword => exact ⟨_, _, _, .learn hcall hphase hword, hps, id⟩
  | look hcloser => exact ⟨_, _, _, .look hcloser, hps, id⟩
  | flag hcloser => exact ⟨_, _, _, .flag hcloser, hps, id⟩
  | @announce n hcloser =>
      have hmoved : Move (s.rearranged ps answered log) (.closer n) _ := .announce hcloser
      rw [← rearranged_post] at hmoved
      refine ⟨ps, answered, log, hmoved, ?_⟩
      rw [State.post]
      split <;> exact ⟨hps, fun h => h⟩
  | takeRequest hkeeper hmail =>
      exact ⟨_, _, _, .takeRequest hkeeper hmail, (hps.filter _).append_right _, id⟩
  | takeForget hkeeper hmail => exact ⟨_, _, _, .takeForget hkeeper hmail, hps.filter _, id⟩
  | takeReply hkeeper hmail hreply =>
      rw [← awaited?_rearranged hdistinct hps] at hreply
      exact ⟨_, _, _, .takeReply hkeeper hmail hreply, hps.filter _, fun h => h.append_right _⟩
  | takeEvent hkeeper hmail hreply hreader =>
      rw [← awaited?_rearranged hdistinct hps] at hreply
      exact ⟨_, _, _, .takeEvent hkeeper hmail hreply hreader, hps, id⟩
  | dropEvent hkeeper hmail hreply hreader =>
      rw [← awaited?_rearranged hdistinct hps] at hreply
      exact ⟨_, _, _, .dropEvent hkeeper hmail hreply hreader, hps, id⟩
  | takeShutdown hkeeper hmail => exact ⟨_, _, _, .takeShutdown hkeeper hmail, hps, id⟩
  | expire hkeeper hoverdue =>
      rw [← hasOverdue_rearranged hps answered log] at hoverdue
      have hmoved : Move (s.rearranged ps answered log) .expire _ := .expire hkeeper hoverdue
      have hdue : (s.rearranged ps answered log).overdue.Perm s.overdue := overdue_rearranged hps
      have hcalls : tell (s.rearranged ps answered log).calls
            (State.timeouts (s.rearranged ps answered log).overdue) =
          tell s.calls (State.timeouts s.overdue) := by
        refine (tell_perm (hdue.symm.map _) ?_ _).symm
        rw [← State.timeouts, State.map_fst_timeouts]
        exact hdistinct.overdue_calls
      rw [State.expireAll_eq, hcalls] at hmoved
      rw [State.expireAll_eq]
      exact ⟨_, _, _, hmoved, withoutAll_perm hps hdue, fun h => h.append (hdue.map _)⟩
  | shut hkeeper => exact ⟨_, _, _, .shut hkeeper, hps, id⟩
  | discardRequest hkeeper hmail =>
      exact ⟨_, _, _, .discardRequest hkeeper hmail, hps, fun h => h.append_right _⟩
  | discardOther hkeeper hmail hother =>
      exact ⟨_, _, _, .discardOther hkeeper hmail hother, hps, id⟩
  | stop hkeeper hmail =>
      have hmoved : Move (s.rearranged ps answered log) .stop _ := .stop hkeeper hmail
      have hcalls : tell (s.rearranged ps answered log).calls
            (State.cancellations (s.rearranged ps answered log).pending) =
          tell s.calls (State.cancellations s.pending) := by
        refine (tell_perm (hps.symm.map _) ?_ _).symm
        rw [← State.cancellations, State.map_fst_cancellations]
        exact hdistinct.calls
      rw [State.cancelAll_eq, hcalls] at hmoved
      rw [State.cancelAll_eq]
      exact ⟨_, _, _, hmoved, List.Perm.refl _, fun h => h.append (hps.map _)⟩

/-! ### Runs in which the table is rearranged -/

/-- A run in which the table may be rearranged at any time. -/
inductive Shuffled : State → List Action → State → Prop where
  | done (s : State) : Shuffled s [] s
  | shuffle {s t : State} {as : List Action} {ps : List Pending} (hps : ps.Perm s.pending)
      (h : Shuffled { s with pending := ps } as t) : Shuffled s as t
  | step {s t u : State} {a : Action} {as : List Action} (hstep : step? s a = some u)
      (h : Shuffled u as t) : Shuffled s (a :: as) t

/-- The one state is the other with its table in another order, and the words given so far. -/
def State.Rearranges (t s : State) : Prop :=
  ∃ ps answered log, t = s.rearranged ps answered log ∧ ps.Perm s.pending ∧
    answered.Perm s.answered

theorem State.Rearranges.step (h : t.Rearranges s) (hcoherent : Coherent s.books)
    (hstep : step? t a = some u) : ∃ v, step? s a = some v ∧ u.Rearranges v := by
  obtain ⟨ps, answered, log, rfl, hps, hanswered⟩ := h
  obtain ⟨ps', answered', log', hmove, hps', hanswered'⟩ :=
    (move_of_step hstep).rearranged (hcoherent.distinct.rearranged hps) hps.symm s.answered s.log
  refine ⟨_, step_of_move hmove, u.pending, u.answered, u.log, rfl, hps'.symm, ?_⟩
  exact (hanswered' hanswered.symm).symm

/-- Every run in which the table is rearranged is a run in which it is not, but for the order of
    the table and of the words. -/
theorem Shuffled.run (h : Shuffled s as t) (hrearranges : s.Rearranges u)
    (hcoherent : Coherent u.books) : ∃ v, run? u as = some v ∧ t.Rearranges v := by
  induction h generalizing u with
  | done s => exact ⟨u, rfl, hrearranges⟩
  | shuffle hps _ ih =>
      refine ih ?_ hcoherent
      obtain ⟨ps, answered, log, rfl, hps', hanswered⟩ := hrearranges
      exact ⟨_, answered, log, rfl, hps.trans hps', hanswered⟩
  | step hstep _ ih =>
      obtain ⟨v, hv, hrearranges'⟩ := hrearranges.step hcoherent hstep
      obtain ⟨w, hw, hend⟩ := ih hrearranges' (hcoherent.step hv)
      exact ⟨w, by rw [run?, hv, Option.bind_some, hw], hend⟩

/-- The order of the table makes no difference to any request. -/
theorem run_of_shuffled (h : Shuffled {} as t) :
    ∃ s, run? {} as = some s ∧ t.calls = s.calls ∧ t.pending.Perm s.pending ∧
      t.answered.Perm s.answered := by
  have hstart : State.Rearranges {} {} :=
    ⟨[], [], [], rfl, List.Perm.refl _, List.Perm.refl _⟩
  obtain ⟨s, hrun, ps, answered, log, rfl, hps, hanswered⟩ := h.run hstart coherent_start
  exact ⟨s, hrun, rfl, hps, hanswered⟩

end ConsoleTap.Exchange
