import ConsoleTap.Proofs.Exchange.Muted
import ConsoleTap.Proofs.Exchange.History
import Mathlib.Data.List.Nodup
import Mathlib.Data.List.Perm.Basic

/-!
# What the log says

A step notes what its state and its action determine, whatever the log holds already, so
the log of a run is what its steps noted, one after the other.  Three kinds of notices are
about a request and name its id: that it is waited for, that it was answered and that it ran
out of time.  Each comes from one kind of step, the keeper's taking the registration, its
taking the reply and its giving up; so how many such lines a log has for an id is a question
about the steps of the run.
-/

namespace ConsoleTap.Exchange

open ConsoleTap.Json

variable {s t u : State} {a : Action} {as : List Action} {p : Pending} {m : Moment} {id : Nat}

/-! ### What a step notes -/

def noticed (s : State) : Action → List Notice
  | .route _ => if s.mailboxOpen then [] else [.frameAfterStop]
  | .handle =>
      match s.keeper, s.mailbox with
      | .running, .register p :: _ => [.tracking p.id p.method]
      | .running, .frame frame :: _ =>
          match s.awaited? frame with
          | some p => [.answered p.id p.method (.ofMillis (s.now - p.begunAt))]
          | none => if s.readerGone then [.frameWithoutReader] else []
      | _, _ => []
  | .expire => s.overdue.map fun p => .timedOut p.id p.method (.ofMillis (s.now - p.begunAt))
  | .stop => if s.pending.isEmpty then [] else [.cancelling s.pending.length]
  | _ => []

theorem Move.log (hmove : Move s a t) : t.log = s.log ++ noticed s a := by
  cases hmove with
  | route frame hopen => simp [noticed, hopen]
  | routeLate frame hshut => simp [noticed, hshut, State.note]
  | withdraw hcall hphase =>
      rw [State.post]
      split <;> exact (List.append_nil _).symm
  | announce hcloser =>
      rw [State.post]
      split <;> exact (List.append_nil _).symm
  | takeRequest hkeeper hmail => simp [noticed, hkeeper, hmail, State.note]
  | takeForget hkeeper hmail => simp [noticed, hkeeper, hmail]
  | takeReply hkeeper hmail hreply => simp [noticed, hkeeper, hmail, hreply]
  | takeEvent hkeeper hmail hreply hreader => simp [noticed, hkeeper, hmail, hreply, hreader]
  | dropEvent hkeeper hmail hreply hreader =>
      simp [noticed, hkeeper, hmail, hreply, hreader, State.note]
  | takeShutdown hkeeper hmail => simp [noticed, hkeeper, hmail]
  | expire hkeeper hoverdue =>
      rw [State.expireAll_eq]
      rfl
  | stop hkeeper hmail =>
      rw [State.cancelAll_eq]
      rfl
  | _ => exact (List.append_nil _).symm

theorem noticed_of_muted (h : u.muted = s.muted) : noticed u a = noticed s a := by
  rw [muted_eq_iff.mp h]
  rfl

/-- In a state with another log the same is noted, behind what that log holds. -/
theorem step_of_relogged (h : u.muted = s.muted) (hstep : step? s a = some t) :
    step? u a = some { t with log := u.log ++ noticed s a } := by
  obtain ⟨v, hv, hmuted⟩ := step_of_muted h hstep
  rw [hv, muted_eq_iff.mp hmuted, (move_of_step hv).log, noticed_of_muted h]

/-- The state with another log. -/
def State.relogged (s : State) (log : List Notice) : State := { s with log := log }

/-- Another log makes no difference to what takes place. -/
theorem step?_relogged (s : State) (log : List Notice) (a : Action) :
    step? (s.relogged log) a = (step? s a).map (·.relogged (log ++ noticed s a)) := by
  cases hstep : step? s a with
  | some t => exact step_of_relogged rfl hstep
  | none =>
      cases hother : step? (s.relogged log) a with
      | none => rfl
      | some u =>
          have hback := step_of_relogged (u := s) (s := s.relogged log) rfl hother
          rw [hstep] at hback
          cases hback

theorem log_eq_along (hrun : run? {} as = some s) : s.log = Run.along step? noticed {} as := by
  rw [run?_eq_follow] at hrun
  refine Run.follow_induction (motive := fun as u => u.log = Run.along step? noticed {} as) rfl ?_
    hrun
  intro as u a v hrun hstep ih
  rw [Run.along_snoc noticed hrun hstep, (move_of_step hstep).log, ih]

/-! ### The lines of a kind -/

/-- The lines of a log that pass a test, if lines from that level on are shown. -/
def lines (level : Level) (test : Notice → Bool) (log : List Notice) : List Notice :=
  (log.filter (Notice.isShownAt level)).filter test

section Lines

variable {test : Notice → Bool}

theorem lines_trace (test : Notice → Bool) (log : List Notice) :
    lines .trace test log = log.filter test := by
  have hall : ∀ n ∈ log, n.isShownAt .trace = true := fun _ _ => decide_eq_true (Nat.zero_le _)
  rw [lines, List.filter_eq_self.mpr hall]

theorem lines_along (hrun : run? {} as = some s) :
    lines .trace test s.log =
      Run.along step? (fun s a => lines .trace test (noticed s a)) {} as := by
  rw [log_eq_along hrun, lines_trace]
  rw [run?_eq_follow] at hrun
  exact (Run.along_eq_filter _ noticed _ hrun fun m _ => lines_trace test _).symm

theorem lines_eq_nil (hrun : run? {} as = some s)
    (h : ∀ m, Occurs as m → ∀ n ∈ noticed m.state m.action, ¬ test n = true) :
    lines .trace test s.log = [] := by
  rw [lines_along hrun]
  rw [run?_eq_follow] at hrun
  refine Run.along_eq_nil _ hrun fun m hm => ?_
  rw [lines_trace, List.filter_eq_nil_iff]
  exact h m hm

/-- If one step only notes such lines, they are all the lines of the kind. -/
theorem Occurs.lines_eq (hm : Occurs as m) (hrun : run? {} as = some s)
    (honly : ∀ m', Occurs as m' → ∀ n ∈ noticed m'.state m'.action, test n = true → m' = m) :
    lines .trace test s.log = lines .trace test (noticed m.state m.action) := by
  rw [lines_along hrun]
  rw [run?_eq_follow] at hrun
  refine Run.Moment.In.along_eq _ hrun hm fun m' hm' hsome => ?_
  rw [lines_trace, ne_eq, List.filter_eq_nil_iff] at hsome
  push Not at hsome
  obtain ⟨n, hn, htest⟩ := hsome
  exact honly m' hm' n hn htest

end Lines

/-! ### What is said about a request -/

/-- What a notice can say about a request. -/
inductive Remark where
  | tracking
  | answered
  | timedOut
deriving DecidableEq, Repr

/-- What a notice says, and about which id, if it is about a request. -/
def remark? : Notice → Option (Remark × Nat)
  | .tracking id _ => some (.tracking, id)
  | .answered id _ _ => some (.answered, id)
  | .timedOut id _ _ => some (.timedOut, id)
  | _ => none

/-- The lines of a log that say so about an id, if lines from that level on are shown. -/
def remarks (level : Level) (r : Remark) (id : Nat) (log : List Notice) : List Notice :=
  lines level (fun n => remark? n = some (r, id)) log

/-- The step notes such a line. -/
def Remarks (r : Remark) (id : Nat) (s : State) (a : Action) : Prop :=
  ∃ n ∈ noticed s a, remark? n = some (r, id)

theorem remarks_eq_nil {r : Remark} (hrun : run? {} as = some s)
    (h : ¬ Happens as (Remarks r id)) : remarks .trace r id s.log = [] :=
  lines_eq_nil hrun fun m hm n hn htest => h ⟨m, hm, n, hn, of_decide_eq_true htest⟩

theorem Occurs.remarks_eq {r : Remark} (hm : Occurs as m) (hrun : run? {} as = some s)
    (honly : ∀ m', Occurs as m' → Remarks r id m'.state m'.action → m' = m) :
    remarks .trace r id s.log = remarks .trace r id (noticed m.state m.action) :=
  hm.lines_eq hrun fun m' hm' n hn htest => honly m' hm' ⟨n, hn, of_decide_eq_true htest⟩

/-! ### Which steps say it -/

/-- What a step must be for the notice to be noted in it. -/
inductive Notes (s : State) (a : Action) : Notice → Prop where
  | tracking {p : Pending} (h : Handles (.register p) s a) : Notes s a (.tracking p.id p.method)
  | answered {p : Pending} {frame : Value} (h : Answers p frame s a) :
      Notes s a (.answered p.id p.method (.ofMillis (s.now - p.begunAt)))
  | timedOut {p : Pending} (h : Expires p s a) :
      Notes s a (.timedOut p.id p.method (.ofMillis (s.now - p.begunAt)))
  | cancelling (ha : a = .stop) (h : s.pending ≠ []) : Notes s a (.cancelling s.pending.length)
  | frameAfterStop : Notes s a .frameAfterStop
  | frameWithoutReader : Notes s a .frameWithoutReader

theorem notes_of_mem {n : Notice} (h : n ∈ noticed s a) : Notes s a n := by
  cases a with
  | route frame =>
      simp only [noticed, List.mem_ite_nil_left, List.mem_singleton] at h
      exact h.2 ▸ .frameAfterStop
  | handle =>
      simp only [noticed] at h
      split at h
      · rename_i p rest hkeeper hmail
        exact List.mem_singleton.mp h ▸ .tracking ⟨rfl, hkeeper, rest, hmail⟩
      · rename_i frame rest hkeeper hmail
        split at h
        · rename_i p hreply
          exact List.mem_singleton.mp h ▸ .answered ⟨⟨rfl, hkeeper, rest, hmail⟩, hreply⟩
        · simp only [List.mem_ite_nil_right, List.mem_singleton] at h
          exact h.2 ▸ .frameWithoutReader
      · cases h
  | expire =>
      obtain ⟨p, hp, rfl⟩ := List.mem_map.mp h
      obtain ⟨hp, hdue⟩ := List.mem_filter.mp hp
      exact .timedOut ⟨rfl, hp, of_decide_eq_true hdue⟩
  | stop =>
      simp only [noticed, List.isEmpty_iff, List.mem_ite_nil_left, List.mem_singleton] at h
      exact h.2 ▸ .cancelling rfl h.1
  | _ => cases h

theorem Handles.noticed (h : Handles (.register p) s a) :
    noticed s a = [.tracking p.id p.method] := by
  obtain ⟨rfl, hkeeper, rest, hmail⟩ := h
  rw [Exchange.noticed, hkeeper, hmail]

theorem Answers.noticed {frame : Value} (h : Answers p frame s a) :
    noticed s a = [.answered p.id p.method (.ofMillis (s.now - p.begunAt))] := by
  obtain ⟨⟨rfl, hkeeper, rest, hmail⟩, hreply⟩ := h
  rw [Exchange.noticed, hkeeper, hmail]
  simp only [hreply]

theorem Expires.mem_noticed (h : Expires p s a) :
    .timedOut p.id p.method (.ofMillis (s.now - p.begunAt)) ∈ noticed s a := by
  obtain ⟨rfl, hp, hdue⟩ := h
  exact List.mem_map_of_mem (List.mem_filter.mpr ⟨hp, decide_eq_true hdue⟩)

theorem remarks_tracking_iff :
    Remarks .tracking id s a ↔ ∃ p : Pending, p.id = id ∧ Handles (.register p) s a := by
  constructor
  · rintro ⟨n, hn, hremark⟩
    cases notes_of_mem hn with
    | tracking h => exact ⟨_, (Prod.mk.inj (Option.some.inj hremark)).2, h⟩
    | _ => cases hremark
  · rintro ⟨p, rfl, h⟩
    exact ⟨_, h.noticed ▸ List.mem_singleton_self _, rfl⟩

theorem remarks_answered_iff :
    Remarks .answered id s a ↔ ∃ (p : Pending) (frame : Value), p.id = id ∧ Answers p frame s a := by
  constructor
  · rintro ⟨n, hn, hremark⟩
    cases notes_of_mem hn with
    | answered h => exact ⟨_, _, (Prod.mk.inj (Option.some.inj hremark)).2, h⟩
    | _ => cases hremark
  · rintro ⟨p, frame, rfl, h⟩
    exact ⟨_, h.noticed ▸ List.mem_singleton_self _, rfl⟩

theorem remarks_timedOut_iff :
    Remarks .timedOut id s a ↔ ∃ p : Pending, p.id = id ∧ Expires p s a := by
  constructor
  · rintro ⟨n, hn, hremark⟩
    cases notes_of_mem hn with
    | timedOut h => exact ⟨_, (Prod.mk.inj (Option.some.inj hremark)).2, h⟩
    | _ => cases hremark
  · rintro ⟨p, rfl, h⟩
    exact ⟨_, h.mem_noticed, rfl⟩

/-- Of those who run out of time together, no two have the same id. -/
theorem Expires.remarks_noticed (h : Expires p s a) (hids : (s.pending.map Pending.id).Nodup) :
    remarks .trace .timedOut p.id (noticed s a) =
      [.timedOut p.id p.method (.ofMillis (s.now - p.begunAt))] := by
  obtain ⟨rfl, hp, hdue⟩ := h
  have hself : s.overdue.filter (fun q => q.id = p.id) = [p] := by
    refine List.perm_singleton.mp ((List.perm_ext_iff_of_nodup ?_ (List.nodup_singleton p)).mpr ?_)
    · exact ((hids.of_map _).filter _).filter _
    · intro q
      simp only [State.overdue, List.mem_filter, decide_eq_true_eq, List.mem_singleton]
      constructor
      · rintro ⟨⟨hq, -⟩, hid⟩
        exact List.inj_on_of_nodup_map hids hq hp hid
      · rintro rfl
        exact ⟨⟨hp, hdue⟩, rfl⟩
  have htest : (fun n => decide (remark? n = some (.timedOut, p.id))) ∘
      (fun q : Pending => Notice.timedOut q.id q.method (.ofMillis (s.now - q.begunAt))) =
        fun q => decide (q.id = p.id) := by
    funext q
    simp [remark?]
  rw [remarks, lines_trace, noticed, List.filter_map, htest, hself]
  rfl

end ConsoleTap.Exchange
