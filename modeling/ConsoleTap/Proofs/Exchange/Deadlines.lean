import ConsoleTap.Proofs.Exchange.Cause

/-!
# Requests in time

A request gets its deadline when it is registered, and whatever its caller has to do by
itself takes no time.  So a call that was begun early enough has a deadline that comes
in time; and as long as no frame is taken after a deadline that has passed, what the call
brings comes in time as well.
-/

namespace ConsoleTap.Exchange

open ConsoleTap.Json

variable {s t : State} {a : Action} {as : List Action} {n limit x : Nat} {p : Pending}

/-- The clock moves by ticks alone. -/
theorem Move.now (hmove : Move s a t) (htick : ∀ ms, a ≠ .tick ms) : t.now = s.now := by
  cases hmove with
  | tick ms => exact absurd rfl (htick ms)
  | withdraw hcall hphase =>
      rw [State.post]
      split <;> rfl
  | announce hcloser =>
      rw [State.post]
      split <;> rfl
  | expire hkeeper hoverdue => rw [State.expireAll_eq]
  | stop hkeeper hmail => rw [State.cancelAll_eq]
  | _ => rfl

/-- A caller that has not been registered yet was not registered before either. -/
theorem Progress.early {c c' : Call} (h : Progress s n a c c') (hearly : c'.phase.isEarly = true) :
    c.phase.isEarly = true := by
  cases h <;> simp_all [Phase.isEarly]

/-! ### Deadlines that have not passed -/

/-- No deadline has passed of what the keeper tracks. -/
def State.Timely (s : State) : Prop := ∀ p ∈ s.tracked, s.now ≤ p.deadline

/-- No deadline has passed of what is on its way to the keeper. -/
def State.Fresh (s : State) : Prop := ∀ p ∈ requests s.mailbox, s.now ≤ p.deadline

theorem Registers.le_deadline (h : Registers p s a) : s.now ≤ p.deadline := by
  obtain ⟨c, refusal, limit, -, -, -, -, -, hp⟩ := h
  rw [hp]
  exact Nat.le_add_right _ _

theorem State.Timely.step (h : s.Timely) (hmove : Move s a t) (htick : ∀ ms, a ≠ .tick ms) :
    t.Timely := by
  intro p hp
  rw [hmove.now htick]
  by_cases hold : p ∈ s.tracked
  · exact h p hold
  · exact (hmove.registers hold hp).le_deadline

theorem State.Fresh.step (h : s.Fresh) (hmove : Move s a t) (htick : ∀ ms, a ≠ .tick ms) :
    t.Fresh := by
  intro p hp
  rw [hmove.now htick]
  rw [mem_requests] at hp
  rcases hmove.mailbox with heq | ⟨m, heq, hregisters⟩ | ⟨m, heq⟩
  · exact h p (mem_requests.mpr (heq ▸ hp))
  · rw [heq] at hp
    rcases List.mem_append.mp hp with hp | hp
    · exact h p (mem_requests.mpr hp)
    · exact (hregisters p (List.mem_singleton.mp hp).symm).le_deadline
  · exact h p (mem_requests.mpr (heq ▸ List.mem_cons_of_mem m hp))

theorem State.lt_deadline (hoverdue : s.hasOverdue = false) (hp : p ∈ s.pending) :
    s.now < p.deadline := by
  rw [State.hasOverdue, List.any_eq_false] at hoverdue
  simpa using hoverdue p hp

/-- If nothing is overdue, no deadline has passed. -/
theorem State.Fresh.timely (h : s.Fresh) (hoverdue : s.hasOverdue = false) : s.Timely := by
  intro p hp
  rcases List.mem_append.mp hp with hp | hp
  · exact (State.lt_deadline hoverdue hp).le
  · exact h p hp

/-! ### Calls in time -/

/-- The call of that number, with that time limit, is over by then if it brings anything: it can
    still be registered in time, its deadline comes in time, and what it has brought came in
    time. -/
structure State.Due (s : State) (limit n x : Nat) : Prop where
  call : ∃ c, s.calls[n]? = some c ∧ c.limit = some limit ∧
    (c.phase.isEarly = true → s.now + limit ≤ x) ∧
    ∀ v, c.word = some (.ok v) ∨ c.phase = .done (.ok v) → s.now ≤ x
  deadline : ∀ p ∈ s.tracked, p.call = n → p.deadline ≤ x

/-- A call that has just been begun. -/
theorem State.due_of_started {c : Call} (hcall : s.calls[n]? = some c)
    (hlimit : c.limit = some limit) (hphase : c.phase = .started) (hword : c.word = none)
    (hnone : ∀ p ∈ s.tracked, p.call ≠ n) : s.Due limit n (s.now + limit) where
  call := ⟨c, hcall, hlimit, fun _ => Nat.le_refl _, by simp [hphase, hword]⟩
  deadline p hp hn := absurd hn (hnone p hp)

/-- A call stays in time as long as the clock stands, if the keeper takes no reply after the
    deadline. -/
theorem State.Due.step (h : s.Due limit n x) (hmove : Move s a t) (htick : ∀ ms, a ≠ .tick ms)
    (htimely : ∀ p frame, Answers p frame s a → s.now ≤ p.deadline) : t.Due limit n x := by
  obtain ⟨c, hcall, hlimit, hearly, hbrought⟩ := h.call
  obtain ⟨c', hcall', hprogress⟩ := hmove.progress hcall
  have hnow := hmove.now htick
  constructor
  · refine ⟨c', hcall', hprogress.limit_eq.trans hlimit, ?_, ?_⟩
    · rw [hnow]
      exact fun hstill => hearly (hprogress.early hstill)
    · rw [hnow]
      cases hprogress with
      | answered hkeeper hmail hreply hn =>
          intro v _
          have hp := (State.awaited?_eq_some hreply).1
          exact (htimely _ _ ⟨⟨rfl, hkeeper, _, hmail⟩, hreply⟩).trans
            (h.deadline _ (mem_tracked_of_mem_pending hp) hn)
      | notify hphase hnone => simp [hlimit] at hnone
      | learn hphase hword =>
          intro v hv
          refine hbrought v (Or.inl ?_)
          rcases hv with hv | hv
          · exact hv
          · rw [hword, Phase.done.inj hv]
      | _ => intro v hv; exact hbrought v (by simp_all)
  · intro p hp hn
    by_cases hold : p ∈ s.tracked
    · exact h.deadline p hold hn
    · obtain ⟨d, refusal, limit', -, hd, hphase, hlimit', -, hp⟩ := hmove.registers hold hp
      rw [hn] at hd
      obtain rfl := Option.some.inj (hcall.symm.trans hd)
      obtain rfl := Option.some.inj (hlimit.symm.trans hlimit')
      rw [hp]
      exact hearly (by simp [hphase, Phase.isEarly])

/-- The clock may move while the caller waits. -/
theorem State.Due.tick {c : Call} {id : Nat} (h : s.Due limit n x) (hcall : s.calls[n]? = some c)
    (hphase : c.phase = .waiting id) (hword : c.word = none) (ms : Nat) :
    State.Due { s with now := s.now + ms } limit n x where
  call := by
    obtain ⟨d, hd, hlimit, -⟩ := h.call
    obtain rfl := Option.some.inj (hcall.symm.trans hd)
    exact ⟨c, hcall, hlimit, by simp [hphase, Phase.isEarly], by simp [hphase, hword]⟩
  deadline := h.deadline

/-- When nobody can act, nothing is overdue. -/
theorem Settled.not_overdue (h : Settled s) (hclosing : Closing s) : s.hasOverdue = false := by
  rcases h.keeper with ⟨hrunning, -⟩ | hstopped
  · have hnone := h .expire rfl
    simpa [step?, hrunning] using hnone
  · simp [State.hasOverdue, (hclosing.stopped_empty hstopped).2]

/-- When nobody can act, every pending request has its deadline ahead. -/
theorem Settled.lt_deadline (h : Settled s) (hclosing : Closing s) (hp : p ∈ s.pending) :
    s.now < p.deadline :=
  State.lt_deadline (h.not_overdue hclosing) hp

end ConsoleTap.Exchange
