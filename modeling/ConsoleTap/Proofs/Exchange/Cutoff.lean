import ConsoleTap.Proofs.Exchange.Cause

/-!
# What a shutdown cuts off

Once the keeper has taken a shutdown nobody is let in any more, no reply is heard and
nothing expires.  So a request that has no outcome by then is cancelled, whether it was
begun before or after, unless its caller is in the middle of its turn: then the channel may
still refuse its command.  With a channel that answers at once nobody else acts in the
middle of a turn.
-/

namespace ConsoleTap.Exchange

open ConsoleTap.Json

variable {s t : State} {a : Action} {as : List Action} {n : Nat} {c c' : Call} {o : Outcome}
  {m : Moment}

/-- The caller was let in, and the channel has not answered yet or was just heard to refuse. -/
def Phase.isMidTurn : Phase → Bool
  | .admitted | .numbered _ | .registered _ | .refused .. => true
  | .started | .waiting _ | .done _ => false

/-- The call of that number was begun, and its caller is in the middle of its turn. -/
def State.MidTurn (s : State) (n : Nat) : Prop :=
  ∃ c, s.calls[n]? = some c ∧ c.phase.isMidTurn = true

/-- The channel answers at once: while a caller is in the middle of its turn, nobody else acts. -/
def AnswersAtOnce (as : List Action) : Prop :=
  ∀ m n, Occurs as m → m.state.MidTurn n → ∃ refusal, m.action = .caller n refusal

/-- The call of that number has no outcome: it was not begun yet, or it is not over and its caller
    was given no word. -/
def State.Undecided (s : State) (n : Nat) : Prop :=
  ∀ c, s.calls[n]? = some c → c.outcome? = none ∧ c.word = none

/-- The call can only be cancelled, or be refused by the channel if its caller was in the middle of
    its turn. -/
structure Call.CutOff (c : Call) (midTurn : Prop) : Prop where
  word : ∀ o, c.word = some o → o = .error .cancelled
  turn : c.phase.isMidTurn = true → midTurn ∧ c.limit.isSome = true
  outcome : ∀ o, c.phase = .done o →
    o = .error .cancelled ∨ midTurn ∧ ∃ cause, o = .error (.transport cause)

theorem Call.CutOff.progress {midTurn : Prop} (h : c.CutOff midTurn) (hclosed : s.closed = true)
    (hkeeper : s.keeper ≠ .running) (hexpire : a ≠ .expire) (hprogress : Progress s n a c c') :
    c'.CutOff midTurn := by
  cases hprogress with
  | stay hother => exact h
  | letIn hphase hopen =>
      rw [hclosed] at hopen
      cases hopen
  | turnAway hphase => exact ⟨h.word, nofun, fun o ho => Or.inl (Phase.done.inj ho).symm⟩
  | draw hphase =>
      exact ⟨h.word, fun _ => h.turn (by rw [hphase]; rfl), nofun⟩
  | register hphase hlimit hopen =>
      exact ⟨h.word, fun _ => h.turn (by rw [hphase]; rfl), nofun⟩
  | registerLate hphase hlimit hshut =>
      exact ⟨h.word, nofun, fun o ho => Or.inl (Phase.done.inj ho).symm⟩
  | notify hphase hnone =>
      have hlimit := (h.turn (by rw [hphase]; rfl)).2
      rw [hnone] at hlimit
      cases hlimit
  | write hphase => exact ⟨h.word, nofun, nofun⟩
  | writeRefused hphase =>
      exact ⟨h.word, fun _ => h.turn (by rw [hphase]; rfl), nofun⟩
  | withdraw hphase =>
      have hturn := (h.turn (by rw [hphase]; rfl)).1
      exact ⟨h.word, nofun,
        fun o ho => Or.inr ⟨hturn, _, (Phase.done.inj ho).symm⟩⟩
  | learn hphase hword =>
      exact ⟨h.word, nofun,
        fun o ho => Or.inl (h.word o (Phase.done.inj ho ▸ hword))⟩
  | answered hrunning => exact absurd hrunning hkeeper
  | expired => exact absurd rfl hexpire
  | cancelledQueued | cancelled =>
      exact ⟨fun o ho => (Option.some.inj ho).symm, h.turn, h.outcome⟩

/-- The session is closed, the keeper has taken a shutdown, and the call of that number, if it was
    begun, is cut off. -/
structure State.CutsOff (s : State) (n : Nat) (midTurn : Prop) : Prop where
  closed : s.closed = true
  left : s.keeper ≠ .running
  call : ∀ c, s.calls[n]? = some c → c.CutOff midTurn

theorem State.CutsOff.step {midTurn : Prop} (h : s.CutsOff n midTurn) (hmove : Move s a t) :
    t.CutsOff n midTurn where
  closed := hmove.closed h.closed
  left hrunning := h.left (hmove.running hrunning)
  call c' hcall' := by
    have hexpire : a ≠ .expire := by
      rintro rfl
      cases hmove with
      | expire hkeeper hoverdue => exact h.left hkeeper
    rcases progress_of_move hmove hcall' with ⟨-, hphase, hword⟩ | ⟨c, hcall, hprogress⟩
    · exact ⟨by simp [hword], by simp [hphase, Phase.isMidTurn], by simp [hphase]⟩
    · exact (h.call c hcall).progress h.closed h.left hexpire hprogress

theorem Occurs.cutsOff (hm : Occurs as m) (hshutdown : Handles .shutdown m.state m.action)
    (hundecided : m.state.Undecided n)
    (hlimit : ∀ c, m.state.calls[n]? = some c → c.limit.isSome = true) :
    m.next.CutsOff n (m.state.MidTurn n) := by
  obtain ⟨haction, hrunning, rest, hmail⟩ := hshutdown
  have hmove := hm.move
  have hclosed := (closing_of_run hm.run).shutdown_closed (by simp [hmail])
  rw [haction] at hmove
  have hnext : m.next = { m.state with mailbox := rest, keeper := .leaving } := by
    have hstep := hm.2.2
    rw [haction, step?, hrunning, hmail] at hstep
    exact (Option.some.inj hstep).symm
  refine ⟨hmove.closed hclosed, by simp [hnext], fun c hcall => ?_⟩
  rw [hnext] at hcall
  obtain ⟨hnone, hword⟩ := hundecided c hcall
  refine ⟨by simp [hword], fun hturn => ⟨⟨c, hcall, hturn⟩, hlimit c hcall⟩, fun o ho => ?_⟩
  simp [Call.outcome?, ho] at hnone

theorem Progress.withdraws {id : Nat} {cause : TransportFault} (h : Progress s n a c c')
    (hphase : c.phase = .refused id cause) (hdone : c'.phase = .done o) :
    ∃ refusal, a = .caller n refusal := by
  cases h with
  | withdraw => exact ⟨_, rfl⟩
  | _ => simp_all

/-- A call ends with a transport error only by taking its registration back. -/
theorem exists_withdrawal {limit : Nat} {cause : TransportFault} (hrun : run? {} as = some s)
    (hcall : s.calls[n]? = some c) (hlimit : c.limit = some limit)
    (hdone : c.phase = .done (.error (.transport cause))) :
    ∃ m d id refusal, Occurs as m ∧ m.state.calls[n]? = some d ∧ d.phase = .refused id cause ∧
      m.action = .caller n refusal := by
  obtain ⟨m, d, d', hm, hd, -, hprogress, hnew, hdone'⟩ :=
    exists_progress (P := fun c => c.phase = .done (.error (.transport cause))) hrun hcall hdone
      (fun c hphase _ => by simp [hphase])
  have hdlimit : d.limit = some limit := (hm.call_kept hrun hd hcall).1.symm.trans hlimit
  rcases hprogress.ends hdlimit hnew hdone' with
    ⟨-, hcancelled⟩ | ⟨id, cause', hphase, hcause⟩ | ⟨id, hphase, hword⟩
  · cases hcancelled
  · obtain rfl := Fault.transport.inj (Except.error.inj hcause)
    obtain ⟨refusal, haction⟩ := hprogress.withdraws hphase hdone'
    exact ⟨m, d, id, refusal, hm, hd, hphase, haction⟩
  · obtain ⟨m', p, -, -, hdecides⟩ := decided_of_word hm.run hd hword
    -- the keeper's word is never a transport error
    generalize ho : (Except.error (Fault.transport cause) : Outcome) = o at hdecides
    cases hdecides with
    | reply hanswers =>
        rename_i frame
        rcases ofReply_cases frame with ⟨v, hv⟩ | ⟨code, message, he⟩
        · rw [hv] at ho
          cases ho
        · rw [he] at ho
          cases ho
    | expiry hexpires => cases ho
    | cancellation hcancels => cases ho

/-- A call ends with a transport error only if the channel refused its command. -/
theorem refused_of_outcome {limit : Nat} {cause : TransportFault} (hrun : run? {} as = some s)
    (hcall : s.calls[n]? = some c) (hlimit : c.limit = some limit)
    (hdone : c.phase = .done (.error (.transport cause))) :
    ∃ id, Happens as (Writes n id (some cause)) := by
  obtain ⟨m, d, id, refusal, hm, hd, hphase, -⟩ := exists_withdrawal hrun hcall hlimit hdone
  exact ⟨id, hm.happens (refused_of_phase hm.run hd hphase)⟩

/-- A request that has no outcome when the keeper takes the shutdown ends with its cancellation, or
    the shutdown came in the middle of its caller's turn and the channel refused its command. -/
theorem Occurs.cut_off {limit : Nat} (hm : Occurs as m) (hrun : run? {} as = some s)
    (hshutdown : Handles .shutdown m.state m.action) (hundecided : m.state.Undecided n)
    (hcall : s.calls[n]? = some c) (hlimit : c.limit = some limit) (hdone : c.phase = .done o) :
    o = .error .cancelled ∨ m.state.MidTurn n ∧
      ∃ id cause, o = .error (.transport cause) ∧ Happens as (Writes n id (some cause)) := by
  have hcut := hm.cutsOff hshutdown hundecided fun d hd => by
    rw [← (hm.call_kept hrun hd hcall).1, hlimit]
    rfl
  have hfollow := hrun
  rw [run?_eq_follow] at hfollow
  have hlast := Run.Moment.In.lasts_to_end (P := fun u => u.CutsOff n (m.state.MidTurn n))
    (fun _ _ _ hstep h => h.step (move_of_step hstep)) hm hfollow hcut
  rcases (hlast.call c hcall).outcome o hdone with hcancelled | ⟨hturn, cause, rfl⟩
  · exact Or.inl hcancelled
  · obtain ⟨id, hrefused⟩ := refused_of_outcome hrun hcall hlimit hdone
    exact Or.inr ⟨hturn, id, cause, rfl, hrefused⟩

theorem AnswersAtOnce.not_midTurn (h : AnswersAtOnce as) (hm : Occurs as m)
    (hshutdown : Handles .shutdown m.state m.action) : ¬ m.state.MidTurn n := by
  intro hturn
  obtain ⟨refusal, haction⟩ := h m n hm hturn
  rw [hshutdown.1] at haction
  cases haction

end ConsoleTap.Exchange
