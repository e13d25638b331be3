import ConsoleTap.Proofs.Exchange.Freshness
import ConsoleTap.Proofs.Exchange.Replies
import ConsoleTap.Proofs.Exchange.Timers

/-!
# Refused commands

A caller whose command the channel refuses has its registration taken back.  If the channel
answers at once, nobody acts in between, so the withdrawal stands right behind the
registration in the mailbox: when the keeper has taken the one, the other is what it takes
next, at the same reading of the clock.  Whatever a keeper decides about a pending request,
by a frame, by a deadline or on its way out, it therefore decides about one whose command
was written.
-/

namespace ConsoleTap.Exchange

open ConsoleTap.Json

variable {s t : State} {a : Action} {as : List Action} {n : Nat} {p : Pending} {m : Moment}

/-! ### In the middle of a turn -/

/-- The registration of a caller in the middle of its turn is the last message, put there at this
    reading of the clock. -/
def State.AtHand (s : State) : Prop :=
  ∀ n c id, s.calls[n]? = some c → c.phase.isMidTurn = true → c.phase.heldId? = some id →
    s.mailboxOpen = true ∧ ∃ earlier p, s.mailbox = earlier ++ [.register p] ∧ p.call = n ∧
      p.id = id ∧ p.begunAt = s.now

theorem State.AtHand.step (h : s.AtHand) (hmove : Move s a t)
    (halone : ∀ n, s.MidTurn n → ∃ refusal, a = .caller n refusal) : t.AtHand := by
  intro n c' id hcall' hturn hheld
  rcases progress_of_move hmove hcall' with ⟨-, hphase, -⟩ | ⟨c, hcall, hprogress⟩
  · simp [hphase, Phase.isMidTurn] at hturn
  · have hcaller : c.phase.isMidTurn = true → ∃ refusal, a = .caller n refusal :=
      fun h => halone n ⟨c, hcall, h⟩
    have hstep := step_of_move hmove
    cases hprogress with
    | stay hother =>
        obtain ⟨refusal, ha⟩ := hcaller hturn
        exact absurd ha (hother refusal)
    | register hphase hlimit hopen =>
        simp only [step?, State.callerStep?, hcall, hphase, hlimit, State.enqueue, if_pos hopen,
          State.post, Option.some.injEq] at hstep
        obtain rfl := Option.some.inj hheld
        rw [← hstep]
        exact ⟨hopen, s.mailbox, _, rfl, rfl, rfl, rfl⟩
    | writeRefused hphase =>
        simp only [step?, State.callerStep?, hcall, hphase, Option.some.injEq] at hstep
        obtain rfl := Option.some.inj hheld
        rw [← hstep]
        exact h n c _ hcall (by rw [hphase]; rfl) (by rw [hphase]; rfl)
    | answered | expired | cancelledQueued | cancelled =>
        obtain ⟨refusal, ha⟩ := hcaller hturn
        cases ha
    | write => cases hturn
    | _ => cases hheld

theorem AnswersAtOnce.atHand (h : AnswersAtOnce as) (hm : Occurs as m) : m.state.AtHand := by
  refine Run.moments_induction (motive := fun _ u => u.AtHand) ?_ ?_
    ((List.prefix_append _ _).trans hm.1) hm.2.1
  · intro n c id hcall
    cases hcall
  · exact fun q hq ih => ih.step (Occurs.move hq) fun n => h q n hq

/-! ### The withdrawal right behind -/

/-- The withdrawal of a request is right behind its registration, or what the keeper takes next once
    it has taken that, all at one reading of the clock; or the request is not tracked any more. -/
inductive State.Withdraws (s : State) (p : Pending) : Prop where
  | queued {before after : List Message}
      (hmail : s.mailbox = before ++ .register p :: .forget p.id :: after) (hnow : p.begunAt = s.now)
  | taken {after : List Message} (hrunning : s.keeper = .running) (hp : p ∈ s.pending)
      (hmail : s.mailbox = .forget p.id :: after) (hnow : p.begunAt = s.now)
  | gone (h : p ∉ s.tracked)

/-- What leaves the mailbox of a running keeper was taken by it. -/
theorem Move.handles {x : Message} (hmove : Move s a t) (hrunning : s.keeper = .running)
    (hmail : s.mailbox = x :: t.mailbox) : Handles x s a := by
  have hne : ∀ {ms : List Message}, s.mailbox ≠ x :: (s.mailbox ++ ms) := by
    intro ms heq
    have hlength := congrArg List.length heq
    simp only [List.length_cons, List.length_append] at hlength
    omega
  have hsame : s.mailbox ≠ x :: s.mailbox := by simp
  cases hmove with
  | route frame hopen => exact absurd hmail hne
  | register hcall hphase hlimit hopen => exact absurd hmail hne
  | withdraw hcall hphase =>
      rw [State.post] at hmail
      split at hmail
      · exact absurd hmail hne
      · exact absurd hmail hsame
  | announce hcloser =>
      rw [State.post] at hmail
      split at hmail
      · exact absurd hmail hne
      · exact absurd hmail hsame
  | expire hkeeper hoverdue =>
      rw [State.expireAll_eq] at hmail
      exact absurd hmail hsame
  | takeRequest | takeForget | takeReply | takeEvent | dropEvent | takeShutdown =>
      exact ⟨rfl, hrunning, _, hmail⟩
  | discardRequest hkeeper | discardOther hkeeper | stop hkeeper =>
      rw [hrunning] at hkeeper
      cases hkeeper
  | _ => exact absurd hmail hsame

theorem Move.forgets {id : Nat} (hmove : Move s a t) (h : Handles (.forget id) s a) :
    t.pending = without s.pending id := by
  obtain ⟨rfl, hrunning, rest, hmail⟩ := h
  have hstep := step_of_move hmove
  simp only [step?, hrunning, hmail, State.takeMessage, Option.some.injEq] at hstep
  rw [← hstep]

theorem State.Withdraws.step (h : s.Withdraws p) (hcoherent : Coherent s.books)
    (hmove : Move s a t) (hregisters : ¬ Registers p s a)
    (hpace : ∀ ms, a = .tick ms → s.mailbox = []) : t.Withdraws p := by
  by_cases hp : p ∈ t.tracked
  swap
  · exact .gone hp
  have hps : p ∈ s.tracked := by
    by_contra hnew
    exact hregisters (hmove.registers hnew hp)
  have hnow : s.mailbox ≠ [] → t.now = s.now :=
    fun hne => hmove.now fun ms ha => hne (hpace ms ha)
  cases h with
  | gone hgone => exact absurd hps hgone
  | @queued before after hmail hbegun =>
      rw [← hnow (by simp [hmail])] at hbegun
      rcases hmove.mailbox with hsame | ⟨x, happend, -⟩ | ⟨x, hdrop⟩
      · exact .queued (hsame.trans hmail) hbegun
      · exact .queued (by rw [happend, hmail, List.append_assoc]; rfl) hbegun
      · cases before with
        | cons y before =>
            exact .queued (List.cons.inj (hdrop.symm.trans hmail)).2 hbegun
        | nil =>
            obtain ⟨rfl, hrest⟩ := List.cons.inj (hdrop.symm.trans hmail)
            -- the registration is in the mailbox once, so it is in the table now
            have hids := hcoherent.ids_nodup
            have hpending : p ∈ t.pending := by
              refine (List.mem_append.mp hp).resolve_right fun hqueued => ?_
              have hnodup : (requests s.mailbox).Nodup :=
                (hids.of_map _).sublist (List.sublist_append_right _ _)
              rw [hdrop, requests_register, List.nodup_cons] at hnodup
              exact hnodup.1 hqueued
            have hnew : p ∉ s.pending := fun hp => hcoherent.not_queued hp (by simp [hdrop])
            have hhandles := hmove.pends hnew hpending
            refine .taken ?_ hpending hrest hbegun
            by_contra hleft
            obtain ⟨-, -, rest, hshutdown⟩ := hmove.left hhandles.2.1 hleft
            rw [hdrop] at hshutdown
            cases (List.cons.inj hshutdown).1
  | @taken after hrunning hpending hmail hbegun =>
      rw [← hnow (by simp [hmail])] at hbegun
      have hstill := hcoherent.pending_of_tracked hmove hpending hp
      have hkeeper : t.keeper = .running := by
        by_contra hleft
        obtain ⟨-, -, rest, hshutdown⟩ := hmove.left hrunning hleft
        rw [hmail] at hshutdown
        cases (List.cons.inj hshutdown).1
      rcases hmove.mailbox with hsame | ⟨x, happend, -⟩ | ⟨x, hdrop⟩
      · exact .taken hkeeper hstill (hsame.trans hmail) hbegun
      · exact .taken hkeeper hstill (by rw [happend, hmail]; rfl) hbegun
      · obtain ⟨rfl, -⟩ := List.cons.inj (hdrop.symm.trans hmail)
        rw [hmove.forgets (hmove.handles hrunning hdrop)] at hstill
        exact absurd rfl (of_decide_eq_true (List.mem_filter.mp hstill).2)

theorem Occurs.withdraws {id : Nat} {c : Call} {cause : TransportFault}
    {refusal : Option TransportFault} (hm : Occurs as m) (hathand : m.state.AtHand)
    (hregistered : Happens as (Registers p)) (hcall : m.state.calls[p.call]? = some c)
    (hphase : c.phase = .refused id cause) (haction : m.action = .caller p.call refusal) :
    m.next.Withdraws p := by
  obtain ⟨hopen, earlier, q, hmail, hn, rfl, hnow⟩ :=
    hathand p.call c id hcall (by rw [hphase]; rfl) (by rw [hphase]; rfl)
  have hq := registered_of_tracked hm.run (mem_tracked_of_queued (p := q) (by simp [hmail]))
  obtain rfl := (hm.happens hq).registration_unique hregistered hn
  have hstep := hm.2.2
  simp only [haction, step?, State.callerStep?, hcall, hphase, State.post, if_pos hopen,
    Option.some.injEq] at hstep
  rw [← hstep]
  have hposted : m.state.mailbox ++ [.forget q.id] = earlier ++ .register q :: .forget q.id :: [] :=
    (congrArg (· ++ [Message.forget q.id]) hmail).trans (List.append_assoc _ _ _)
  exact .queued hposted hnow

/-- A request whose caller has given up on it is being withdrawn. -/
theorem AnswersAtOnce.withdraws (h : AnswersAtOnce as) (hpaced : Paced as) (hm : Occurs as m)
    (hp : p ∈ m.state.tracked) (hgave : m.state.GaveUp p) : m.state.Withdraws p := by
  obtain ⟨c, cause, hcall, hdone⟩ := hgave
  have hregistered := hm.happens (registered_of_tracked hm.run hp)
  obtain ⟨r, hr, e, _, limit, -, he, -, hlimit, -⟩ := registered_of_tracked hm.run hp
  obtain ⟨w, d, id, refusal, hw, hd, hphase, haction⟩ :=
    exists_withdrawal hm.run hcall ((hr.call_kept hm.run he hcall).1.trans hlimit) hdone
  obtain ⟨hwas, hearlier⟩ := hm.earlier hw
  have hreaches : w.next.Reaches p.call 3 :=
    State.Reaches.step ⟨d, hd, by simp [hphase, Phase.rank]⟩ hw.2.2
  refine (Run.Moment.In.lasts_along (P := fun u => u.Withdraws p ∧ u.Reaches p.call 3) hwas ?_ hm
    hearlier ⟨hwas.withdraws (h.atHand hwas) hregistered hd hphase haction, hreaches⟩).1
  rintro q hq - ⟨hwithdraws, hreaches⟩
  refine ⟨hwithdraws.step (Occurs.coherent hq) (Occurs.move hq) hreaches.not_registers ?_,
    hreaches.step hq.2.2⟩
  exact fun ms htick => (hpaced q ms hq htick).mailbox (closing_of_run (Occurs.run hq))

/-! ### What the keeper decides about -/

/-- At a step that is no caller's, a tracked request was written, or its caller has given up. -/
theorem AnswersAtOnce.written_or_gaveUp (h : AnswersAtOnce as) (hm : Occurs as m)
    (hp : p ∈ m.state.tracked) (hother : ∀ n refusal, m.action ≠ .caller n refusal) :
    Happens as (Writes p.call p.id none) ∨ m.state.GaveUp p := by
  obtain ⟨c, hcall, -, howns⟩ := hm.coherent.tracked_call p hp
  rcases howns with hheld | ⟨cause, hdone⟩
  · have hnot : ¬ c.phase.isMidTurn = true := by
      intro hturn
      obtain ⟨refusal, haction⟩ := h m p.call hm ⟨c, hcall, hturn⟩
      exact hother p.call refusal haction
    cases hphase : c.phase with
    | waiting id =>
        obtain rfl : id = p.id := by simpa [hphase, Phase.heldId?] using hheld
        exact Or.inl (hm.happens (written_of_waiting hm.run hcall hphase))
    | _ => simp_all [Phase.heldId?, Phase.isMidTurn]
  · exact Or.inr ⟨c, cause, hcall, hdone⟩

/-- The keeper decides about a request in its table: it takes a frame, expires requests, or
    stops. -/
theorem AnswersAtOnce.written (h : AnswersAtOnce as) (hpaced : Paced as) (hm : Occurs as m)
    (hp : p ∈ m.state.pending)
    (hdecides : (∃ frame, Takes frame m.state m.action) ∨
      Expires p m.state m.action ∧ p.begunAt < p.deadline ∨ m.action = .stop) :
    Happens as (Writes p.call p.id none) := by
  have htracked := mem_tracked_of_mem_pending hp
  have hother : ∀ n refusal, m.action ≠ .caller n refusal := by
    rintro n refusal haction
    rcases hdecides with ⟨frame, htakes⟩ | ⟨hexpires, -⟩ | hstop
    · cases haction.symm.trans htakes.1
    · cases haction.symm.trans hexpires.1
    · cases haction.symm.trans hstop
  refine (h.written_or_gaveUp hm htracked hother).resolve_right fun hgave => ?_
  cases h.withdraws hpaced hm htracked hgave with
  | gone hgone => exact hgone htracked
  | queued hmail => exact hm.coherent.not_queued hp (by simp [hmail])
  | taken hrunning hpending hmail hnow =>
      rcases hdecides with ⟨frame, htakes⟩ | ⟨hexpires, hlater⟩ | hstop
      · obtain ⟨-, -, rest, hmail'⟩ := htakes
        rw [hmail] at hmail'
        cases (List.cons.inj hmail').1
      · have hdue := hexpires.2.2
        omega
      · have hstep := hm.2.2
        simp [hstop, step?, hrunning] at hstep

end ConsoleTap.Exchange
