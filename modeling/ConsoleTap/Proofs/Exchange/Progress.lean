import ConsoleTap.Proofs.Exchange.Coherence

/-!
# The progress of one call

A move of the exchange leaves every call as it is but one, whose caller goes on or
to which the keeper gives its word.  `Progress` lists what can happen to a call in a
move, with the reason for it; what is said about one call in a run is said by going
through these cases.
-/

namespace ConsoleTap.Exchange

open ConsoleTap.Json ConsoleTap.Target

variable {s t : State} {a : Action} {n : Nat} {c c' : Call}

/-- What a move can do to the call of a number. -/
inductive Progress (s : State) (n : Nat) : Action → Call → Call → Prop where
  | stay {a : Action} {c : Call} (hother : ∀ refusal, a ≠ .caller n refusal) :
      Progress s n a c c
  | letIn {c : Call} {refusal : Option TransportFault} (hphase : c.phase = .started)
      (hclosed : s.closed = false) :
      Progress s n (.caller n refusal) c { c with phase := .admitted }
  | turnAway {c : Call} {refusal : Option TransportFault} (hphase : c.phase = .started)
      (hclosed : s.closed = true) :
      Progress s n (.caller n refusal) c { c with phase := .done (.error .cancelled) }
  | draw {c : Call} {refusal : Option TransportFault} (hphase : c.phase = .admitted) :
      Progress s n (.caller n refusal) c { c with phase := .numbered s.nextId }
  | register {c : Call} {id limit : Nat} {refusal : Option TransportFault}
      (hphase : c.phase = .numbered id) (hlimit : c.limit = some limit)
      (hopen : s.mailboxOpen = true) :
      Progress s n (.caller n refusal) c { c with phase := .registered id }
  | registerLate {c : Call} {id limit : Nat} {refusal : Option TransportFault}
      (hphase : c.phase = .numbered id) (hlimit : c.limit = some limit)
      (hshut : s.mailboxOpen = false) :
      Progress s n (.caller n refusal) c { c with phase := .done (.error .cancelled) }
  | notify {c : Call} {id : Nat} {refusal : Option TransportFault} {outcome : Outcome}
      (hphase : c.phase = .numbered id) (hlimit : c.limit = none) :
      Progress s n (.caller n refusal) c { c with phase := .done outcome }
  | write {c : Call} {id : Nat} (hphase : c.phase = .registered id) :
      Progress s n (.caller n none) c { c with phase := .waiting id }
  | writeRefused {c : Call} {id : Nat} {cause : TransportFault}
      (hphase : c.phase = .registered id) :
      Progress s n (.caller n (some cause)) c { c with phase := .refused id cause }
  | withdraw {c : Call} {id : Nat} {cause : TransportFault} {refusal : Option TransportFault}
      (hphase : c.phase = .refused id cause) :
      Progress s n (.caller n refusal) c { c with phase := .done (.error (.transport cause)) }
  | learn {c : Call} {id : Nat} {outcome : Outcome} {refusal : Option TransportFault}
      (hphase : c.phase = .waiting id) (hword : c.word = some outcome) :
      Progress s n (.caller n refusal) c { c with phase := .done outcome }
  | answered {c : Call} {frame : Value} {p : Pending} {rest : List Message}
      (hkeeper : s.keeper = .running) (hmail : s.mailbox = .frame frame :: rest)
      (hreply : s.awaited? frame = some p) (hn : p.call = n) :
      Progress s n .handle c { c with word := some (Outcome.ofReply frame) }
  | expired {c : Call} {p : Pending} (hp : p ∈ s.overdue) (hn : p.call = n) :
      Progress s n .expire c { c with word := some (.error (timeoutFault p.method)) }
  | cancelledQueued {c : Call} {p : Pending} {rest : List Message}
      (hkeeper : s.keeper = .draining) (hmail : s.mailbox = .register p :: rest)
      (hn : p.call = n) :
      Progress s n .discard c { c with word := some (.error .cancelled) }
  | cancelled {c : Call} {p : Pending} (hkeeper : s.keeper = .draining) (hp : p ∈ s.pending)
      (hn : p.call = n) :
      Progress s n .stop c { c with word := some (.error .cancelled) }

theorem tell_cases {calls : List Call} {words : List (Nat × Outcome)}
    (hcall : (tell calls words)[n]? = some c') :
    calls[n]? = some c' ∨
      ∃ c o, calls[n]? = some c ∧ (n, o) ∈ words ∧ c' = { c with word := some o } := by
  induction words generalizing calls with
  | nil => exact Or.inl hcall
  | cons w words ih =>
      rw [tell_cons] at hcall
      rcases ih hcall with hcall | ⟨d, o, hd, hmem, rfl⟩
      · by_cases hn : w.1 = n
        · subst hn
          rw [List.getElem?_modify_eq] at hcall
          obtain ⟨c, hc, rfl⟩ := Option.map_eq_some_iff.mp hcall
          exact Or.inr ⟨c, w.2, hc, List.mem_cons_self, rfl⟩
        · rw [List.getElem?_modify_ne _ _ hn] at hcall
          exact Or.inl hcall
      · apply Or.inr
        by_cases hn : w.1 = n
        · subst hn
          rw [List.getElem?_modify_eq] at hd
          obtain ⟨c, hc, rfl⟩ := Option.map_eq_some_iff.mp hd
          exact ⟨c, o, hc, List.mem_cons_of_mem _ hmem, rfl⟩
        · rw [List.getElem?_modify_ne _ _ hn] at hd
          exact ⟨d, o, hd, List.mem_cons_of_mem _ hmem, rfl⟩

theorem progress_of_rephase {m : Nat} {φ : Phase} {d : Call} {refusal : Option TransportFault}
    (hd : s.calls[m]? = some d) (hcalls : t.calls = rephase s.calls m φ)
    (hcall : t.calls[n]? = some c')
    (hprogress : n = m → Progress s n (.caller m refusal) d { d with phase := φ }) :
    ∃ c, s.calls[n]? = some c ∧ Progress s n (.caller m refusal) c c' := by
  rw [hcalls] at hcall
  rcases rephase_cases hd hcall with ⟨rfl, rfl⟩ | ⟨hne, hcall⟩
  · exact ⟨d, hd, hprogress rfl⟩
  · refine ⟨c', hcall, .stay ?_⟩
    intro _ heq
    exact hne (Action.caller.inj heq).1

theorem progress_of_tell {words : List (Nat × Outcome)} (hcalls : t.calls = tell s.calls words)
    (hcall : t.calls[n]? = some c') (hother : ∀ refusal, a ≠ .caller n refusal)
    (hprogress : ∀ c o, (n, o) ∈ words → Progress s n a c { c with word := some o }) :
    ∃ c, s.calls[n]? = some c ∧ Progress s n a c c' := by
  rw [hcalls] at hcall
  rcases tell_cases hcall with hcall | ⟨c, o, hc, hmem, rfl⟩
  · exact ⟨c', hcall, .stay hother⟩
  · exact ⟨c, hc, hprogress c o hmem⟩

/-- A call after a move has just been begun, or it was there and made progress. -/
theorem progress_of_move (hmove : Move s a t) (hcall : t.calls[n]? = some c') :
    (s.calls[n]? = none ∧ c'.phase = .started ∧ c'.word = none) ∨
      ∃ c, s.calls[n]? = some c ∧ Progress s n a c c' := by
  cases hmove with
  | begin method params limit =>
      rw [List.getElem?_append] at hcall
      split at hcall
      · exact Or.inr ⟨c', hcall, .stay (by simp)⟩
      · rename_i hlength
        have hmem := List.mem_of_getElem? hcall
        rw [List.mem_singleton] at hmem
        subst hmem
        exact Or.inl ⟨List.getElem?_eq_none (Nat.le_of_not_lt hlength), rfl, rfl⟩
  | letIn hd hphase hclosed =>
      exact Or.inr (progress_of_rephase hd rfl hcall fun hn => hn ▸ .letIn hphase hclosed)
  | turnAway hd hphase hclosed =>
      exact Or.inr (progress_of_rephase hd rfl hcall fun hn => hn ▸ .turnAway hphase hclosed)
  | draw hd hphase =>
      exact Or.inr (progress_of_rephase hd rfl hcall fun hn => hn ▸ .draw hphase)
  | register hd hphase hlimit hopen =>
      exact Or.inr (progress_of_rephase hd rfl hcall fun hn => hn ▸ .register hphase hlimit hopen)
  | registerLate hd hphase hlimit hshut =>
      exact Or.inr
        (progress_of_rephase hd rfl hcall fun hn => hn ▸ .registerLate hphase hlimit hshut)
  | notify hd hphase hlimit =>
      exact Or.inr (progress_of_rephase hd rfl hcall fun hn => hn ▸ .notify hphase hlimit)
  | notifyRefused hd hphase hlimit =>
      exact Or.inr (progress_of_rephase hd rfl hcall fun hn => hn ▸ .notify hphase hlimit)
  | write hd hphase =>
      exact Or.inr (progress_of_rephase hd rfl hcall fun hn => hn ▸ .write hphase)
  | writeRefused hd hphase =>
      exact Or.inr (progress_of_rephase hd rfl hcall fun hn => hn ▸ .writeRefused hphase)
  | withdraw hd hphase =>
      rename_i m id d cause refusal
      have hcalls : ((s.post (.forget id)).setPhase m (.done (.error (.transport cause)))).calls =
          rephase s.calls m (.done (.error (.transport cause))) := by
        cases hopen : s.mailboxOpen <;>
          simp [State.post, hopen, State.setPhase, State.updateCall, rephase]
      exact Or.inr (progress_of_rephase hd hcalls hcall fun hn => hn ▸ .withdraw hphase)
  | learn hd hphase hword =>
      exact Or.inr (progress_of_rephase hd rfl hcall fun hn => hn ▸ .learn hphase hword)
  | announce hcloser =>
      have hcalls : (s.post .shutdown).calls = s.calls := by
        cases hopen : s.mailboxOpen <;> simp [State.post, hopen]
      refine Or.inr ⟨c', ?_, .stay (by simp)⟩
      rw [← hcalls]
      exact hcall
  | takeReply hkeeper hmail hreply =>
      refine Or.inr (progress_of_tell rfl hcall (by simp) ?_)
      intro c o hmem
      rw [List.mem_singleton, Prod.mk.injEq] at hmem
      obtain ⟨rfl, rfl⟩ := hmem
      exact .answered hkeeper hmail hreply rfl
  | expire hkeeper hoverdue =>
      rw [State.expireAll_eq] at hcall
      refine Or.inr (progress_of_tell rfl hcall (by simp) ?_)
      intro c o hmem
      obtain ⟨p, hp, heq⟩ := List.mem_map.mp hmem
      obtain ⟨rfl, rfl⟩ := Prod.mk.inj heq
      exact .expired hp rfl
  | discardRequest hkeeper hmail =>
      refine Or.inr (progress_of_tell rfl hcall (by simp) ?_)
      intro c o hmem
      rw [List.mem_singleton, Prod.mk.injEq] at hmem
      obtain ⟨rfl, rfl⟩ := hmem
      exact .cancelledQueued hkeeper hmail rfl
  | stop hkeeper hmail =>
      rw [State.cancelAll_eq] at hcall
      refine Or.inr (progress_of_tell rfl hcall (by simp) ?_)
      intro c o hmem
      obtain ⟨p, hp, heq⟩ := List.mem_map.mp hmem
      obtain ⟨rfl, rfl⟩ := Prod.mk.inj heq
      exact .cancelled hkeeper hp rfl
  | _ => exact Or.inr ⟨c', hcall, .stay (by simp)⟩

/-- Calls are begun one at a time, and none goes away. -/
theorem Move.length_calls (hmove : Move s a t) :
    t.calls.length = s.calls.length ∨
      t.calls.length = s.calls.length + 1 ∧ ∃ method params limit, a = .begin method params limit := by
  cases hmove with
  | begin method params limit => exact Or.inr ⟨by simp, _, _, _, rfl⟩
  | withdraw hcall hphase =>
      rw [State.post]
      split <;> exact Or.inl (by simp [State.setPhase, State.updateCall])
  | announce hcloser =>
      rw [State.post]
      split <;> exact Or.inl rfl
  | takeReply hkeeper hmail hreply => exact Or.inl (length_tell _ _)
  | expire hkeeper hoverdue =>
      rw [State.expireAll_eq]
      exact Or.inl (length_tell _ _)
  | discardRequest hkeeper hmail => exact Or.inl (length_tell _ _)
  | stop hkeeper hmail =>
      rw [State.cancelAll_eq]
      exact Or.inl (length_tell _ _)
  | _ => exact Or.inl (by simp [State.setPhase, State.updateCall, State.recordWrite, State.note])

theorem length_calls_of_move (hmove : Move s a t) : s.calls.length ≤ t.calls.length := by
  rcases hmove.length_calls with heq | ⟨heq, -⟩ <;> omega

theorem Move.progress (hmove : Move s a t) (hcall : s.calls[n]? = some c) :
    ∃ c', t.calls[n]? = some c' ∧ Progress s n a c c' := by
  have hlt : n < t.calls.length :=
    Nat.lt_of_lt_of_le (List.getElem?_eq_some_iff.mp hcall).1 (length_calls_of_move hmove)
  refine ⟨t.calls[n], List.getElem?_eq_getElem hlt, ?_⟩
  rcases progress_of_move hmove (List.getElem?_eq_getElem hlt) with ⟨hnone, -⟩ | ⟨d, hd, hprogress⟩
  · rw [hcall] at hnone
    cases hnone
  · obtain rfl := Option.some.inj (hcall.symm.trans hd)
    exact hprogress

/-! ### What progress keeps -/

/-- How far a phase is on the way from the beginning to the end. -/
def Phase.rank : Phase → Nat
  | .started => 0
  | .admitted => 1
  | .numbered _ => 2
  | .registered _ => 3
  | .refused .. | .waiting _ => 4
  | .done _ => 5

/-- A caller never goes back. -/
theorem Progress.rank_le (h : Progress s n a c c') : c.phase.rank ≤ c'.phase.rank := by
  cases h <;> simp_all [Phase.rank]

theorem Progress.rank_lt {refusal : Option TransportFault}
    (h : Progress s n (.caller n refusal) c c') : c.phase.rank < c'.phase.rank := by
  cases h <;> simp_all [Phase.rank]

theorem Progress.limit_eq (h : Progress s n a c c') : c'.limit = c.limit := by
  cases h <;> rfl

theorem Progress.method_eq (h : Progress s n a c c') : c'.method = c.method := by
  cases h <;> rfl

theorem Progress.params_eq (h : Progress s n a c c') : c'.params = c.params := by
  cases h <;> rfl

theorem Progress.done (h : Progress s n a c c') {o : Outcome} (hdone : c.phase = .done o) :
    c'.phase = .done o := by
  cases h <;> simp_all

theorem Move.outcome (hmove : Move s a t) {o : Outcome}
    (hcall : (s.calls[n]?).bind Call.outcome? = some o) :
    (t.calls[n]?).bind Call.outcome? = some o := by
  obtain ⟨c, hc, hdone⟩ := Option.bind_eq_some_iff.mp hcall
  obtain ⟨c', hc', hprogress⟩ := hmove.progress hc
  have hphase : c.phase = .done o := by
    cases hphase : c.phase <;> simp_all [Call.outcome?]
  rw [hc', Option.bind_some, Call.outcome?, hprogress.done hphase]

end ConsoleTap.Exchange
