import ConsoleTap.Proofs.Exchange.History

/-!
# Commands and their callers

Every command that was handed to the channel was written by one caller, and no caller
writes twice.  `ledger` lists the writes of a run with their callers; who is beyond the
point of writing, and was not turned away before it, is in it.
-/

namespace ConsoleTap.Exchange

open ConsoleTap.Json ConsoleTap.Target

variable {s t : State} {a : Action} {as : List Action} {n : Nat} {c c' : Call} {w : Write}

/-! ### What is written in a step -/

/-- The id under which a caller writes, if that is its next action. -/
def Call.writeId? (c : Call) : Option Nat :=
  match c.phase with
  | .registered id => some id
  | .numbered id => if c.limit.isNone then some id else none
  | _ => none

/-- What is written in a step, with the caller. -/
def written (s : State) : Action → List (Nat × Write)
  | .caller n refusal =>
      match s.calls[n]? with
      | some c => c.writeId?.toList.map fun id => (n, ⟨⟨id, c.method, c.params⟩, refusal⟩)
      | none => []
  | _ => []

theorem mem_written (h : (n, w) ∈ written s a) :
    ∃ c id refusal, a = .caller n refusal ∧ s.calls[n]? = some c ∧ c.writeId? = some id ∧
      w = ⟨⟨id, c.method, c.params⟩, refusal⟩ := by
  unfold written at h
  split at h
  · rename_i k refusal
    split at h
    · rename_i c hcall
      obtain ⟨id, hid, heq⟩ := List.mem_map.mp h
      obtain ⟨rfl, rfl⟩ := Prod.mk.inj heq
      exact ⟨c, id, refusal, rfl, hcall, Option.mem_toList.mp hid, rfl⟩
    · cases h
  · cases h

theorem Move.writes (hmove : Move s a t) : t.writes = s.writes ++ (written s a).map Prod.snd := by
  cases hmove with
  | letIn hcall hphase =>
      simp [written, hcall, Call.writeId?, hphase, State.setPhase, State.updateCall]
  | turnAway hcall hphase =>
      simp [written, hcall, Call.writeId?, hphase, State.setPhase, State.updateCall]
  | draw hcall hphase =>
      simp [written, hcall, Call.writeId?, hphase, State.setPhase, State.updateCall]
  | register hcall hphase hlimit hopen =>
      simp [written, hcall, Call.writeId?, hphase, hlimit, State.setPhase, State.updateCall]
  | registerLate hcall hphase hlimit hshut =>
      simp [written, hcall, Call.writeId?, hphase, hlimit, State.setPhase, State.updateCall]
  | notify hcall hphase hlimit =>
      simp [written, hcall, Call.writeId?, hphase, hlimit, State.recordWrite, State.setPhase,
        State.updateCall]
  | notifyRefused hcall hphase hlimit =>
      simp [written, hcall, Call.writeId?, hphase, hlimit, State.recordWrite, State.setPhase,
        State.updateCall]
  | write hcall hphase =>
      simp [written, hcall, Call.writeId?, hphase, State.recordWrite, State.setPhase,
        State.updateCall]
  | writeRefused hcall hphase =>
      simp [written, hcall, Call.writeId?, hphase, State.recordWrite, State.setPhase,
        State.updateCall]
  | withdraw hcall hphase =>
      rw [State.post]
      split <;> simp [written, hcall, Call.writeId?, hphase, State.setPhase, State.updateCall]
  | learn hcall hphase hword =>
      simp [written, hcall, Call.writeId?, hphase, State.setPhase, State.updateCall]
  | announce hcloser =>
      rw [State.post]
      split <;> simp [written]
  | expire hkeeper hoverdue => simp [State.expireAll_eq, written]
  | stop hkeeper hmail => simp [State.cancelAll_eq, written]
  | _ => simp [written, State.note]

/-! ### The ledger -/

/-- The writes of a run with their callers, in order. -/
def ledger (as : List Action) : List (Nat × Write) := Run.along step? written {} as

/-- A call whose caller has written. -/
def Call.HasWritten (c : Call) : Prop :=
  match c.phase with
  | .waiting _ | .refused .. => True
  | .done outcome => outcome ≠ .error .cancelled
  | _ => False

/-- The entries are the writes so far, each of another caller that is beyond it, and nobody who
    has written is missing. -/
structure Ledger (s : State) (entries : List (Nat × Write)) : Prop where
  writes : s.writes = entries.map Prod.snd
  nodup : (entries.map Prod.fst).Nodup
  call : ∀ {n : Nat} {w : Write}, (n, w) ∈ entries → ∃ c, s.calls[n]? = some c ∧
    4 ≤ c.phase.rank ∧ w.command.method = c.method ∧ w.command.params = c.params
  complete : ∀ {n : Nat} {c : Call}, s.calls[n]? = some c → c.HasWritten →
    n ∈ entries.map Prod.fst

theorem writeId?_rank {id : Nat} (h : c.writeId? = some id) : c.phase.rank < 4 := by
  unfold Call.writeId? at h
  split at h <;> simp_all [Phase.rank]

theorem Progress.rank_of_write {refusal : Option TransportFault} {id : Nat}
    (h : Progress s n (.caller n refusal) c c') (hid : c.writeId? = some id) :
    4 ≤ c'.phase.rank := by
  cases h with
  | stay hother => exact absurd rfl (hother refusal)
  | register hphase hlimit hopen => simp [Call.writeId?, hphase, hlimit] at hid
  | _ => simp_all [Call.writeId?, Phase.rank]

theorem Progress.hasWritten (h : Progress s n a c c') (hcall : s.calls[n]? = some c)
    (hwritten : c'.HasWritten) : c.HasWritten ∨ n ∈ (written s a).map Prod.fst := by
  cases h with
  | stay => exact Or.inl hwritten
  | notify hphase hlimit =>
      exact Or.inr (by simp [written, hcall, Call.writeId?, hphase, hlimit])
  | write hphase => exact Or.inr (by simp [written, hcall, Call.writeId?, hphase])
  | writeRefused hphase => exact Or.inr (by simp [written, hcall, Call.writeId?, hphase])
  | withdraw hphase => exact Or.inl (by simp [Call.HasWritten, hphase])
  | learn hphase => exact Or.inl (by simp [Call.HasWritten, hphase])
  | turnAway => exact absurd rfl hwritten
  | registerLate => exact absurd rfl hwritten
  | answered => exact Or.inl hwritten
  | expired => exact Or.inl hwritten
  | cancelledQueued => exact Or.inl hwritten
  | cancelled => exact Or.inl hwritten
  | letIn => exact absurd hwritten id
  | draw => exact absurd hwritten id
  | register => exact absurd hwritten id

theorem Ledger.step {entries : List (Nat × Write)} (h : Ledger s entries) (hmove : Move s a t) :
    Ledger t (entries ++ written s a) where
  writes := by rw [hmove.writes, h.writes, List.map_append]
  nodup := by
    rw [List.map_append, List.nodup_append]
    refine ⟨h.nodup, ?_, ?_⟩
    · unfold written
      split
      · split
        · rename_i c _
          cases c.writeId? <;> simp
        · exact List.nodup_nil
      · exact List.nodup_nil
    · -- who writes now is not yet beyond writing
      intro n hn k hk hnk
      obtain ⟨⟨n', w⟩, hw, rfl⟩ := List.mem_map.mp hn
      obtain ⟨⟨k', w'⟩, hw', rfl⟩ := List.mem_map.mp hk
      obtain rfl : n' = k' := hnk
      obtain ⟨c, hcall, hrank, -⟩ := h.call hw
      obtain ⟨c', id, refusal, -, hcall', hid, -⟩ := mem_written hw'
      obtain rfl := Option.some.inj (hcall.symm.trans hcall')
      have hlt := writeId?_rank hid
      omega
  call hw := by
    rcases List.mem_append.mp hw with hw | hw
    · obtain ⟨c, hcall, hrank, hmethod, hparams⟩ := h.call hw
      obtain ⟨c', hcall', hprogress⟩ := hmove.progress hcall
      exact ⟨c', hcall', hrank.trans hprogress.rank_le, hmethod.trans hprogress.method_eq.symm,
        hparams.trans hprogress.params_eq.symm⟩
    · obtain ⟨c, id, refusal, rfl, hcall, hid, rfl⟩ := mem_written hw
      obtain ⟨c', hcall', hprogress⟩ := hmove.progress hcall
      exact ⟨c', hcall', hprogress.rank_of_write hid, hprogress.method_eq.symm,
        hprogress.params_eq.symm⟩
  complete hcall hwritten := by
    rw [List.map_append, List.mem_append]
    rcases progress_of_move hmove hcall with ⟨-, hphase, -⟩ | ⟨c, hc, hprogress⟩
    · simp [Call.HasWritten, hphase] at hwritten
    · exact (hprogress.hasWritten hc hwritten).imp_left (h.complete hc)

theorem ledger_of_run (hrun : run? {} as = some s) : Ledger s (ledger as) := by
  rw [run?_eq_follow] at hrun
  refine Run.follow_induction (motive := fun as s => Ledger s (ledger as)) ?_ ?_ hrun
  · exact ⟨rfl, List.nodup_nil, fun hw => absurd hw List.not_mem_nil, fun hcall => by simp at hcall⟩
  · intro as u a v hrun hstep h
    rw [ledger, Run.along_snoc _ hrun hstep]
    exact h.step (move_of_step hstep)

theorem exists_write (hrun : run? {} as = some s) (hw : (n, w) ∈ ledger as) :
    ∃ m, Occurs as m ∧ (n, w) ∈ written m.state m.action := by
  rw [run?_eq_follow] at hrun
  obtain ⟨k, hk⟩ := List.mem_iff_getElem?.mp hw
  obtain ⟨m, hm, j, hj, -⟩ := Run.exists_moment_of_along written hrun hk
  exact ⟨m, hm, List.mem_of_getElem? hj⟩

theorem drawn_of_ledger (hrun : run? {} as = some s) (hw : (n, w) ∈ ledger as) :
    Happens as (Draws n w.command.id) := by
  obtain ⟨m, hm, hwrites⟩ := exists_write hrun hw
  obtain ⟨c, id, refusal, -, hcall, hid, rfl⟩ := mem_written hwrites
  refine hm.happens (drawn_of_id hm.run hcall ?_)
  unfold Call.writeId? at hid
  split at hid <;> simp_all [Phase.id?]

end ConsoleTap.Exchange
