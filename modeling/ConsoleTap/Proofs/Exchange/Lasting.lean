import ConsoleTap.Proofs.Exchange.Cause
import ConsoleTap.Proofs.Exchange.Muted
import ConsoleTap.Proofs.Exchange.Writing

/-!
# What lasts in an exchange

Calls are never dropped and never change what they ask for, outcomes are final, what
was written and what was passed on stays so, and nothing that was closed is opened
again.  `Lasts` says so of two states, one of which leads to the other; the log plays no
part in it.
-/

namespace ConsoleTap.Exchange

open ConsoleTap.Json

variable {s t u : State} {a : Action} {as : List Action}

/-- What the first state shows for good, the second one shows. -/
structure Lasts (s t : State) : Prop where
  call : ∀ {n : Nat} {c : Call}, s.calls[n]? = some c →
    ∃ c', t.calls[n]? = some c' ∧ c'.method = c.method ∧ c'.params = c.params ∧
      c'.limit = c.limit
  outcome : ∀ n o, s.outcome? n = some o → t.outcome? n = some o
  writes : s.writes <+: t.writes
  forwarded : s.forwarded <+: t.forwarded
  closed : s.closed = true → t.closed = true
  stopped : s.keeper = .stopped → t.keeper = .stopped ∧ t.forwarded = s.forwarded

theorem Lasts.refl (s : State) : Lasts s s :=
  ⟨fun hcall => ⟨_, hcall, rfl, rfl, rfl⟩, fun _ _ ho => ho, List.prefix_rfl, List.prefix_rfl,
    fun hclosed => hclosed, fun hstopped => ⟨hstopped, rfl⟩⟩

theorem Lasts.trans (h : Lasts s t) (h' : Lasts t u) : Lasts s u := by
  refine ⟨?_, fun n o ho => h'.outcome n o (h.outcome n o ho), h.writes.trans h'.writes,
    h.forwarded.trans h'.forwarded, fun hclosed => h'.closed (h.closed hclosed), ?_⟩
  · intro n c hcall
    obtain ⟨c', hcall', hmethod, hparams, hlimit⟩ := h.call hcall
    obtain ⟨c'', hcall'', hmethod', hparams', hlimit'⟩ := h'.call hcall'
    exact ⟨c'', hcall'', hmethod'.trans hmethod, hparams'.trans hparams, hlimit'.trans hlimit⟩
  · intro hstopped
    obtain ⟨hstopped', hforwarded⟩ := h.stopped hstopped
    obtain ⟨hstopped'', hforwarded'⟩ := h'.stopped hstopped'
    exact ⟨hstopped'', hforwarded'.trans hforwarded⟩

theorem Move.forwarded_prefix (hmove : Move s a t) :
    s.forwarded <+: t.forwarded ∧
      (s.keeper = .stopped → t.keeper = .stopped ∧ t.forwarded = s.forwarded) := by
  cases hmove with
  | takeEvent hkeeper hmail hreply hreader =>
      refine ⟨List.prefix_append _ _, fun hstopped => ?_⟩
      rw [hkeeper] at hstopped
      cases hstopped
  | withdraw hcall hphase =>
      rw [State.post]
      split <;> exact ⟨List.prefix_rfl, fun hstopped => ⟨hstopped, rfl⟩⟩
  | announce hcloser =>
      rw [State.post]
      split <;> exact ⟨List.prefix_rfl, fun hstopped => ⟨hstopped, rfl⟩⟩
  | takeShutdown hkeeper hmail =>
      refine ⟨List.prefix_rfl, fun hstopped => ?_⟩
      rw [hkeeper] at hstopped
      cases hstopped
  | expire hkeeper hoverdue =>
      rw [State.expireAll_eq]
      exact ⟨List.prefix_rfl, fun hstopped => ⟨hstopped, rfl⟩⟩
  | shut hkeeper =>
      refine ⟨List.prefix_rfl, fun hstopped => ?_⟩
      rw [hkeeper] at hstopped
      cases hstopped
  | stop hkeeper hmail =>
      rw [State.cancelAll_eq]
      exact ⟨List.prefix_rfl, fun _ => ⟨rfl, rfl⟩⟩
  | _ => exact ⟨List.prefix_rfl, fun hstopped => ⟨hstopped, rfl⟩⟩

theorem lasts_of_step (hstep : step? s a = some t) : Lasts s t := by
  have hmove := move_of_step hstep
  obtain ⟨hforwarded, hstopped⟩ := hmove.forwarded_prefix
  refine ⟨?_, fun n o ho => hmove.outcome ho, hmove.writes ▸ List.prefix_append _ _, hforwarded,
    hmove.closed, hstopped⟩
  intro n c hcall
  obtain ⟨c', hcall', hprogress⟩ := hmove.progress hcall
  exact ⟨c', hcall', hprogress.method_eq, hprogress.params_eq, hprogress.limit_eq⟩

theorem lasts_of_run (hrun : run? s as = some t) : Lasts s t := by
  rw [run?_eq_follow] at hrun
  exact Run.follow_keeps (P := Lasts s) (fun _ _ _ hstep h => h.trans (lasts_of_step hstep))
    (Lasts.refl s) hrun

theorem Lasts.of_muted (h : Lasts s t) (hmuted : t.muted = u.muted) : Lasts s u := by
  rw [muted_eq_iff] at hmuted
  rw [hmuted] at h
  exact ⟨h.call, h.outcome, h.writes, h.forwarded, h.closed, h.stopped⟩

theorem Lasts.length_calls (h : Lasts s t) : s.calls.length ≤ t.calls.length := by
  by_contra hlt
  rw [Nat.not_le] at hlt
  obtain ⟨c, hcall, -⟩ := h.call (List.getElem?_eq_getElem hlt)
  exact Nat.lt_irrefl _ (List.getElem?_eq_some_iff.mp hcall).1

/-- The parties begin no calls, and the reader of forwarded frames is none of them. -/
theorem Move.inner (hmove : Move s a t) (hinner : a.isInner = true) :
    t.calls.length = s.calls.length ∧ t.readerGone = s.readerGone := by
  cases hmove with
  | begin method params limit => cases hinner
  | leave => cases hinner
  | withdraw hcall hphase =>
      rw [State.post]
      split <;> simp [State.setPhase, State.updateCall]
  | announce hcloser =>
      rw [State.post]
      split <;> exact ⟨rfl, rfl⟩
  | expire hkeeper hoverdue =>
      rw [State.expireAll_eq]
      exact ⟨length_tell _ _, rfl⟩
  | stop hkeeper hmail =>
      rw [State.cancelAll_eq]
      exact ⟨length_tell _ _, rfl⟩
  | _ => simp [State.setPhase, State.updateCall, State.recordWrite, State.note]

end ConsoleTap.Exchange
