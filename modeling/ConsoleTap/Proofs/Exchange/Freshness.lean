import ConsoleTap.Proofs.Exchange.Cause
import ConsoleTap.Proofs.Exchange.Writing
import Mathlib.Algebra.Group.Nat.Defs

/-!
# Ids are fresh

Ids come from a counter that only grows, so they are drawn in order and each is
drawn once.  A request enters the table under the id that its caller drew, once; when
it has left the table, nothing is left that could bring its id back: no
registration is in the mailbox, and no caller is about to make one.  Such an id is
*spent*, and a spent id stays spent.  The id of a notification is spent from the start.
-/

namespace ConsoleTap.Exchange

open ConsoleTap.Json ConsoleTap.Target

variable {s t : State} {a : Action} {as : List Action} {n id : Nat} {c c' : Call} {p : Pending}
  {m m' : Moment}

/-! ### Ids in the order in which they are drawn -/

/-- The id that is drawn in a step. -/
def drawnId (s : State) : Action → List Nat
  | .caller n _ =>
      match (s.calls[n]?).map Call.phase with
      | some .admitted => [s.nextId]
      | _ => []
  | _ => []

/-- The ids drawn in a run, in order. -/
def drawn (as : List Action) : List Nat := Run.along step? drawnId {} as

/-- The first numbers of a 64-bit counter that starts at one. -/
def counted (k : Nat) : List UInt64 := List.iterate (· + 1) 1 k

theorem map_toNat_iterate (x : UInt64) (k : Nat) (hk : x.toNat + k ≤ 2 ^ 64) :
    (List.iterate (· + 1) x k).map UInt64.toNat = List.range' x.toNat k := by
  induction k generalizing x with
  | zero => rfl
  | succ k ih =>
      rw [List.iterate, List.map_cons, List.range'_succ, List.cons.injEq]
      refine ⟨rfl, ?_⟩
      cases k with
      | zero => rfl
      | succ k =>
          have hnext : (x + 1).toNat = x.toNat + 1 := by
            rw [UInt64.toNat_add, UInt64.toNat_one, Nat.mod_eq_of_lt (by omega)]
          rw [ih (x + 1) (by omega), hnext]

/-- As long as it does not wrap, the counter gives the numbers from one on. -/
theorem map_toNat_counted {k : Nat} (hk : k < 2 ^ 64 - 1) :
    (counted k).map UInt64.toNat = List.range' 1 k :=
  map_toNat_iterate 1 k (by rw [UInt64.toNat_one]; omega)

theorem Move.counts (hmove : Move s a t) :
    (drawnId s a = [] ∧ t.nextId = s.nextId) ∨
      (drawnId s a = [s.nextId] ∧ t.nextId = s.nextId + 1) := by
  cases hmove with
  | draw hcall hphase => exact Or.inr ⟨by simp [drawnId, hcall, hphase], rfl⟩
  | letIn hcall hphase => exact Or.inl ⟨by simp [drawnId, hcall, hphase], rfl⟩
  | turnAway hcall hphase => exact Or.inl ⟨by simp [drawnId, hcall, hphase], rfl⟩
  | register hcall hphase => exact Or.inl ⟨by simp [drawnId, hcall, hphase], rfl⟩
  | registerLate hcall hphase => exact Or.inl ⟨by simp [drawnId, hcall, hphase], rfl⟩
  | notify hcall hphase => exact Or.inl ⟨by simp [drawnId, hcall, hphase], rfl⟩
  | notifyRefused hcall hphase => exact Or.inl ⟨by simp [drawnId, hcall, hphase], rfl⟩
  | write hcall hphase => exact Or.inl ⟨by simp [drawnId, hcall, hphase], rfl⟩
  | writeRefused hcall hphase => exact Or.inl ⟨by simp [drawnId, hcall, hphase], rfl⟩
  | learn hcall hphase => exact Or.inl ⟨by simp [drawnId, hcall, hphase], rfl⟩
  | withdraw hcall hphase =>
      refine Or.inl ⟨by simp [drawnId, hcall, hphase], ?_⟩
      rw [State.post]
      split <;> rfl
  | announce hcloser =>
      refine Or.inl ⟨rfl, ?_⟩
      rw [State.post]
      split <;> rfl
  | expire hkeeper hoverdue => exact Or.inl ⟨rfl, by rw [State.expireAll_eq]⟩
  | stop hkeeper hmail => exact Or.inl ⟨rfl, by rw [State.cancelAll_eq]⟩
  | _ => exact Or.inl ⟨rfl, rfl⟩

/-- The ids drawn are the numbers from one on, and the next one is the next number. -/
theorem drawn_eq (hrun : run? {} as = some s) :
    drawn as = List.range' 1 (drawn as).length ∧ s.nextId = (drawn as).length + 1 := by
  rw [run?_eq_follow] at hrun
  refine Run.follow_induction
    (motive := fun as s =>
      drawn as = List.range' 1 (drawn as).length ∧ s.nextId = (drawn as).length + 1)
    ⟨rfl, rfl⟩ ?_ hrun
  rintro as u a v hrun hstep ⟨hrange, hnext⟩
  have hsnoc : drawn (as ++ [a]) = drawn as ++ drawnId u a := Run.along_snoc drawnId hrun hstep
  rcases (move_of_step hstep).counts with ⟨hnone, hsame⟩ | ⟨hid, hgrown⟩
  · rw [hsnoc, hnone, List.append_nil]
    exact ⟨hrange, hsame.trans hnext⟩
  · have hlength : (drawn (as ++ [a])).length = (drawn as).length + 1 := by
      rw [hsnoc, hid, List.length_append, List.length_singleton]
    refine ⟨?_, by rw [hgrown, hlength, hnext]⟩
    rw [hlength, List.range'_1_concat, ← hrange, hsnoc, hid, hnext, Nat.add_comm]

theorem Occurs.mem_drawn (hm : Occurs as m) (hdraws : Draws n id m.state m.action) :
    id ∈ drawn as := by
  obtain ⟨c, refusal, haction, hcall, hphase, rfl⟩ := hdraws
  apply (Run.Moment.In.along_snoc_prefix drawnId hm).subset
  simp [haction, drawnId, hcall, hphase]

/-- No id is written twice, and every id written was drawn. -/
theorem written_ids (hrun : run? {} as = some s) :
    (s.writes.map fun w => w.command.id).Nodup ∧ ∀ w ∈ s.writes, w.command.id ∈ drawn as := by
  have hledger := ledger_of_run hrun
  rw [hledger.writes, List.map_map]
  constructor
  · refine List.Nodup.map_on ?_ hledger.nodup.of_map
    intro x hx y hy hid
    -- the same id has the same drawer, who writes once
    have hdraws := drawn_of_ledger hrun hx
    rw [show x.2.command.id = y.2.command.id from hid] at hdraws
    exact List.inj_on_of_nodup_map hledger.nodup hx hy
      (hdraws.drawer_unique (drawn_of_ledger hrun hy))
  · intro w hw
    obtain ⟨⟨n, w⟩, hmem, rfl⟩ := List.mem_map.mp hw
    obtain ⟨m, hm, hdraws⟩ := drawn_of_ledger hrun hmem
    exact hm.mem_drawn hdraws

/-! ### Spent ids -/

/-- Nothing is left that could make a request pending under the id: it has been drawn, it is
    tracked no more, and no request is about to be registered under it. -/
structure State.Spent (s : State) (id : Nat) : Prop where
  drawn : id < s.nextId
  untracked : ∀ p ∈ s.tracked, p.id ≠ id
  unclaimed : ∀ (n : Nat) (c : Call), s.calls[n]? = some c → c.phase = .numbered id →
    c.limit = none

theorem State.Spent.not_awaits (h : s.Spent id) : ¬ s.Awaits id := by
  rintro ⟨p, hp, hid⟩
  exact h.untracked p (mem_tracked_of_mem_pending hp) hid

theorem Progress.numbered (h : Progress s n a c c') (hphase : c'.phase = .numbered id) :
    c.phase = .numbered id ∨ (c.phase = .admitted ∧ id = s.nextId) := by
  cases h with
  | draw hadmitted => exact Or.inr ⟨hadmitted, (Phase.numbered.inj hphase).symm⟩
  | stay => exact Or.inl hphase
  | answered => exact Or.inl hphase
  | expired => exact Or.inl hphase
  | cancelledQueued => exact Or.inl hphase
  | cancelled => exact Or.inl hphase
  | _ => cases hphase

theorem Progress.eq_of_other {k : Nat} {refusal : Option TransportFault}
    (h : Progress s k (.caller n refusal) c c') (hk : k ≠ n) : c' = c := by
  cases h with
  | stay => rfl
  | _ => exact absurd rfl hk

theorem State.Spent.step (h : s.Spent id) (hstep : step? s a = some t) : t.Spent id where
  drawn := h.drawn.trans_le (nextId_le_of_move (move_of_step hstep))
  untracked p hp hid := by
    by_cases hold : p ∈ s.tracked
    · exact h.untracked p hold hid
    · obtain ⟨c, _, limit, -, hcall, hphase, hlimit, -⟩ :=
        (move_of_step hstep).registers hold hp
      have hnone := h.unclaimed _ c hcall (hid ▸ hphase)
      rw [hlimit] at hnone
      cases hnone
  unclaimed n c' hcall' hphase := by
    rcases progress_of_move (move_of_step hstep) hcall' with ⟨-, hstarted, -⟩ | ⟨c, hcall, hprogress⟩
    · rw [hstarted] at hphase
      cases hphase
    · rw [hprogress.limit_eq]
      rcases hprogress.numbered hphase with hnumbered | ⟨-, hid⟩
      · exact h.unclaimed n c hcall hnumbered
      · have hlt := h.drawn
        omega

/-- Whoever is tracked under an id has been registered, so nobody is about to be. -/
theorem Coherent.not_numbered (h : Coherent s.books) (hp : p ∈ s.tracked)
    (hcall : s.calls[n]? = some c) : c.phase ≠ .numbered p.id := by
  intro hphase
  obtain rfl := h.tracked_own hp hcall (by rw [hphase]; rfl)
  obtain ⟨d, hd, -, howns⟩ := h.tracked_call p hp
  obtain rfl := Option.some.inj (Eq.trans hcall.symm hd)
  rcases howns with hheld | ⟨cause, hdone⟩
  · simp [hphase, Phase.heldId?] at hheld
  · simp [hphase] at hdone

theorem Coherent.not_queued (h : Coherent s.books) (hp : p ∈ s.pending) :
    Message.register p ∉ s.mailbox :=
  fun hmem => h.pending_ne_queued hp (mem_requests.mpr hmem) rfl

/-- Of a request in the table no registration is in the mailbox, nor will be. -/
theorem Coherent.pending_of_tracked (h : Coherent s.books) (hmove : Move s a t) (hp : p ∈ s.pending)
    (htracked : p ∈ t.tracked) : p ∈ t.pending := by
  refine (List.mem_append.mp htracked).resolve_right fun hqueued => ?_
  have hqueued := mem_requests.mp hqueued
  have hnot := h.not_queued hp
  rcases hmove.mailbox with hsame | ⟨x, hmail, hregister⟩ | ⟨x, hmail⟩
  · exact hnot (hsame ▸ hqueued)
  · rw [hmail, List.mem_append, List.mem_singleton] at hqueued
    rcases hqueued with hqueued | hx
    · exact hnot hqueued
    · obtain ⟨c, _, _, -, hcall, hphase, -⟩ := hregister p hx.symm
      exact h.not_numbered (mem_tracked_of_mem_pending hp) hcall hphase
  · exact hnot (hmail ▸ List.mem_cons_of_mem x hqueued)

/-- A request that leaves the table leaves nothing behind. -/
theorem Occurs.spent_of_left (hm : Occurs as m) (hawaits : m.state.Awaits id)
    (hleft : ¬ m.next.Awaits id) : m.next.Spent id := by
  obtain ⟨p, hp, rfl⟩ := hawaits
  have htracked := mem_tracked_of_mem_pending hp
  have hlt : p.id < m.state.nextId := hm.coherent.tracked_lt p htracked
  refine ⟨hlt.trans_le (nextId_le_of_move hm.move), ?_, ?_⟩
  · intro q hq hid
    by_cases hold : q ∈ m.state.tracked
    · obtain rfl := hm.coherent.eq_of_id hold htracked hid
      exact hleft ⟨q, hm.coherent.pending_of_tracked hm.move hp hq, rfl⟩
    · obtain ⟨c, _, _, -, hcall, hphase, -⟩ := hm.move.registers hold hq
      exact hm.coherent.not_numbered htracked hcall (hid ▸ hphase)
  · intro n c' hcall' hphase
    rcases progress_of_move hm.move hcall' with ⟨-, hstarted, -⟩ | ⟨c, hcall, hprogress⟩
    · rw [hstarted] at hphase
      cases hphase
    · rcases hprogress.numbered hphase with hnumbered | ⟨-, hid⟩
      · exact absurd hnumbered (hm.coherent.not_numbered htracked hcall)
      · omega

/-- The id of a notification is spent as soon as it is drawn. -/
theorem Occurs.spent_of_notification (hm : Occurs as m) (hdraws : Draws n id m.state m.action)
    (hcall : m.state.calls[n]? = some c) (hlimit : c.limit = none) : m.next.Spent id := by
  obtain ⟨d, refusal, haction, hd, hphase, rfl⟩ := hdraws
  obtain rfl := Option.some.inj (hcall.symm.trans hd)
  have hgrown : m.next.nextId = m.state.nextId + 1 := by
    rcases hm.move.counts with ⟨hnone, -⟩ | ⟨-, hgrown⟩
    · simp [haction, drawnId, hcall, hphase] at hnone
    · exact hgrown
  refine ⟨by omega, ?_, ?_⟩
  · intro p hp hid
    by_cases hold : p ∈ m.state.tracked
    · exact absurd hid (Nat.ne_of_lt (hm.coherent.tracked_lt p hold))
    · obtain ⟨e, _, limit, haction', he, hnumbered, -⟩ := hm.move.registers hold hp
      rw [haction] at haction'
      obtain ⟨rfl, -⟩ := Action.caller.inj haction'
      obtain rfl := Option.some.inj (hcall.symm.trans he)
      rw [hphase] at hnumbered
      cases hnumbered
  · intro k e' he' hnumbered
    rcases progress_of_move hm.move he' with ⟨-, hstarted, -⟩ | ⟨e, he, hprogress⟩
    · rw [hstarted] at hnumbered
      cases hnumbered
    · rw [hprogress.limit_eq]
      rcases hprogress.numbered hnumbered with hold | ⟨hadmitted, -⟩
      · have hid : e.phase.id? = some m.state.nextId := by
          rw [hold]
          rfl
        exact absurd (hm.coherent.phase_lt he hid) (Nat.lt_irrefl _)
      · -- only the caller itself can have drawn at this step
        by_cases hk : k = n
        · subst hk
          obtain rfl := Option.some.inj (hcall.symm.trans he)
          exact hlimit
        · rw [haction] at hprogress
          rw [hprogress.eq_of_other hk, hadmitted] at hnumbered
          cases hnumbered

/-! ### The whole -/

/-- In that step the id goes out of use: its request leaves the table, or a notification draws
    it. -/
def Retires (id : Nat) (m : Moment) : Prop :=
  (m.state.Awaits id ∧ ¬ m.next.Awaits id) ∨
    ∃ n c, Draws n id m.state m.action ∧ m.state.calls[n]? = some c ∧ c.limit = none

theorem Occurs.spent (hm : Occurs as m) (h : Retires id m) : m.next.Spent id := by
  rcases h with ⟨hawaits, hleft⟩ | ⟨n, c, hdraws, hcall, hlimit⟩
  · exact hm.spent_of_left hawaits hleft
  · exact hm.spent_of_notification hdraws hcall hlimit

/-- The keeper adds a request to its table; it never replaces one. -/
theorem Occurs.inserts (hm : Occurs as m) (hhandles : Handles (.register p) m.state m.action) :
    ¬ m.state.Awaits p.id ∧ m.next.pending = m.state.pending ++ [p] := by
  obtain ⟨haction, hrunning, rest, hmail⟩ := hhandles
  have hne : ∀ q ∈ m.state.pending, q.id ≠ p.id := fun q hq =>
    hm.coherent.pending_ne_queued hq (by simp [hmail])
  refine ⟨fun ⟨q, hq, hid⟩ => hne q hq hid, ?_⟩
  have hstep := hm.2.2
  simp only [haction, step?, hrunning, hmail, Option.some.injEq] at hstep
  rw [← hstep]
  exact congrArg (· ++ [p]) (without_eq_self hne)

/-- The ids of a run and of the state that it leads to are fresh. -/
structure FreshIds (as : List Action) (s : State) : Prop where
  /-- They are handed out in order, from one on, by a 64-bit counter that does not wrap. -/
  consecutive : drawn as = List.range' 1 (drawn as).length
  unwrapped : (counted (drawn as).length).map UInt64.toNat = drawn as
  /-- What is written bears an id that was handed out, and none is written twice. -/
  written_drawn : ∀ w ∈ s.writes, w.command.id ∈ drawn as
  written_once : (s.writes.map fun w => w.command.id).Nodup
  /-- A registration never replaces another one. -/
  inserted : ∀ m p, Occurs as m → Handles (.register p) m.state m.action →
    ¬ m.state.Awaits p.id ∧ m.next.pending = m.state.pending ++ [p]
  /-- An id that went out of use is not pending again, and no frame with it resolves anything. -/
  retired : ∀ m id, Occurs as m → Retires id m →
    ¬ s.Awaits id ∧ ∀ m', Occurs as m' → m.Earlier m' →
      ¬ m'.state.Awaits id ∧
        ∀ frame, Takes frame m'.state m'.action → replyId? frame = some id →
          m'.state.awaited? frame = none ∧ m'.next.calls = m'.state.calls

theorem freshIds_of_run (hrun : run? {} as = some s) (hcount : (drawn as).length < 2 ^ 64 - 1) :
    FreshIds as s where
  consecutive := (drawn_eq hrun).1
  unwrapped := (map_toNat_counted hcount).trans (drawn_eq hrun).1.symm
  written_drawn := (written_ids hrun).2
  written_once := (written_ids hrun).1
  inserted m p hm hhandles := hm.inserts hhandles
  retired m id hm hretires := by
    have hspent := hm.spent hretires
    constructor
    · rw [run?_eq_follow] at hrun
      exact (Run.Moment.In.lasts_to_end (P := fun u : State => u.Spent id)
        (fun _ _ _ hstep h => h.step hstep) hm hrun hspent).not_awaits
    · intro m' hm' hearlier
      have hnot := (Run.Moment.In.lasts (P := fun u : State => u.Spent id)
        (fun _ _ _ hstep h => h.step hstep) hm hm' hearlier hspent).not_awaits
      refine ⟨hnot, fun frame htakes hid => ?_⟩
      rcases hm'.move.takes htakes with ⟨p, hreply, -⟩ | ⟨hnone, -, hcalls⟩
      · obtain ⟨hp, hpid⟩ := State.awaited?_eq_some hreply
        exact absurd ⟨p, hp, Option.some.inj (hpid.symm.trans hid)⟩ hnot
      · exact ⟨hnone, hcalls⟩

end ConsoleTap.Exchange
