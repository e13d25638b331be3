import ConsoleTap.Proofs.Exchange.Noise
import Mathlib.Logic.Function.Iterate

/-!
# What the keeper hears

The keeper takes a turn more for each frame of noise, so the turns of two keepers, one with
noise in its mailbox, are counted along what is in the one and in the other: as long as no
noise is heard as the reply of a pending request, both arrive at the same table and give
their word to the same callers.  A keeper that takes a shutdown discards what is left, and
noise with it.
-/

namespace ConsoleTap.Exchange

open ConsoleTap.Json ConsoleTap.Target

variable {marks : List Mark} {i' i : Nat} {s' s : State}

/-! ### Hearing -/

/-- The frame that the keeper takes by its next turn, if any. -/
def State.hearing (s : State) : List Hearing :=
  match s.keeper, s.mailbox with
  | .running, .frame frame :: _ => [⟨frame, (s.awaited? frame).isSome⟩]
  | _, _ => []

/-- The frames that the keeper takes until it has to wait. -/
def State.heard (s : State) : List Hearing :=
  during State.keeperTurn State.hearing (s.mailbox.length + 1) s

/-! ### Frames taken -/

theorem takeFrame_of_awaited {frame : Value} {p : Pending} (hreply : s.awaited? frame = some p) :
    s.takeFrame frame =
      ({ s with pending := without s.pending p.id }.note
        (.answered p.id p.method (.ofMillis (s.now - p.begunAt)))).giveWord p.call
          (Outcome.ofReply frame) := by
  rw [State.awaited?] at hreply
  rw [State.takeFrame, hreply]

theorem takeFrame_of_not_awaited {frame : Value} (hreply : s.awaited? frame = none) :
    s.takeFrame frame =
      if s.readerGone then s.note .frameWithoutReader
      else { s with forwarded := s.forwarded ++ [frame] } := by
  rw [State.awaited?] at hreply
  rw [State.takeFrame, hreply]

/-- A frame that both keepers take resolves the same request, or is passed on by both. -/
theorem Noisy.takeFrame (h : Noisy marks i' i s' s) (frame : Value) :
    Noisy marks i' i (s'.takeFrame frame) (s.takeFrame frame) := by
  obtain ⟨⟨mail, passed, log, rfl⟩, hstrewn, hqueue, hi', hi⟩ := h
  have hsame : (s.dressed mail passed log).awaited? frame = s.awaited? frame := rfl
  cases hreply : s.awaited? frame with
  | some p =>
      rw [takeFrame_of_awaited hreply, takeFrame_of_awaited (hsame.trans hreply)]
      exact ⟨⟨_, _, _, rfl⟩, hstrewn, hqueue, hi', hi⟩
  | none =>
      have hgone : (s.dressed mail passed log).readerGone = s.readerGone := rfl
      rw [takeFrame_of_not_awaited hreply, takeFrame_of_not_awaited (hsame.trans hreply), hgone]
      split
      · exact ⟨⟨_, _, _, rfl⟩, hstrewn, hqueue, hi', hi⟩
      · refine ⟨⟨_, _, _, rfl⟩, hstrewn, ?_, ?_, ?_⟩
        · have hlast := hqueue.keep_last frame
          rwa [← List.drop_append_of_le_length hi', ← List.drop_append_of_le_length hi] at hlast
        · exact hi'.trans (List.length_append ▸ Nat.le_add_right _ _)
        · exact hi.trans (List.length_append ▸ Nat.le_add_right _ _)

/-- Noise that no pending request awaits is passed on at most. -/
theorem Noisy.takeNoise (h : Noisy marks i' i s' s) {frame : Value} (hframe : ¬ IsEvent frame)
    (hreply : s'.awaited? frame = none) : Noisy marks i' i (s'.takeFrame frame) s := by
  obtain ⟨⟨mail, passed, log, rfl⟩, hstrewn, hqueue, hi', hi⟩ := h
  rw [takeFrame_of_not_awaited hreply]
  split
  · exact ⟨⟨_, _, _, rfl⟩, hstrewn, hqueue, hi', hi⟩
  · refine ⟨⟨_, _, _, rfl⟩, hstrewn, ?_, ?_, hi⟩
    · have hlast := hqueue.drop_last hframe
      rwa [← List.drop_append_of_le_length hi'] at hlast
    · exact hi'.trans (List.length_append ▸ Nat.le_add_right _ _)

theorem Noisy.takeMessage (h : Noisy marks i' i s' s) (m : Message) :
    Noisy marks i' i (s'.takeMessage m) (s.takeMessage m) := by
  cases m with
  | register p => exact h.map (·.takeMessage (.register p)) (fun _ _ _ => ⟨_, rfl⟩) rfl rfl
  | forget id => exact h.map (·.takeMessage (.forget id)) (fun _ _ _ => ⟨_, rfl⟩) rfl rfl
  | frame frame => exact h.takeFrame frame
  | shutdown => exact h.map (·.takeMessage .shutdown) (fun _ _ _ => ⟨_, rfl⟩) rfl rfl

theorem takeFrame_keeps (s : State) (frame : Value) :
    (s.takeFrame frame).keeper = s.keeper ∧ (s.takeFrame frame).mailbox = s.mailbox := by
  cases hreply : s.awaited? frame with
  | some p =>
      rw [takeFrame_of_awaited hreply]
      exact ⟨rfl, rfl⟩
  | none =>
      rw [takeFrame_of_not_awaited hreply]
      split <;> exact ⟨rfl, rfl⟩

theorem mailbox_takeMessage (s : State) (m : Message) : (s.takeMessage m).mailbox = s.mailbox := by
  cases m with
  | frame frame => exact (takeFrame_keeps s frame).2
  | _ => rfl

theorem keeper_takeMessage {m : Message} (hm : m ≠ .shutdown) :
    (s.takeMessage m).keeper = s.keeper := by
  cases m with
  | frame frame => exact (takeFrame_keeps s frame).1
  | shutdown => exact absurd rfl hm
  | _ => rfl

/-! ### Leaving -/

/-- Both keepers discard what is left in their mailboxes. -/
theorem Noisy.discard {mail' mail : List Message}
    (hstrewn : Strewn Message.frame? Message.IsNoise marks mail' mail) {s' s : State}
    (h : Noisy marks i' i s' s) (hmail' : s'.mailbox = mail') (hmail : s.mailbox = mail)
    (hkeeper : s.keeper = .draining) :
    ∃ t' t, mail'.foldl (fun s _ => s.attempt .discard) s' = t' ∧
      mail.foldl (fun s _ => s.attempt .discard) s = t ∧ Noisy [] i' i t' t ∧
      t'.mailbox = [] ∧ t.mailbox = [] ∧ t.keeper = .draining := by
  have hdiscard : ∀ {u : State} {m : Message} {rest : List Message}, u.keeper = .draining →
      u.mailbox = m :: rest → u.attempt .discard = { u with mailbox := rest }.discardMessage m := by
    intro u m rest hu hrest
    rw [State.attempt, step?, hu, hrest]
    rfl
  induction hstrewn generalizing s' s with
  | nil => exact ⟨s', s, rfl, rfl, h, hmail', hmail, hkeeper⟩
  | keep m hrest ih =>
      rw [List.foldl_cons, List.foldl_cons, hdiscard (h.keeper.trans hkeeper) hmail',
        hdiscard hkeeper hmail]
      cases m with
      | register p => exact ih ((h.withMail hrest).giveWord p.call _) rfl rfl hkeeper
      | _ => exact ih (h.withMail hrest) rfl rfl hkeeper
  | drop m hm hrest ih =>
      obtain ⟨frame, rfl, -⟩ := hm
      rw [List.foldl_cons, hdiscard (h.keeper.trans hkeeper) hmail']
      have hmailed : Noisy _ i' i _ { s with mailbox := s.mailbox } :=
        h.withMail (hmail ▸ hrest)
      exact ih hmailed rfl hmail hkeeper

theorem Noisy.keeperExit (h : Noisy marks i' i s' s) (hkeeper : s.keeper = .leaving) :
    Noisy [] i' i s'.keeperExit s.keeperExit ∧ s.keeperExit.keeper = .stopped := by
  have hshut : ∀ {u : State}, u.keeper = .leaving →
      u.attempt .shut = { u with keeper := .draining } := by
    intro u hu
    rw [State.attempt, step?, if_pos hu]
    rfl
  have hstop : ∀ {u : State}, u.keeper = .draining → u.mailbox = [] →
      u.attempt .stop = u.cancelAll := by
    intro u hu hempty
    rw [State.attempt, step?, hu, hempty]
    rfl
  have hdraining : Noisy marks i' i { s' with keeper := .draining } { s with keeper := .draining } :=
    h.map (fun s => { s with keeper := .draining }) (fun _ _ _ => ⟨_, rfl⟩) rfl rfl
  rw [State.keeperExit, State.keeperExit, hshut (h.keeper.trans hkeeper), hshut hkeeper]
  obtain ⟨t', t, ht', ht, hdone, hmail', hmail, hkept⟩ := hdraining.discard hdraining.mail rfl rfl rfl
  simp only [ht', ht]
  rw [hstop (hdone.keeper.trans hkept) hmail', hstop hkept hmail]
  refine ⟨hdone.cancelAll, ?_⟩
  rw [State.cancelAll_eq]

/-! ### Turns -/

theorem keeperTurn_of_stopped (hkeeper : s.keeper = .stopped) : s.keeperTurn = s := by
  have hexpire : s.attempt .expire = s := by
    rw [State.attempt, step?, hkeeper]
    rfl
  have hhandle : s.attempt .handle = s := by
    rw [State.attempt, step?, hkeeper]
    rfl
  rw [State.keeperTurn, hexpire, hhandle]
  simp [hkeeper]

theorem keeperTurn_of_empty (hmail : s.mailbox = []) : s.keeperTurn = s.attempt .expire := by
  rw [State.keeperTurn, hmail]
  rfl

section Turn

variable {m : Message} {rest : List Message} (hkeeper : s.keeper = .running)
  (hmail : s.mailbox = m :: rest)
include hkeeper hmail

theorem keeperTurn_cons :
    s.keeperTurn =
      if ({ s with mailbox := rest }.takeMessage m).keeper = .leaving then
        ({ s with mailbox := rest }.takeMessage m).keeperExit
      else { s with mailbox := rest }.takeMessage m := by
  have hhandle : s.attempt .handle = { s with mailbox := rest }.takeMessage m := by
    rw [State.attempt, step?, hkeeper, hmail]
    rfl
  rw [State.keeperTurn, hhandle, hmail]
  rfl

theorem keeperTurn_of_message (hm : m ≠ .shutdown) :
    s.keeperTurn = { s with mailbox := rest }.takeMessage m := by
  rw [keeperTurn_cons hkeeper hmail, keeper_takeMessage hm, hkeeper]
  rfl

theorem keeperTurn_of_shutdown (hm : m = .shutdown) :
    s.keeperTurn = { s with mailbox := rest, keeper := .leaving }.keeperExit := by
  subst hm
  exact keeperTurn_cons hkeeper hmail

theorem hearing_cons :
    s.hearing = m.frame?.toList.map fun frame => ⟨frame, (s.awaited? frame).isSome⟩ := by
  rw [State.hearing, hkeeper, hmail]
  cases m <;> rfl

/-- What the marks say of the message that the keeper takes next, and of what comes after it. -/
theorem unheeded_hearing {noise : Bool} {heard : List Hearing}
    (hunheeded : Unheeded (marked Message.frame? noise m ++ marks) (s.hearing ++ heard)) :
    (∀ frame, noise = true → m.frame? = some frame → s.awaited? frame = none) ∧
      Unheeded marks heard := by
  rw [hearing_cons hkeeper hmail, marked] at hunheeded
  cases hframe : m.frame? with
  | none =>
      rw [hframe] at hunheeded
      refine ⟨fun _ _ hsome => ?_, hunheeded⟩
      cases hsome
  | some frame =>
      rw [hframe] at hunheeded
      obtain ⟨hhead, htail⟩ := unheeded_cons.mp hunheeded
      refine ⟨fun frame₂ hnoise heq => ?_, htail⟩
      obtain rfl := Option.some.inj heq
      exact Option.isSome_eq_false_iff.mp (hhead rfl hnoise) |> Option.isNone_iff_eq_none.mp

end Turn

theorem Noisy.expire (h : Noisy marks i' i s' s) :
    Noisy marks i' i (s'.attempt .expire) (s.attempt .expire) ∧
      (s.attempt .expire).keeper = s.keeper ∧ (s.attempt .expire).mailbox = s.mailbox := by
  have hdue : (s'.keeper = .running ∧ s'.hasOverdue = true) =
      (s.keeper = .running ∧ s.hasOverdue = true) := by
    obtain ⟨mail, passed, log, rfl⟩ := h.same
    rfl
  simp only [State.attempt, step?, hdue]
  split
  · refine ⟨h.expireAll, ?_⟩
    rw [Option.getD_some, State.expireAll_eq]
    exact ⟨rfl, rfl⟩
  · exact ⟨h, rfl, rfl⟩

theorem keeperTurns_eq_iterate (s : State) :
    s.keeperTurns = State.keeperTurn^[s.mailbox.length + 1] s := by
  rw [State.keeperTurns, List.foldl_const, List.length_range]

/-- The turns of both keepers, along their mailboxes. -/
theorem Noisy.iterate {mail' mail : List Message}
    (hstrewn : Strewn Message.frame? Message.IsNoise marks mail' mail) {s' s : State}
    (h : Noisy marks i' i s' s) (hmail' : s'.mailbox = mail') (hmail : s.mailbox = mail)
    (hkeeper : s.keeper = .running) {later : List Mark} {heard : List Hearing}
    (hunheeded : Unheeded (marks ++ later)
      (during State.keeperTurn State.hearing (mail'.length + 1) s' ++ heard)) :
    Noisy [] i' i (State.keeperTurn^[mail'.length + 1] s')
        (State.keeperTurn^[mail.length + 1] s) ∧
      ((State.keeperTurn^[mail.length + 1] s).keeper = .running ∧ Unheeded later heard ∨
        (State.keeperTurn^[mail.length + 1] s).keeper = .stopped) := by
  induction hstrewn generalizing s' s with
  | nil =>
      obtain ⟨hnoisy, hkept, -⟩ := h.expire
      have hnone : s'.hearing = [] := by
        rw [State.hearing, hmail']
        cases s'.keeper <;> rfl
      rw [during, hnone] at hunheeded
      rw [List.length_nil, Function.iterate_one, keeperTurn_of_empty hmail', keeperTurn_of_empty hmail]
      exact ⟨hnoisy, .inl ⟨hkept.trans hkeeper, hunheeded⟩⟩
  | keep m hrest ih =>
      rw [List.length_cons, List.length_cons, Function.iterate_succ_apply _ _ s',
        Function.iterate_succ_apply _ _ s]
      by_cases hm : m = .shutdown
      · -- both keepers leave, and have no further turn
        rw [keeperTurn_of_shutdown hkeeper hmail hm,
          keeperTurn_of_shutdown (h.keeper.trans hkeeper) hmail' hm]
        have hleaving := (h.withMail hrest).map (fun s => { s with keeper := .leaving })
          (fun _ _ _ => ⟨_, rfl⟩) rfl rfl
        obtain ⟨hexit, hstopped⟩ := hleaving.keeperExit rfl
        rw [Function.iterate_fixed (keeperTurn_of_stopped (hexit.keeper.trans hstopped)),
          Function.iterate_fixed (keeperTurn_of_stopped hstopped)]
        exact ⟨hexit, .inr hstopped⟩
      · rw [List.length_cons, during, List.append_assoc, List.append_assoc] at hunheeded
        obtain ⟨-, hlater⟩ := unheeded_hearing (h.keeper.trans hkeeper) hmail' hunheeded
        rw [keeperTurn_of_message (h.keeper.trans hkeeper) hmail' hm] at hlater ⊢
        rw [keeperTurn_of_message hkeeper hmail hm]
        exact ih ((h.withMail hrest).takeMessage m) (mailbox_takeMessage _ m)
          (mailbox_takeMessage _ m) ((keeper_takeMessage hm).trans hkeeper) hlater
  | drop m hm hrest ih =>
      obtain ⟨frame, rfl, hframe⟩ := hm
      have hnot : Message.frame frame ≠ .shutdown := nofun
      rw [List.length_cons, during, List.append_assoc, List.append_assoc] at hunheeded
      obtain ⟨hnone, hlater⟩ := unheeded_hearing (h.keeper.trans hkeeper) hmail' hunheeded
      rw [List.length_cons, Function.iterate_succ_apply _ _ s']
      rw [keeperTurn_of_message (h.keeper.trans hkeeper) hmail' hnot] at hlater ⊢
      -- the clean exchange has no turn for the noise
      have hmailed : Noisy _ i' i _ { s with mailbox := s.mailbox } := h.withMail (hmail ▸ hrest)
      exact ih (hmailed.takeNoise hframe (hnone frame rfl rfl)) (mailbox_takeMessage _ _) hmail
        hkeeper hlater

/-- The keepers empty their mailboxes, and what is heard later is compared with later marks. -/
theorem Noisy.keeperTurns (h : Noisy marks i' i s' s) (hkeeper : s.keeper = .running)
    {later : List Mark} {heard : List Hearing}
    (hunheeded : Unheeded (marks ++ later) (s'.heard ++ heard)) :
    Noisy [] i' i s'.keeperTurns s.keeperTurns ∧
      (s.keeperTurns.keeper = .running ∧ Unheeded later heard ∨
        s.keeperTurns.keeper = .stopped) := by
  rw [keeperTurns_eq_iterate, keeperTurns_eq_iterate]
  exact Noisy.iterate h.mail h rfl rfl hkeeper hunheeded

theorem keeperTurns_of_stopped (hkeeper : s.keeper = .stopped) : s.keeperTurns = s := by
  rw [keeperTurns_eq_iterate, Function.iterate_fixed (keeperTurn_of_stopped hkeeper)]

end ConsoleTap.Exchange
