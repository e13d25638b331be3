import ConsoleTap.Proofs.Exchange.Fate
import ConsoleTap.Proofs.Exchange.Muted

/-!
# No frame is lost or made

What enters the mailbox leaves it in order.  The keeper takes the frames queued ahead of
the first shutdown, each once, and none of those behind it; a frame that it takes
resolves one request or is passed on to one place.  Whether anybody reads what is passed
on makes no difference to the requests.
-/

namespace ConsoleTap.Exchange

open ConsoleTap.Json

variable {s t : State} {a : Action} {as : List Action} {k i : Nat}

/-! ### What enters the mailbox -/

/-- The messages that a step adds to the mailbox. -/
def queuedIn (s : State) (a : Action) : List Message :=
  match step? s a with
  | some t => t.mailbox.drop s.mailbox.length
  | none => []

/-- The messages that entered the mailbox in a run, in order. -/
def queued (as : List Action) : List Message := Run.along step? queuedIn {} as

theorem framesAhead_behind {done : List Message} (h : Message.shutdown ∉ done)
    (ms : List Message) : framesAhead (done ++ ms) = frames done ++ framesAhead ms := by
  rw [framesAhead, List.takeWhile_append_of_pos, frames_append]
  · rfl
  · intro m hm
    have hne : m ≠ .shutdown := fun heq => h (heq ▸ hm)
    simpa using hne

theorem framesAhead_prefix_frames (ms : List Message) : framesAhead ms <+: frames ms :=
  (List.takeWhile_prefix _).filterMap _

/-- What a step of the keeper's loop does to the mailbox: the keeper takes messages from its front
    and others add to its end, and the keeper leaves the loop with the shutdown that it takes. -/
structure Handover (s : State) (a : Action) (t : State) (done : List Message) : Prop where
  split : s.mailbox ++ t.mailbox.drop s.mailbox.length = done ++ t.mailbox
  taken : frames done = takenFrame s a
  stays : t.keeper = .running → Message.shutdown ∉ done
  leaves : t.keeper ≠ .running → done = [.shutdown]

theorem Handover.add (hrunning : s.keeper = .running) (ms : List Message)
    (hmail : t.mailbox = s.mailbox ++ ms) (hkeeper : t.keeper = s.keeper)
    (htaken : takenFrame s a = []) : Handover s a t [] where
  split := by simp [hmail]
  taken := htaken.symm
  stays _ := List.not_mem_nil
  leaves hleft := absurd (hkeeper.trans hrunning) hleft

theorem Handover.take (hrunning : s.keeper = .running) {m : Message}
    (hmail : s.mailbox = m :: t.mailbox) (hkeeper : t.keeper = s.keeper) (hm : m ≠ .shutdown)
    (htaken : frames [m] = takenFrame s a) : Handover s a t [m] where
  split := by simp [hmail]
  taken := htaken
  stays _ := by simpa using hm.symm
  leaves hleft := absurd (hkeeper.trans hrunning) hleft

theorem handover_of_move (hmove : Move s a t) (hrunning : s.keeper = .running) :
    ∃ done, Handover s a t done := by
  have hopen : s.mailboxOpen = true := mailboxOpen_of_running hrunning
  cases hmove with
  | route frame hroute => exact ⟨_, .add hrunning _ rfl rfl rfl⟩
  | register hcall hphase hlimit hregister => exact ⟨_, .add hrunning _ rfl rfl rfl⟩
  | withdraw hcall hphase =>
      rw [State.post, if_pos hopen]
      exact ⟨_, .add hrunning _ rfl rfl rfl⟩
  | announce hcloser =>
      rw [State.post, if_pos hopen]
      exact ⟨_, .add hrunning _ rfl rfl rfl⟩
  | takeRequest hkeeper hmail =>
      exact ⟨_, .take hrunning hmail rfl (by simp) (by simp [takenFrame, hkeeper, hmail])⟩
  | takeForget hkeeper hmail =>
      exact ⟨_, .take hrunning hmail rfl (by simp) (by simp [takenFrame, hkeeper, hmail])⟩
  | takeReply hkeeper hmail hreply =>
      exact ⟨_, .take hrunning hmail rfl (by simp) (by simp [takenFrame, hkeeper, hmail])⟩
  | takeEvent hkeeper hmail hreply hreader =>
      exact ⟨_, .take hrunning hmail rfl (by simp) (by simp [takenFrame, hkeeper, hmail])⟩
  | dropEvent hkeeper hmail hreply hreader =>
      exact ⟨_, .take hrunning hmail rfl (by simp) (by simp [takenFrame, hkeeper, hmail])⟩
  | takeShutdown hkeeper hmail =>
      exact ⟨[.shutdown], by simp [hmail], by simp [takenFrame, hkeeper, hmail],
        fun hstays => (by cases hstays), fun _ => rfl⟩
  | expire hkeeper hoverdue =>
      rw [State.expireAll_eq]
      exact ⟨_, .add hrunning [] (List.append_nil _).symm rfl rfl⟩
  | shut hkeeper =>
      rw [hrunning] at hkeeper
      cases hkeeper
  | discardRequest hkeeper hmail =>
      rw [hrunning] at hkeeper
      cases hkeeper
  | discardOther hkeeper hmail hother =>
      rw [hrunning] at hkeeper
      cases hkeeper
  | stop hkeeper hmail =>
      rw [hrunning] at hkeeper
      cases hkeeper
  | _ => exact ⟨_, .add hrunning [] (List.append_nil _).symm rfl rfl⟩

/-- What has entered the mailbox is what the keeper has taken and what it has not come to, with a
    shutdown between them once the keeper has left its loop. -/
theorem queued_eq (hrun : run? {} as = some s) :
    ∃ done rest, queued as = done ++ rest ∧ frames done = taken as ∧ Message.shutdown ∉ done ∧
      (s.keeper = .running → rest = s.mailbox) ∧
      (s.keeper ≠ .running → ∃ behind, rest = .shutdown :: behind) := by
  rw [run?_eq_follow] at hrun
  refine Run.follow_induction
    (motive := fun as s => ∃ done rest, queued as = done ++ rest ∧ frames done = taken as ∧
      Message.shutdown ∉ done ∧ (s.keeper = .running → rest = s.mailbox) ∧
      (s.keeper ≠ .running → ∃ behind, rest = .shutdown :: behind)) ?_ ?_ hrun
  · exact ⟨[], [], rfl, rfl, List.not_mem_nil, fun _ => rfl, fun hleft => absurd rfl hleft⟩
  · rintro as u a v hrun hstep ⟨done, rest, hqueued, hframes, hnone, hrest, hbehind⟩
    have hmove := move_of_step hstep
    rw [queued, Run.along_snoc _ hrun hstep, ← queued, taken, Run.along_snoc _ hrun hstep, ← taken,
      hqueued]
    by_cases hu : u.keeper = .running
    · obtain ⟨more, hsplit, htaken, hstays, hleaves⟩ := handover_of_move hmove hu
      have hin : queuedIn u a = v.mailbox.drop u.mailbox.length := by rw [queuedIn, hstep]
      rw [hrest hu, List.append_assoc, hin, hsplit]
      by_cases hv : v.keeper = .running
      · refine ⟨done ++ more, v.mailbox, by simp, by simp [hframes, htaken], ?_, fun _ => rfl,
          fun hleft => absurd hv hleft⟩
        rw [List.mem_append, not_or]
        exact ⟨hnone, hstays hv⟩
      · rw [hleaves hv] at htaken ⊢
        refine ⟨done, [.shutdown] ++ v.mailbox, rfl, ?_, hnone, fun hrunning => absurd hrunning hv,
          fun _ => ⟨v.mailbox, rfl⟩⟩
        rw [← htaken, hframes]
        exact (List.append_nil _).symm
    · obtain ⟨behind, rfl⟩ := hbehind hu
      have hv : v.keeper ≠ .running := fun hrunning => hu (hmove.running hrunning)
      refine ⟨done, _, List.append_assoc _ _ _, ?_, hnone, fun hrunning => absurd hrunning hv,
        fun _ => ⟨behind ++ queuedIn u a, rfl⟩⟩
      rw [takenFrame_of_not_running hu, List.append_nil, hframes]

/-! ### What the keeper comes to -/

theorem framesAhead_queued (hrun : run? {} as = some s) :
    (s.keeper = .running → framesAhead (queued as) = taken as ++ framesAhead s.mailbox) ∧
      (s.keeper ≠ .running → framesAhead (queued as) = taken as) := by
  obtain ⟨done, rest, hqueued, hframes, hnone, hrest, hbehind⟩ := queued_eq hrun
  rw [hqueued, framesAhead_behind hnone, hframes]
  constructor
  · intro hrunning
    rw [hrest hrunning]
  · intro hleft
    obtain ⟨behind, rfl⟩ := hbehind hleft
    simp [framesAhead]

/-- The keeper takes frames queued ahead of the first shutdown and no others. -/
theorem taken_prefix_ahead (hrun : run? {} as = some s) : taken as <+: framesAhead (queued as) := by
  obtain ⟨hstays, hleaves⟩ := framesAhead_queued hrun
  by_cases hrunning : s.keeper = .running
  · rw [hstays hrunning]
    exact List.prefix_append _ _
  · rw [hleaves hrunning]

theorem ahead_prefix_routed (hrun : run? {} as = some s) :
    framesAhead (queued as) <+: routed as := by
  obtain ⟨hstays, hleaves⟩ := framesAhead_queued hrun
  by_cases hrunning : s.keeper = .running
  · rw [hstays hrunning, routed_eq hrun (mailboxOpen_of_running hrunning)]
    exact (List.prefix_append_right_inj _).mpr (framesAhead_prefix_frames _)
  · rw [hleaves hrunning]
    exact taken_prefix_routed hrun

/-- When the keeper has left its loop or nobody can act, the keeper has taken all of them. -/
theorem taken_eq_ahead (hrun : run? {} as = some s) (h : s.keeper ≠ .running ∨ Settled s) :
    taken as = framesAhead (queued as) := by
  obtain ⟨hstays, hleaves⟩ := framesAhead_queued hrun
  by_cases hrunning : s.keeper = .running
  · have hsettled := h.resolve_left (not_not_intro hrunning)
    rw [hstays hrunning, hsettled.mailbox (closing_of_run hrun)]
    exact (List.append_nil _).symm
  · exact (hleaves hrunning).symm

/-! ### Conservation -/

/-- A frame that was taken resolved one request and was not passed on, or was passed on to one
    place and resolved none. -/
theorem fate_unique (hrun : run? {} as = some s) (hlt : k < (taken as).length) :
    ((∃! n, ResolvedBy as k n) ∧ ∀ i, ¬ PassedOn as k i) ∨
      ((∀ n, ¬ ResolvedBy as k n) ∧ ∃! i, PassedOn as k i) := by
  rcases fate_of_taken hrun (List.getElem?_eq_getElem hlt) with ⟨n, hn⟩ | ⟨i, hi, -⟩
  · exact Or.inl ⟨⟨n, hn, fun n' hn' => hn'.unique hn⟩, fun i => hn.not_passedOn⟩
  · exact Or.inr ⟨fun n hn => hn.not_passedOn hi, i, hi, fun i' hi' => hi'.place_unique hi⟩

/-- Conservation of frames, in every run.  The keeper takes the frames queued ahead of the first
    shutdown, in the order in which they arrived, and has taken all of them when it has left its
    loop or nobody can act.
    Each frame that it took resolved exactly one request or was passed on to exactly one place,
    unchanged; the frames passed on are some of those that arrived, in that order, and each place
    has its one frame.  A frame queued behind the shutdown, or that came too late to be queued,
    resolved nothing and was not passed on.  Had the reader stayed in a run that it leaves,
    everything would be the same but for what was passed on and what was logged. -/
theorem frames_conserved (hrun : run? {} as = some s) :
    (taken as <+: framesAhead (queued as) ∧ framesAhead (queued as) <+: routed as ∧
      (s.keeper ≠ .running ∨ Settled s → taken as = framesAhead (queued as))) ∧
    (∀ k < (taken as).length,
      ((∃! n, ResolvedBy as k n) ∧ ∀ i, ¬ PassedOn as k i) ∨
        ((∀ n, ¬ ResolvedBy as k n) ∧ ∃! i, PassedOn as k i)) ∧
    (∀ k, (framesAhead (queued as)).length ≤ k →
      (∀ n, ¬ ResolvedBy as k n) ∧ ∀ i, ¬ PassedOn as k i) ∧
    (s.readerGone = false →
      List.Sublist s.forwarded (routed as) ∧
      (∀ k i, PassedOn as k i →
        ∃ frame, (routed as)[k]? = some frame ∧ s.forwarded[i]? = some frame) ∧
      ∀ i < s.forwarded.length, ∃! k, PassedOn as k i) ∧
    ∃ t passed log, run? {} (as.filter fun a => !a.isLeave) = some t ∧
      t = s.retold false passed log ∧ ∀ n, t.outcome? n = s.outcome? n := by
  refine ⟨⟨taken_prefix_ahead hrun, ahead_prefix_routed hrun, taken_eq_ahead hrun⟩,
    fun k hlt => fate_unique hrun hlt, ?_, ?_, ?_⟩
  · intro k hle
    have hbehind := (taken_prefix_ahead hrun).length_le.trans hle
    exact ⟨fun n hn => absurd hn.lt_taken (Nat.not_lt.mpr hbehind),
      fun i hi => absurd hi.lt_taken (Nat.not_lt.mpr hbehind)⟩
  · intro hreader
    rw [forwarded_eq_events hrun hreader]
    refine ⟨(events_sublist_taken as).trans (taken_prefix_routed hrun).sublist,
      fun k i hpassed => hpassed.exists_frame, ?_⟩
    intro i hlt
    obtain ⟨k, hk⟩ := exists_passedOn hrun (List.getElem?_eq_getElem hlt)
    exact ⟨k, hk, fun k' hk' => hk'.unique hk⟩
  · obtain ⟨passed, log, hstayed⟩ := run_of_retold hrun [] []
    exact ⟨_, passed, log, hstayed, rfl, fun _ => rfl⟩

/-- A reply and a stray text arrive, the session is closed, and a second reply arrives behind the
    shutdown. -/
def partedRun : List Action :=
  [.begin "first" none (some 5), .caller 0 none, .caller 0 none, .caller 0 none, .caller 0 none,
    .route (.object [("id", .integer 1), ("result", .string "one")]), .route (.string "stray"),
    .ask, .closer 0, .closer 0, .closer 0,
    .route (.object [("id", .integer 1), ("result", .string "again")]), .handle, .handle, .handle,
    .handle, .shut, .discard, .stop, .caller 0 none]

/-- Where `partedRun` leads. -/
def partedEnd : State where
  closed := true
  nextId := 2
  calls := [⟨"first", none, some 5, .done (.ok (.string "one")), some (.ok (.string "one"))⟩]
  closers := [.done]
  keeper := .stopped
  forwarded := [.string "stray"]
  answered := [0]
  writes := [⟨⟨1, "first", none⟩, none⟩]
  log := [.tracking 1 "first", .answered 1 "first" (.ofMillis 0)]

theorem frames_conserved_parted :
    run? {} partedRun = some partedEnd ∧ (routed partedRun).length = 3 ∧
      (taken partedRun).length = 2 ∧ taken partedRun = framesAhead (queued partedRun) ∧
      (∃! k, PassedOn partedRun k 0) ∧
      (∀ n, ¬ ResolvedBy partedRun 2 n) ∧ ∀ i, ¬ PassedOn partedRun 2 i := by
  have hrun : run? {} partedRun = some partedEnd := rfl
  obtain ⟨⟨-, -, htaken⟩, -, hbehind, hreader, -⟩ := frames_conserved hrun
  exact ⟨hrun, rfl, rfl, htaken (Or.inl (by decide)), (hreader rfl).2.2 0 (by decide),
    hbehind 2 (by decide)⟩

end ConsoleTap.Exchange
