import ConsoleTap.Proofs.Exchange.Cause

/-!
# No reply overtakes its request

A caller puts its registration into the mailbox before it writes its command, and the
target answers a command only after it was written.  The mailbox is emptied in order,
so when the keeper takes the reply it has taken the registration, and the request is
pending unless it was resolved otherwise.
-/

namespace ConsoleTap.Exchange

open ConsoleTap.Json ConsoleTap.Target

variable {s t : State} {a : Action} {as : List Action} {n id : Nat} {p : Pending} {m : Moment}
  {frame : Value}

/-! ### Registrations and replies in the mailbox -/

/-- In front of the registration of a request there is no frame with its id. -/
def State.InFront (s : State) (p : Pending) : Prop :=
  ∀ before after, s.mailbox = before ++ .register p :: after →
    ∀ frame, Message.frame frame ∈ before → replyId? frame ≠ some p.id

theorem State.InFront.step (h : s.InFront p) (hmove : Move s a t) (hnot : ¬ Registers p s a) :
    t.InFront p := by
  intro before after hsplit
  rcases hmove.mailbox with heq | ⟨x, heq, hregisters⟩ | ⟨x, heq⟩
  · exact h before after (heq ▸ hsplit)
  · rw [heq] at hsplit
    cases after using List.reverseRecOn with
    | nil =>
        obtain ⟨-, hx⟩ := List.append_inj' hsplit rfl
        exact absurd (hregisters p (List.cons.inj hx).1) hnot
    | append_singleton after y =>
        rw [← List.cons_append, ← List.append_assoc] at hsplit
        exact h before after (List.append_inj' hsplit rfl).1
  · rw [hsplit, ← List.cons_append] at heq
    exact fun frame hframe => h _ after heq frame (List.mem_cons_of_mem x hframe)

/-! ### The way of a reply -/

theorem Occurs.exists_route (hm : Occurs as m) (hframe : frame ∈ routed m.before) :
    ∃ q, Occurs m.before q ∧ q.action = .route frame := by
  obtain ⟨a, ha, hroute⟩ := List.mem_filterMap.mp hframe
  obtain ⟨q, hq, rfl⟩ := Run.exists_moment_of_mem hm.2.1 ha
  refine ⟨q, hq, ?_⟩
  unfold Action.routed? at hroute
  split at hroute
  · rename_i frame' haction
    rw [haction, Option.some.inj hroute]
  · cases hroute

theorem Occurs.routed_of_takes (hm : Occurs as m) (htakes : Takes frame m.state m.action) :
    frame ∈ routed m.before := by
  have hlast : Occurs (m.before ++ [m.action]) m := ⟨List.prefix_rfl, hm.2⟩
  have hrouted := hlast.routed_getElem? htakes
  have hnone : Action.handle.routed?.toList = [] := rfl
  rw [htakes.1, routed_snoc, hnone, List.append_nil] at hrouted
  exact List.mem_of_getElem? hrouted

theorem Happens.reaches_of_write {refusal : Option TransportFault}
    (h : Happens as (Writes n id refusal)) (hrun : run? {} as = some s) : s.Reaches n 4 := by
  obtain ⟨m, hm, c, haction, hcall, hphase⟩ := h
  have hnext := hm.reaches_next haction hcall
  rw [hphase] at hnext
  rw [run?_eq_follow] at hrun
  exact Run.Moment.In.lasts_to_end (P := fun u => u.Reaches n 4)
    (fun _ _ _ hstep h => State.Reaches.step h hstep) hm hrun hnext

/-! ### Replies that follow their command -/

/-- Every frame with that id arrives after the caller of that number, registered under the id, has
    written its command and the channel has accepted it. -/
def RepliesFollow (as : List Action) (n id : Nat) : Prop :=
  ∀ (q : Moment) (frame : Value), Occurs as q → q.action = .route frame →
    replyId? frame = some id → Happens q.before (Writes n id none)

theorem RepliesFollow.written (h : RepliesFollow as n id) (hm : Occurs as m)
    (hframe : frame ∈ routed m.before) (hreply : replyId? frame = some id) :
    Happens m.before (Writes n id none) := by
  obtain ⟨q, hq, hroute⟩ := hm.exists_route hframe
  obtain ⟨hqas, -⟩ := hm.earlier hq
  exact (h q frame hqas hroute hreply).mono ((List.prefix_append _ _).trans hq.1)

/-- The registration of a request is in the mailbox before any reply to it. -/
theorem RepliesFollow.inFront (h : RepliesFollow as p.call p.id) (hm : Occurs as m)
    (hregistered : Happens m.before (Registers p)) : m.state.InFront p := by
  obtain ⟨r, hr, hregisters⟩ := hregistered
  obtain ⟨hras, hearlier⟩ := hm.earlier hr
  obtain ⟨c, refusal, limit, haction, hcall, hphase, hlimit, hopen, hp⟩ := hregisters
  have hkeep : ∀ u b v, step? u b = some v → u.InFront p ∧ u.Reaches p.call 3 →
      v.InFront p ∧ v.Reaches p.call 3 := fun u b v hstep h =>
    ⟨h.1.step (move_of_step hstep) h.2.not_registers, h.2.step hstep⟩
  refine (Run.Moment.In.lasts (P := fun u => u.InFront p ∧ u.Reaches p.call 3) hkeep hras hm
    hearlier ⟨?_, ?_⟩).1
  · intro before after hsplit frame hframe hid
    have hmail : r.next.mailbox = r.state.mailbox ++ [.register p] := by
      have hnext := hras.2.2
      simp only [haction, step?, State.callerStep?, hcall, hphase, hlimit, State.enqueue,
        if_pos hopen, State.post, Option.some.injEq] at hnext
      rw [← hnext, hp]
      rfl
    have hbefore : before <+: r.state.mailbox := by
      rw [hmail] at hsplit
      apply List.prefix_of_prefix_length_le ⟨_, hsplit.symm⟩ (List.prefix_append _ _)
      have hlength := congrArg List.length hsplit
      simp only [List.length_append, List.length_cons, List.length_nil] at hlength
      omega
    -- a reply that was there already would have come before its command was written
    have hrouted : frame ∈ routed r.before := by
      rw [routed_eq hras.run hopen]
      exact List.mem_append_right _ (List.mem_filterMap.mpr ⟨_, hbefore.subset hframe, rfl⟩)
    obtain ⟨d, hd, hrank⟩ := (h.written hras hrouted hid).reaches_of_write hras.run
    obtain rfl := Option.some.inj (hcall.symm.trans hd)
    simp [hphase, Phase.rank] at hrank
  · have hnext := hras.reaches_next haction hcall
    rw [hphase] at hnext
    exact hnext

/-- The caller of that number waits for the keeper's word, or has ended with it. -/
def State.Heeds (s : State) (n id : Nat) : Prop :=
  ∃ c, s.calls[n]? = some c ∧ (c.phase = .waiting id ∨ ∃ o, c.phase = .done o ∧ c.word = some o)

theorem State.Heeds.step (h : s.Heeds n id) (hcoherent : Coherent s.books)
    (hstep : step? s a = some t) : t.Heeds n id := by
  obtain ⟨c, hcall, hphase⟩ := h
  obtain ⟨c', hcall', hprogress⟩ := (move_of_step hstep).progress hcall
  refine ⟨c', hcall', ?_⟩
  rcases hphase with hwaiting | ⟨o, hdone, hword⟩
  · cases hprogress with
    | learn hphase hword => exact Or.inr ⟨_, rfl, hword⟩
    | _ => simp_all
  · obtain ⟨d, hd, hkept⟩ := State.Told.step ⟨c, hcall, hword⟩ hcoherent hstep
    obtain rfl := Option.some.inj (hcall'.symm.trans hd)
    exact Or.inr ⟨o, hprogress.done hdone, hkept⟩

theorem Happens.heeds (h : Happens as (Writes n id none)) (hrun : run? {} as = some s) :
    s.Heeds n id := by
  obtain ⟨m, hm, c, haction, hcall, hphase⟩ := h
  have hnext := hm.2.2
  simp only [haction, step?, State.callerStep?, hcall, hphase, Option.some.injEq] at hnext
  have hwaiting : m.next.calls[n]? = some { c with phase := .waiting id } := by
    rw [← hnext]
    exact getElem?_rephase_self hcall
  rw [run?_eq_follow] at hrun
  exact (Run.Moment.In.lasts_to_end (P := fun u => Coherent u.books ∧ u.Heeds n id)
    (fun _ _ _ hstep h => ⟨h.1.step hstep, h.2.step h.1 hstep⟩) hm hrun
    ⟨hm.coherent.step hm.2.2, _, hwaiting, Or.inl rfl⟩).2

/-- Who heeds the keeper's word and has got it ends with it. -/
theorem Settled.outcome_of_told {o : Outcome} (h : Settled s) (hheeds : s.Heeds n id)
    (htold : s.Told n o) : s.outcome? n = some o := by
  obtain ⟨c, hcall, hword⟩ := htold
  obtain ⟨d, hd, hphase⟩ := hheeds
  obtain rfl := Option.some.inj (hcall.symm.trans hd)
  rcases hphase with hwaiting | ⟨o', hdone, hword'⟩
  · rcases h.call hcall with ⟨o', hdone⟩ | ⟨_, -, hnone⟩
    · rw [hwaiting] at hdone
      cases hdone
    · rw [hword] at hnone
      cases hnone
  · obtain rfl := Option.some.inj (hword.symm.trans hword')
    exact outcome?_of_done hcall hdone

/-- When the keeper takes a reply that follows its command, the request is pending, unless an
    earlier reply or its deadline has resolved it. -/
theorem RepliesFollow.answers (h : RepliesFollow as n id) (hm : Occurs as m)
    (htakes : Takes frame m.state m.action) (hreply : replyId? frame = some id) :
    ∃ p, p.call = n ∧ p.id = id ∧
      (Answers p frame m.state m.action ∨ Happens m.before (Expires p) ∨
        ∃ frame', Happens m.before (Answers p frame')) := by
  have hwritten := h.written hm (hm.routed_of_takes htakes) hreply
  obtain ⟨c, hcall, hphase⟩ := hwritten.heeds hm.run
  have hdecided : ∀ o, c.word = some o → ∃ p, p.call = n ∧ p.id = id ∧
      (Happens m.before (Expires p) ∨ ∃ frame', Happens m.before (Answers p frame')) := by
    intro o hword
    obtain ⟨q, p, hq, rfl, hdecides⟩ := decided_of_word hm.run hcall hword
    have hid : ∀ {p' : Pending}, p'.call = p.call → p' ∈ q.state.pending → p'.id = id := by
      intro p' hcall' hp'
      exact (hcall' ▸ hq.drawn_of_pending hp').id_unique hwritten.drawn_of_write
    cases hdecides with
    | reply hanswers =>
        exact ⟨p, rfl, hid rfl (State.awaited?_eq_some hanswers.2).1, Or.inr ⟨_, q, hq, hanswers⟩⟩
    | expiry hexpires => exact ⟨p, rfl, hid rfl hexpires.2.1, Or.inl ⟨q, hq, hexpires⟩⟩
    | cancellation hcancels =>
        -- a keeper that cancels is on its way out, and this one still runs
        obtain ⟨hqas, hearlier⟩ := hm.earlier hq
        have hnext : q.next.keeper ≠ .running := by
          intro hrunning
          have hkeeper := hqas.move.running hrunning
          rw [hcancels.2.1] at hkeeper
          cases hkeeper
        refine absurd htakes.2.1 (Run.Moment.In.lasts (P := fun u => u.keeper ≠ .running) ?_ hqas
          hm hearlier hnext)
        exact fun _ _ _ hstep hleft hrunning => hleft ((move_of_step hstep).running hrunning)
  cases hword : c.word with
  | some o =>
      obtain ⟨p, hn, hid, hbefore⟩ := hdecided o hword
      exact ⟨p, hn, hid, Or.inr hbefore⟩
  | none =>
      have hwaiting : c.phase = .waiting id := by
        rcases hphase with hwaiting | ⟨o, -, hsome⟩
        · exact hwaiting
        · rw [hword] at hsome
          cases hsome
      obtain ⟨p, hp, rfl, rfl⟩ := hm.coherent.held hcall (by rw [hwaiting]; rfl) hword
      refine ⟨p, rfl, rfl, Or.inl ⟨htakes, ?_⟩⟩
      have hpending : p ∈ m.state.pending := by
        rcases List.mem_append.mp hp with hpending | hqueued
        · exact hpending
        · -- a registration still in the mailbox would stand behind the frame
          obtain ⟨-, -, rest, hmail⟩ := htakes
          obtain ⟨before, after, hsplit⟩ := List.append_of_mem (mem_requests.mp hqueued)
          have hfront := h.inFront hm (registered_of_tracked hm.run hp) before after hsplit
          rw [hmail] at hsplit
          cases before with
          | nil => simp at hsplit
          | cons x before =>
              obtain ⟨rfl, -⟩ := List.cons.inj hsplit
              exact absurd hreply (hfront frame List.mem_cons_self)
      obtain ⟨p', hp', hid', hawaited⟩ := State.Awaits.awaited ⟨p, hpending, rfl⟩ hreply
      rw [hawaited, hm.coherent.eq_of_id (mem_tracked_of_mem_pending hp') hp hid']

/-! ### A reply finds its request -/

theorem Occurs.handled_before {q : Moment} (hq : Occurs m.before q) (hp : p ∈ q.state.pending) :
    Happens m.before (Handles (.register p)) :=
  (handled_of_pending hq.run hp).mono ((List.prefix_append _ _).trans hq.1)

/-- When the keeper takes a reply that follows its command, it has taken the registration of the
    request before; the first such reply resolves the request, unless its deadline did. -/
theorem RepliesFollow.registered (h : RepliesFollow as n id) (hm : Occurs as m)
    (htakes : Takes frame m.state m.action) (hreply : replyId? frame = some id) :
    ∃ p, p.call = n ∧ p.id = id ∧ Happens m.before (Handles (.register p)) ∧
      (m.state.awaited? frame = none →
        Happens m.before (Expires p) ∨ ∃ frame', Happens m.before (Answers p frame')) ∧
      ((∀ f ∈ taken m.before, replyId? f ≠ some id) →
        Answers p frame m.state m.action ∨ Happens m.before (Expires p)) := by
  obtain ⟨p, hn, rfl, hanswers | hexpires | ⟨frame', hanswers⟩⟩ := h.answers hm htakes hreply
  · have hp := (State.awaited?_eq_some hanswers.2).1
    refine ⟨p, hn, rfl, handled_of_pending hm.run hp, ?_, fun _ => Or.inl hanswers⟩
    intro hnone
    rw [hanswers.2] at hnone
    cases hnone
  · obtain ⟨q, hq, hexpired⟩ := hexpires
    exact ⟨p, hn, rfl, hq.handled_before hexpired.2.1, fun _ => Or.inl ⟨q, hq, hexpired⟩,
      fun _ => Or.inr ⟨q, hq, hexpired⟩⟩
  · obtain ⟨q, hq, hanswered⟩ := hanswers
    obtain ⟨hp, hid⟩ := State.awaited?_eq_some hanswered.2
    refine ⟨p, hn, rfl, hq.handled_before hp, fun _ => Or.inr ⟨frame', q, hq, hanswered⟩, ?_⟩
    intro hfirst
    exact absurd hid (hfirst frame' (hq.mem_taken hanswered.1))

theorem Settled.taken_eq (h : Settled s) (hrun : run? {} as = some s)
    (hrunning : s.keeper = .running) : taken as = routed as := by
  have hrouted := routed_eq hrun (mailboxOpen_of_running hrunning)
  rw [h.mailbox (closing_of_run hrun), frames_nil, List.append_nil] at hrouted
  exact hrouted.symm

theorem Occurs.taken_eq_take (hm : Occurs as m) :
    taken m.before = (routed as).take (taken m.before).length := by
  obtain ⟨rest, hrest⟩ := taken_prefix_routed hm.run
  obtain ⟨later, hlater⟩ := hm.1
  rw [← hlater, List.append_assoc, routed_append, ← hrest, List.append_assoc,
    List.take_left']
  rfl

/-- No reply overtakes its registration, in every run.  If every frame with an id arrives after
    the command under the id was written by a request and accepted by the channel, then the keeper
    has taken the registration whenever it takes such a frame: a frame with the id is passed on
    only if the request had run out of time or an earlier frame had resolved it.  When nobody can
    act, the first such frame has resolved the request, unless it had run out of time before or
    the keeper took a shutdown and never got to the frame. -/
theorem no_reply_overtakes (hrun : run? {} as = some s) (hfollow : RepliesFollow as n id) :
    (∀ m frame, Occurs as m → Takes frame m.state m.action → replyId? frame = some id →
      ∃ p, p.call = n ∧ p.id = id ∧ Happens m.before (Handles (.register p)) ∧
        (m.state.awaited? frame = none →
          Happens m.before (Expires p) ∨ ∃ frame', Happens m.before (Answers p frame')) ∧
        ((∀ f ∈ taken m.before, replyId? f ≠ some id) →
          Answers p frame m.state m.action ∨ Happens m.before (Expires p))) ∧
    (Settled s → ∀ k frame, (routed as)[k]? = some frame → replyId? frame = some id →
      (∀ f ∈ (routed as).take k, replyId? f ≠ some id) →
        (ResolvedBy as k n ∧ s.outcome? n = some (Outcome.ofReply frame)) ∨
        (∃ m p, Occurs as m ∧ Takes frame m.state m.action ∧ (taken m.before).length = k ∧
          p.call = n ∧ p.id = id ∧ Happens m.before (Expires p) ∧
          s.outcome? n = some (.error (timeoutFault p.method))) ∨
        ((taken as).length ≤ k ∧ Happens as (Handles .shutdown))) := by
  refine ⟨fun m frame hm htakes hreply => hfollow.registered hm htakes hreply, ?_⟩
  intro hsettled k frame hk hreply hfirst
  by_cases hlt : k < (taken as).length
  · obtain ⟨m, hm, htakes, rfl⟩ := exists_takes hrun (List.getElem?_eq_getElem hlt)
    obtain rfl := Option.some.inj (hk.symm.trans (hm.routed_getElem? htakes))
    have hheeds := ((hfollow.written hm (hm.routed_of_takes htakes) hreply).mono
      ((List.prefix_append _ _).trans hm.1)).heeds hrun
    rw [← hm.taken_eq_take] at hfirst
    obtain ⟨p, rfl, hid, -, -, hfate⟩ := hfollow.registered hm htakes hreply
    rcases hfate hfirst with hanswers | hexpires
    · left
      exact ⟨⟨m, p, _, hm, rfl, hanswers, rfl⟩,
        hsettled.outcome_of_told hheeds (hm.told_at_end hrun (hm.told_of_answers hanswers))⟩
    · right
      left
      obtain ⟨q, hq, hexpired⟩ := hexpires
      obtain ⟨hqas, -⟩ := hm.earlier hq
      exact ⟨m, p, hm, htakes, rfl, rfl, hid, ⟨q, hq, hexpired⟩,
        hsettled.outcome_of_told hheeds (hqas.told_at_end hrun (hqas.told_of_expires hexpired))⟩
  · right
    right
    rw [Nat.not_lt] at hlt
    refine ⟨hlt, handled_shutdown hrun fun hrunning => ?_⟩
    rw [hsettled.taken_eq hrun hrunning] at hlt
    have := (List.getElem?_eq_some_iff.mp hk).1
    omega

/-- Two requests under way at once, and a target that answers each as soon as it is written: both
    replies are in the mailbox before the keeper has taken any registration. -/
def racedRun : List Action :=
  [.begin "first" none (some 5), .begin "second" none (some 5), .caller 0 none, .caller 1 none,
    .caller 0 none, .caller 1 none, .caller 1 none, .caller 0 none, .caller 0 none,
    .route (.object [("id", .integer 1), ("result", .string "one")]), .caller 1 none,
    .route (.object [("id", .integer 2), ("result", .string "two")]), .handle, .handle, .handle,
    .handle, .caller 0 none, .caller 1 none]

/-- Where `racedRun` leads. -/
def racedEnd : State where
  nextId := 3
  calls :=
    [⟨"first", none, some 5, .done (.ok (.string "one")), some (.ok (.string "one"))⟩,
      ⟨"second", none, some 5, .done (.ok (.string "two")), some (.ok (.string "two"))⟩]
  answered := [0, 1]
  writes := [⟨⟨1, "first", none⟩, none⟩, ⟨⟨2, "second", none⟩, none⟩]
  log :=
    [.tracking 2 "second", .tracking 1 "first", .answered 1 "first" (.ofMillis 0),
      .answered 2 "second" (.ofMillis 0)]

theorem racedRun_follow : RepliesFollow racedRun 0 1 := by
  have hindex : ∀ k < 18, (racedRun[k]?.bind Action.routed?).bind replyId? = some 1 → k = 9 := by
    decide
  have hwritten : Happens (racedRun.take 9) (Writes 0 1 none) :=
    ⟨⟨racedRun.take 8,
      { nextId := 3
        calls :=
          [⟨"first", none, some 5, .registered 1, none⟩,
            ⟨"second", none, some 5, .registered 2, none⟩]
        mailbox := [.register ⟨2, 1, "second", 0, 5⟩, .register ⟨1, 0, "first", 0, 5⟩] },
      .caller 0 none,
      { nextId := 3
        calls :=
          [⟨"first", none, some 5, .waiting 1, none⟩,
            ⟨"second", none, some 5, .registered 2, none⟩]
        mailbox := [.register ⟨2, 1, "second", 0, 5⟩, .register ⟨1, 0, "first", 0, 5⟩]
        writes := [⟨⟨1, "first", none⟩, none⟩] }⟩,
      ⟨List.prefix_rfl, rfl, rfl⟩, _, rfl, rfl, rfl⟩
  intro q frame hq hroute hreply
  obtain ⟨rest, hrest⟩ := hq.1
  rw [hroute, List.append_assoc] at hrest
  have hlength := congrArg List.length hrest
  have hat : racedRun[q.before.length]? = some (.route frame) := by
    rw [← hrest, List.getElem?_append_right (Nat.le_refl _), Nat.sub_self]
    rfl
  have hnine : q.before.length = 9 := by
    refine hindex _ ?_ (by rw [hat]; exact hreply)
    simp [racedRun] at hlength
    omega
  have hbefore : q.before = racedRun.take 9 := by rw [← hrest, ← hnine, List.take_left']; rfl
  rw [hbefore]
  exact hwritten

theorem no_reply_overtakes_raced :
    run? {} racedRun = some racedEnd ∧ RepliesFollow racedRun 0 1 ∧ Settled racedEnd ∧
      ResolvedBy racedRun 0 0 := by
  have hrun : run? {} racedRun = some racedEnd := rfl
  have hsettled : Settled racedEnd := settled_of_isIdle rfl
  have hfates := (no_reply_overtakes hrun racedRun_follow).2 hsettled 0 _ rfl rfl (by simp)
  refine ⟨hrun, racedRun_follow, hsettled, ?_⟩
  rcases hfates with hresolved | ⟨_, _, -, -, -, -, -, -, htimeout⟩ | ⟨hnever, -⟩
  · exact hresolved.1
  · cases htimeout
  · exact absurd hnever (by decide)

end ConsoleTap.Exchange
