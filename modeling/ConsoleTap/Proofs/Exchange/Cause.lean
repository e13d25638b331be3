import ConsoleTap.Proofs.Exchange.Frames
import ConsoleTap.Proofs.Exchange.Resolution

/-!
# Every outcome has its cause

A request ends with the meaning of a frame only if the keeper took that frame while
the request was pending under the frame's id, and it was the first such frame; with a
timeout only if the keeper gave up on it when its time was over; with a cancellation
only if somebody closed the session; and with a transport error exactly if its own
write failed.  A frame resolves one request at most and touches no other.
-/

namespace ConsoleTap.Exchange

open ConsoleTap.Json ConsoleTap.Target

variable {s t : State} {a : Action} {as : List Action} {n id : Nat} {c : Call} {p : Pending}
  {frame : Value} {o : Outcome} {m m' : Moment}

/-- A request is pending under that id. -/
def State.Awaits (s : State) (id : Nat) : Prop := ∃ p ∈ s.pending, p.id = id

/-! ### What a frame does -/

/-- A frame that the keeper takes resolves the request pending under its id and touches nothing
    else, or it touches no request at all. -/
theorem Move.takes (hmove : Move s a t) (htakes : Takes frame s a) :
    (∃ p, s.awaited? frame = some p ∧ t.pending = without s.pending p.id ∧
      t.calls = tell s.calls [(p.call, Outcome.ofReply frame)]) ∨
    (s.awaited? frame = none ∧ t.pending = s.pending ∧ t.calls = s.calls) := by
  obtain ⟨rfl, -, rest, hmail⟩ := htakes
  cases hmove with
  | takeRequest hkeeper hmail' => simp [hmail] at hmail'
  | takeForget hkeeper hmail' => simp [hmail] at hmail'
  | takeShutdown hkeeper hmail' => simp [hmail] at hmail'
  | takeReply hkeeper hmail' hreply =>
      rw [hmail, List.cons.injEq, Message.frame.injEq] at hmail'
      obtain ⟨rfl, -⟩ := hmail'
      exact Or.inl ⟨_, hreply, rfl, rfl⟩
  | takeEvent hkeeper hmail' hreply hreader =>
      rw [hmail, List.cons.injEq, Message.frame.injEq] at hmail'
      obtain ⟨rfl, -⟩ := hmail'
      exact Or.inr ⟨hreply, rfl, rfl⟩
  | dropEvent hkeeper hmail' hreply hreader =>
      rw [hmail, List.cons.injEq, Message.frame.injEq] at hmail'
      obtain ⟨rfl, -⟩ := hmail'
      exact Or.inr ⟨hreply, rfl, rfl⟩

theorem State.Awaits.awaited (h : s.Awaits id) (hid : replyId? frame = some id) :
    ∃ p ∈ s.pending, p.id = id ∧ s.awaited? frame = some p := by
  obtain ⟨p, hp, hpid⟩ := h
  cases hreply : s.awaited? frame with
  | none => exact absurd (hpid ▸ hid) (State.awaited?_eq_none hreply hp)
  | some q =>
      obtain ⟨hq, hqid⟩ := State.awaited?_eq_some hreply
      exact ⟨q, hq, Option.some.inj (hqid.symm.trans hid), rfl⟩

theorem Happens.drawn_of_registration (h : Happens as (Registers p)) :
    Happens as (Draws p.call p.id) := by
  obtain ⟨r, hr, d, _, _, -, hcall, hphase, -⟩ := h
  exact hr.happens (drawn_of_id hr.run hcall (by rw [hphase]; rfl))

/-- No two requests are registered under one id. -/
theorem Happens.eq_of_id {q : Pending} (h : Happens as (Registers p))
    (h' : Happens as (Registers q)) (hid : p.id = q.id) : p = q :=
  h.registration_unique h' (h.drawn_of_registration.drawer_unique (hid ▸ h'.drawn_of_registration))

theorem Occurs.drawn_of_pending (hm : Occurs as m) (hp : p ∈ m.state.pending) :
    Happens as (Draws p.call p.id) :=
  hm.happens (registered_of_tracked hm.run (mem_tracked_of_mem_pending hp)).drawn_of_registration

/-- The keeper has given the caller of that number its word. -/
def State.Told (s : State) (n : Nat) (o : Outcome) : Prop :=
  ∃ c, s.calls[n]? = some c ∧ c.word = some o

/-- Whoever got word is tracked no more, so no other word follows. -/
theorem State.Told.step (h : s.Told n o) (hcoherent : Coherent s.books)
    (hstep : step? s a = some t) : t.Told n o := by
  obtain ⟨c, hcall, hword⟩ := h
  obtain ⟨c', hcall', hprogress⟩ := (move_of_step hstep).progress hcall
  refine ⟨c', hcall', ?_⟩
  have hnot : ∀ q ∈ s.tracked, q.call ≠ n := by
    rintro q hq rfl
    obtain ⟨d, hd, hnone, -⟩ := hcoherent.tracked_call q hq
    obtain rfl := Option.some.inj (hcall.symm.trans hd)
    rw [hword] at hnone
    cases hnone
  cases hprogress with
  | answered hkeeper hmail hreply hn =>
      have hp := (State.awaited?_eq_some hreply).1
      exact absurd hn (hnot _ (mem_tracked_of_mem_pending hp))
  | expired hp hn =>
      exact absurd hn (hnot _ (mem_tracked_of_mem_pending (List.mem_of_mem_filter hp)))
  | cancelledQueued hkeeper hmail hn =>
      exact absurd hn (hnot _ (mem_tracked_of_queued (by simp [hmail])))
  | cancelled hkeeper hp hn => exact absurd hn (hnot _ (mem_tracked_of_mem_pending hp))
  | _ => exact hword

theorem Occurs.told_later (hm : Occurs as m) (hm' : Occurs as m') (hearlier : m.Earlier m')
    (h : m.next.Told n o) : m'.state.Told n o :=
  (Run.Moment.In.lasts (P := fun u => Coherent u.books ∧ u.Told n o)
    (fun _ _ _ hstep h => ⟨h.1.step hstep, h.2.step h.1 hstep⟩) hm hm' hearlier
    ⟨hm.coherent.step hm.2.2, h⟩).2

theorem Occurs.told_at_end (hm : Occurs as m) (hrun : run? {} as = some s)
    (h : m.next.Told n o) : s.Told n o := by
  rw [run?_eq_follow] at hrun
  exact (Run.Moment.In.lasts_to_end (P := fun u => Coherent u.books ∧ u.Told n o)
    (fun _ _ _ hstep h => ⟨h.1.step hstep, h.2.step h.1 hstep⟩) hm hrun
    ⟨hm.coherent.step hm.2.2, h⟩).2

theorem Coherent.told_of_tell (h : Coherent s.books) {words : List (Nat × Outcome)}
    (hcalls : t.calls = tell s.calls words) (hnodup : (words.map Prod.fst).Nodup)
    (hp : p ∈ s.tracked) (hmem : (p.call, o) ∈ words) : t.Told p.call o := by
  obtain ⟨d, hd, -⟩ := h.tracked_call p hp
  have hd' : s.calls[p.call]? = some d := hd
  refine ⟨{ d with word := some o }, ?_, rfl⟩
  rw [hcalls, getElem?_tell_of_mem hnodup hmem, hd']
  rfl

theorem Occurs.told_of_answers (hm : Occurs as m) (hanswers : Answers p frame m.state m.action) :
    m.next.Told p.call (Outcome.ofReply frame) := by
  rcases hm.move.takes hanswers.1 with ⟨q, hreply, -, hcalls⟩ | ⟨hnone, -⟩
  · obtain rfl := Option.some.inj (hanswers.2.symm.trans hreply)
    have hp := (State.awaited?_eq_some hanswers.2).1
    exact hm.coherent.told_of_tell hcalls (by simp) (mem_tracked_of_mem_pending hp)
      List.mem_cons_self
  · rw [hanswers.2] at hnone
    cases hnone

theorem Move.expires (hmove : Move s a t) (hexpires : Expires p s a) :
    t.calls = tell s.calls (State.timeouts s.overdue) := by
  obtain ⟨rfl, -, -⟩ := hexpires
  cases hmove with
  | expire hkeeper hoverdue => rw [State.expireAll_eq]

theorem Occurs.told_of_expires (hm : Occurs as m) (hexpires : Expires p m.state m.action) :
    m.next.Told p.call (.error (timeoutFault p.method)) := by
  have hoverdue : p ∈ m.state.overdue :=
    List.mem_filter.mpr ⟨hexpires.2.1, by simpa using hexpires.2.2⟩
  refine hm.coherent.told_of_tell (hm.move.expires hexpires) ?_
    (mem_tracked_of_mem_pending hexpires.2.1) (List.mem_map_of_mem hoverdue)
  rw [State.map_fst_timeouts]
  exact hm.coherent.calls_nodup.sublist
    ((List.filter_sublist.trans (List.sublist_append_left _ _)).map Pending.call)

/-- Nobody who is tracked gets word at two moments. -/
theorem Occurs.eq_of_told {o' : Outcome} (hm : Occurs as m) (hm' : Occurs as m')
    (hp : p ∈ m.state.tracked) (hp' : p ∈ m'.state.tracked) (htold : m.next.Told p.call o)
    (htold' : m'.next.Told p.call o') : m = m' := by
  have hbefore : ∀ {m : Moment}, Occurs as m → p ∈ m.state.tracked →
      ¬ (Coherent m.state.books ∧ ∃ o, m.state.Told p.call o) := by
    rintro m hm hp ⟨-, o, c, hcall, hword⟩
    obtain ⟨d, hd, hnone, -⟩ := hm.coherent.tracked_call p hp
    obtain rfl := Option.some.inj (hcall.symm.trans hd)
    rw [hword] at hnone
    cases hnone
  refine Run.Moment.In.eq_of_lasts (P := fun u => Coherent u.books ∧ ∃ o, u.Told p.call o) ?_ hm hm'
    ⟨hm.coherent.step hm.2.2, o, htold⟩ ⟨hm'.coherent.step hm'.2.2, o', htold'⟩ (hbefore hm hp)
    (hbefore hm' hp')
  rintro u a v hstep ⟨hcoherent, o, htold⟩
  exact ⟨hcoherent.step hstep, o, htold.step hcoherent hstep⟩

/-- The frame that resolves a request is the first one with its id that the keeper takes while
    the request is pending. -/
theorem Answers.first (hm : Occurs as m) (hanswers : Answers p frame m.state m.action)
    (hm' : Occurs as m') {frame' : Value} (htakes : Takes frame' m'.state m'.action)
    (hid : replyId? frame' = some p.id) (hawaits : m'.state.Awaits p.id) : ¬ m'.Earlier m := by
  intro hearlier
  have hp : p ∈ m.state.pending := (State.awaited?_eq_some hanswers.2).1
  obtain ⟨q, hq, hqid, hreply⟩ := hawaits.awaited hid
  have hqp : q.call = p.call :=
    Happens.drawer_unique (hm'.drawn_of_pending hq) (hqid ▸ hm.drawn_of_pending hp)
  -- the earlier frame gave the caller its word, and who got word is tracked no more
  obtain ⟨c, hcall, hsome⟩ :=
    hm'.told_later hm hearlier (hqp ▸ hm'.told_of_answers ⟨htakes, hreply⟩)
  obtain ⟨d, hd, hnone, -⟩ := hm.coherent.tracked_call p (mem_tracked_of_mem_pending hp)
  obtain rfl := Option.some.inj (hcall.symm.trans hd)
  rw [hsome] at hnone
  cases hnone

/-- A frame that arrives, or that the keeper takes and that has another id, leaves the caller of
    an id and what is pending under it as they are. -/
theorem Occurs.untouched (hm : Occurs as m) (hdrawn : Happens as (Draws n id))
    (hother : m.action = .route frame ∨
      (Takes frame m.state m.action ∧ replyId? frame ≠ some id)) :
    m.next.calls[n]? = m.state.calls[n]? ∧
      ∀ p : Pending, p.id = id → (p ∈ m.next.pending ↔ p ∈ m.state.pending) := by
  rcases hother with haction | ⟨htakes, hne⟩
  · have hstep := hm.2.2
    rw [haction] at hstep
    obtain ⟨hcalls, hpending⟩ :
        m.next.calls = m.state.calls ∧ m.next.pending = m.state.pending := by
      rw [← Option.some.inj hstep]
      split
      · rw [State.post]
        split <;> exact ⟨rfl, rfl⟩
      · exact ⟨rfl, rfl⟩
    rw [hcalls, hpending]
    exact ⟨rfl, fun _ _ => Iff.rfl⟩
  · rcases hm.move.takes htakes with ⟨q, hreply, hpending, hcalls⟩ | ⟨-, hpending, hcalls⟩
    · obtain ⟨hq, hqid⟩ := State.awaited?_eq_some hreply
      have hqne : q.id ≠ id := fun heq => hne (heq ▸ hqid)
      rw [hcalls, hpending]
      constructor
      · refine getElem?_tell_of_not_mem ?_
        simp only [List.map_cons, List.map_nil, List.mem_singleton]
        rintro rfl
        exact hqne ((hm.drawn_of_pending hq).id_unique hdrawn)
      · rintro p rfl
        simp only [without, List.mem_filter, decide_eq_true_eq, and_iff_left_iff_imp]
        exact fun _ heq => hqne heq.symm
    · rw [hcalls, hpending]
      exact ⟨rfl, fun _ _ => Iff.rfl⟩

/-! ### One frame, one request -/

/-- The frame that arrived after that many others resolved the request of that caller. -/
def ResolvedBy (as : List Action) (k n : Nat) : Prop :=
  ∃ m p frame, Occurs as m ∧ (taken m.before).length = k ∧ Answers p frame m.state m.action ∧
    p.call = n

theorem Occurs.taken_snoc (hm : Occurs as m) :
    taken (m.before ++ [m.action]) = taken m.before ++ takenFrame m.state m.action :=
  Run.along_snoc _ hm.2.1 hm.2.2

theorem Occurs.mem_taken (hm : Occurs as m) (htakes : Takes frame m.state m.action) :
    frame ∈ taken as := by
  apply (Run.Moment.In.along_snoc_prefix takenFrame hm).subset
  rw [takes_iff.mp htakes]
  exact List.mem_append_right _ List.mem_cons_self

theorem Occurs.taken_lt (hm : Occurs as m) (htakes : Takes frame m.state m.action) :
    (taken m.before).length < (taken as).length := by
  have hle := (Run.Moment.In.along_snoc_prefix takenFrame hm).length_le
  rw [takes_iff.mp htakes, List.length_append] at hle
  exact hle

theorem exists_takes {k : Nat} (hrun : run? {} as = some s) (hk : (taken as)[k]? = some frame) :
    ∃ m, Occurs as m ∧ Takes frame m.state m.action ∧ (taken m.before).length = k := by
  rw [run?_eq_follow] at hrun
  obtain ⟨m, hm, j, hj, rfl⟩ := Run.exists_moment_of_along takenFrame hrun hk
  refine ⟨m, hm, ?_⟩
  unfold takenFrame at hj
  split at hj
  · rename_i haction
    split at hj
    · rename_i hkeeper hmail
      cases j with
      | zero =>
          obtain rfl := Option.some.inj hj
          exact ⟨⟨haction, hkeeper, _, hmail⟩, rfl⟩
      | succ j => cases hj
    · cases hj
  · cases hj

/-- The frames taken before a moment, and the one taken there, are the first that arrived. -/
theorem Occurs.routed_getElem? (hm : Occurs as m) (htakes : Takes frame m.state m.action) :
    (routed as)[(taken m.before).length]? = some frame := by
  have htaken := taken_prefix_routed hm.run_next
  rw [hm.taken_snoc, takes_iff.mp htakes] at htaken
  obtain ⟨rest, hrest⟩ := hm.1
  have hinit : taken m.before ++ [frame] <+: routed as := by
    refine htaken.trans ⟨routed rest, ?_⟩
    rw [← hrest, routed_append (m.before ++ [m.action])]
  obtain ⟨later, hlater⟩ := hinit
  rw [← hlater, List.append_assoc, List.getElem?_append_right (Nat.le_refl _), Nat.sub_self]
  rfl

theorem Occurs.taken_length_lt (hm : Occurs as m) (hm' : Occurs as m')
    (htakes : Takes frame m.state m.action) (hearlier : m.Earlier m') :
    (taken m.before).length < (taken m'.before).length := by
  have hle := (Run.Moment.In.along_prefix takenFrame hm hm' hearlier).length_le
  rw [takes_iff.mp htakes, List.length_append] at hle
  exact hle

theorem Occurs.eq_of_taken (hm : Occurs as m) (hm' : Occurs as m') {frame' : Value}
    (htakes : Takes frame m.state m.action) (htakes' : Takes frame' m'.state m'.action)
    (hlength : (taken m.before).length = (taken m'.before).length) : m = m' := by
  rcases Nat.lt_trichotomy m.before.length m'.before.length with hlt | heq | hgt
  · have := hm.taken_length_lt hm' htakes hlt
    omega
  · exact Run.Moment.In.eq_of_length hm hm' heq
  · have := hm'.taken_length_lt hm htakes' hgt
    omega

/-- A frame resolves one request at most. -/
theorem ResolvedBy.unique {k n' : Nat} (h : ResolvedBy as k n) (h' : ResolvedBy as k n') :
    n = n' := by
  obtain ⟨m, p, frame, hm, hk, hanswers, rfl⟩ := h
  obtain ⟨m', p', frame', hm', hk', hanswers', rfl⟩ := h'
  have hmm : m = m' := hm.eq_of_taken hm' hanswers.1 hanswers'.1 (hk.trans hk'.symm)
  subst hmm
  have hframe : frame = frame' := by
    have heq := (takes_iff.mp hanswers.1).symm.trans (takes_iff.mp hanswers'.1)
    exact (List.cons.inj heq).1
  subst hframe
  rw [Option.some.inj (hanswers.2.symm.trans hanswers'.2)]

/-! ### The causes -/

/-- What has to have happened for the request of a caller, with its id, to end in that way. -/
inductive Cause (as : List Action) (n id : Nat) : Outcome → Prop where
  | reply {m : Moment} {p : Pending} {frame : Value} (hm : Occurs as m)
      (hanswers : Answers p frame m.state m.action) (hn : p.call = n) (hid : p.id = id) :
      Cause as n id (Outcome.ofReply frame)
  | expiry {m : Moment} {p : Pending} (hm : Occurs as m) (hexpires : Expires p m.state m.action)
      (hn : p.call = n) (hid : p.id = id) : Cause as n id (.error (timeoutFault p.method))
  | shutdown {m : Moment} (hm : Occurs as m) (hclosed : m.state.closed = true) :
      Cause as n id (.error .cancelled)
  | refusal {cause : TransportFault} (hrefused : Happens as (Writes n id (some cause))) :
      Cause as n id (.error (.transport cause))

theorem Occurs.call_kept (hm : Occurs as m) (hrun : run? {} as = some s) {d : Call}
    (hcall : m.state.calls[n]? = some d) (hcall' : s.calls[n]? = some c) :
    c.limit = d.limit ∧ c.method = d.method := by
  have hstep : ∀ u a v, step? u a = some v →
      (∃ e, u.calls[n]? = some e ∧ e.limit = d.limit ∧ e.method = d.method) →
      ∃ e, v.calls[n]? = some e ∧ e.limit = d.limit ∧ e.method = d.method := by
    rintro u a v hstep ⟨e, he, hlimit, hmethod⟩
    obtain ⟨e', he', hprogress⟩ := (move_of_step hstep).progress he
    exact ⟨e', he', hprogress.limit_eq.trans hlimit, hprogress.method_eq.trans hmethod⟩
  rw [run?_eq_follow] at hrun
  have hnext := hstep _ _ _ hm.2.2 ⟨d, hcall, rfl, rfl⟩
  obtain ⟨e, he, hkept⟩ := Run.Moment.In.lasts_to_end hstep hm hrun hnext
  obtain rfl := Option.some.inj (hcall'.symm.trans he)
  exact hkept

theorem cause_of_decision (hm : Occurs as m) (hdecides : Decides p m.state m.action o)
    (hdrawn : Happens as (Draws p.call id)) : Cause as p.call id o := by
  cases hdecides with
  | reply hanswers =>
      have hp := (State.awaited?_eq_some hanswers.2).1
      exact .reply hm hanswers rfl ((hm.drawn_of_pending hp).id_unique hdrawn)
  | expiry hexpires =>
      exact .expiry hm hexpires rfl ((hm.drawn_of_pending hexpires.2.1).id_unique hdrawn)
  | cancellation hcancels =>
      exact .shutdown hm ((closing_of_run hm.run).shut_closed (by simp [hcancels.2.1]))

/-- Every outcome of a request has its cause. -/
theorem cause_of_outcome {limit : Nat} (hrun : run? {} as = some s)
    (hcall : s.calls[n]? = some c) (hlimit : c.limit = some limit)
    (hdrawn : Happens as (Draws n id)) (hdone : c.phase = .done o) : Cause as n id o := by
  obtain ⟨m, d, d', hm, hd, -, hprogress, hnew, hdone'⟩ :=
    exists_progress (P := fun c => c.phase = .done o) hrun hcall hdone
      (fun c hphase _ => by simp [hphase])
  have hdlimit : d.limit = some limit := (hm.call_kept hrun hd hcall).1.symm.trans hlimit
  rcases hprogress.ends hdlimit hnew hdone' with
    ⟨⟨-, hclosed⟩, rfl⟩ | ⟨id', cause, hphase, rfl⟩ | ⟨id', hphase, hword⟩
  · apply Cause.shutdown hm
    rcases hclosed with hclosed | hshut
    · exact hclosed
    · apply (closing_of_run hm.run).shut_closed
      rcases mailboxOpen_eq_false_iff.mp hshut with hk | hk <;> simp [hk]
  · have hrefused := hm.happens (refused_of_phase hm.run hd hphase)
    obtain rfl := hrefused.drawn_of_write.id_unique hdrawn
    exact .refusal hrefused
  · obtain ⟨m', p, hm', rfl, hdecides⟩ := decided_of_word hm.run hd hword
    have hm'as : Occurs as m' := Run.Moment.In.mono hm' ((List.prefix_append _ _).trans hm.1)
    exact cause_of_decision hm'as hdecides hdrawn

theorem ofReply_cases (frame : Value) :
    (∃ v, Outcome.ofReply frame = .ok v) ∨
      ∃ code message, Outcome.ofReply frame = .error (.protocol code message) := by
  unfold Outcome.ofReply
  split
  · split <;> exact Or.inr ⟨_, _, rfl⟩
  · exact Or.inl ⟨_, rfl⟩

/-! ### Time limits -/

theorem Occurs.registered_before (hm : Occurs as m) (hp : p ∈ m.state.pending) :
    ∃ r, Occurs as r ∧ r.Earlier m ∧ Registers p r.state r.action := by
  obtain ⟨r, hr, hregisters⟩ :=
    registered_of_tracked hm.run (mem_tracked_of_mem_pending hp)
  obtain ⟨hras, hearlier⟩ := hm.earlier hr
  exact ⟨r, hras, hearlier, hregisters⟩

theorem Expires.late {limit : Nat} (hrun : run? {} as = some s)
    (hcall : s.calls[p.call]? = some c) (hlimit : c.limit = some limit) {r : Moment}
    (hr : Occurs as r) (hregisters : Registers p r.state r.action)
    (hexpires : Expires p m.state m.action) : r.state.now + limit ≤ m.state.now := by
  obtain ⟨d, _, limit', -, hd, -, hlimit', -, hp⟩ := hregisters
  have hkept := (hr.call_kept hrun hd hcall).1
  rw [hlimit, hlimit', Option.some.injEq] at hkept
  have hdeadline : p.deadline = r.state.now + limit' := by rw [hp]
  have hle := hexpires.2.2
  omega

/-! ### Closing -/

theorem Move.closed (hmove : Move s a t) (hclosed : s.closed = true) : t.closed = true := by
  cases hmove with
  | flag hcloser => rfl
  | withdraw hcall hphase =>
      rw [State.post]
      split <;> exact hclosed
  | announce hcloser =>
      rw [State.post]
      split <;> exact hclosed
  | expire hkeeper hoverdue =>
      rw [State.expireAll_eq]
      exact hclosed
  | stop hkeeper hmail =>
      rw [State.cancelAll_eq]
      exact hclosed
  | _ => exact hclosed

theorem Occurs.closed (hm : Occurs as m) (hrun : run? {} as = some s)
    (hclosed : m.state.closed = true) : s.closed = true := by
  rw [run?_eq_follow] at hrun
  exact Run.Moment.In.lasts_to_end (P := fun u => u.closed = true)
    (fun _ _ _ hstep h => (move_of_step hstep).closed h) hm hrun (hm.move.closed hclosed)

theorem Move.asked (hmove : Move s a t) (hs : s.closers = []) (ht : t.closers ≠ []) :
    a = .ask := by
  cases hmove with
  | ask => rfl
  | withdraw hcall hphase =>
      rw [State.post] at ht
      split at ht <;> exact absurd hs ht
  | look hcloser => simp [hs] at hcloser
  | flag hcloser => simp [hs] at hcloser
  | announce hcloser => simp [hs] at hcloser
  | expire hkeeper hoverdue =>
      rw [State.expireAll_eq] at ht
      exact absurd hs ht
  | stop hkeeper hmail =>
      rw [State.cancelAll_eq] at ht
      exact absurd hs ht
  | _ => exact absurd hs ht

theorem asked_of_closed (hrun : run? {} as = some s) (hclosed : s.closed = true) :
    Action.ask ∈ as := by
  have hclosers := (closing_of_run hrun).asked hclosed
  obtain ⟨m, hm, hbefore, hafter⟩ :=
    exists_moment (P := fun u => u.closers ≠ []) hrun hclosers (by simp)
  have haction := hm.move.asked (not_ne_iff.mp hbefore) hafter
  rw [← haction]
  exact hm.1.subset (List.mem_append_right _ List.mem_cons_self)

/-! ### Failed writes -/

/-- The caller of that number has that transport error for its outcome, or is about to. -/
def State.FailsWith (s : State) (n id : Nat) (cause : TransportFault) : Prop :=
  ∃ c, s.calls[n]? = some c ∧
    (c.phase = .refused id cause ∨ c.phase = .done (.error (.transport cause)))

theorem State.FailsWith.step {cause : TransportFault} (h : s.FailsWith n id cause)
    (hstep : step? s a = some t) : t.FailsWith n id cause := by
  obtain ⟨c, hcall, hphase⟩ := h
  obtain ⟨c', hcall', hprogress⟩ := (move_of_step hstep).progress hcall
  refine ⟨c', hcall', ?_⟩
  rcases hphase with hrefused | hdone
  · cases hprogress <;> simp_all
  · exact Or.inr (hprogress.done hdone)

theorem Happens.failsWith {cause : TransportFault} (h : Happens as (Writes n id (some cause)))
    (hrun : run? {} as = some s) : s.FailsWith n id cause := by
  obtain ⟨m, hm, c, haction, hcall, hphase⟩ := h
  have hnext := hm.2.2
  simp only [haction, step?, State.callerStep?, hcall, hphase, Option.some.injEq] at hnext
  have hrefused : m.next.calls[n]? = some { c with phase := .refused id cause } := by
    rw [← hnext]
    exact getElem?_rephase_self hcall
  rw [run?_eq_follow] at hrun
  exact Run.Moment.In.lasts_to_end (P := fun u => u.FailsWith n id cause)
    (fun _ _ _ hstep h => State.FailsWith.step h hstep) hm hrun ⟨_, hrefused, Or.inl rfl⟩

/-- Whose write failed ends with that transport error and with nothing else. -/
theorem Happens.refused_outcome {cause : TransportFault}
    (h : Happens as (Writes n id (some cause))) (hrun : run? {} as = some s)
    (ho : s.outcome? n = some o) : o = .error (.transport cause) := by
  obtain ⟨c, hcall, hphase⟩ := h.failsWith hrun
  obtain ⟨d, hd, hdone⟩ := done_of_outcome? ho
  obtain rfl := Option.some.inj (hcall.symm.trans hd)
  rcases hphase with hrefused | hphase
  · rw [hdone] at hrefused
    cases hrefused
  · exact Phase.done.inj (hdone.symm.trans hphase)

theorem Happens.refused_settled {cause : TransportFault}
    (h : Happens as (Writes n id (some cause))) (hrun : run? {} as = some s)
    (hsettled : Settled s) : s.outcome? n = some (.error (.transport cause)) := by
  obtain ⟨c, hcall, hphase⟩ := h.failsWith hrun
  rcases hphase with hrefused | hdone
  · rcases hsettled.call hcall with ⟨o, hdone⟩ | ⟨_, hwaiting, -⟩
    · simp [hrefused] at hdone
    · simp [hrefused] at hwaiting
  · exact outcome?_of_done hcall hdone

/-! ### Every outcome has its cause -/

/-- What the outcome of a request under an id says about the run that led to it. -/
theorem outcome_has_cause {limit : Nat} (hrun : run? {} as = some s)
    (hcall : s.calls[n]? = some c) (hlimit : c.limit = some limit)
    (hdrawn : Happens as (Draws n id)) :
    (∀ o, s.outcome? n = some o →
      ((∃ v, o = .ok v) ∨ (∃ code message, o = .error (.protocol code message)) →
        ∃ m frame, Occurs as m ∧ Takes frame m.state m.action ∧
          (routed as)[(taken m.before).length]? = some frame ∧
          replyId? frame = some id ∧ m.state.Awaits id ∧ o = Outcome.ofReply frame ∧
          ResolvedBy as (taken m.before).length n ∧
          ∀ m' frame', Occurs as m' → Takes frame' m'.state m'.action →
            replyId? frame' = some id → m'.state.Awaits id → ¬ m'.Earlier m) ∧
      (∀ message, o = .error (.timeout message) →
        ∃ r m p, Occurs as r ∧ Registers p r.state r.action ∧ p.call = n ∧ p.id = id ∧
          Occurs as m ∧ r.Earlier m ∧ Expires p m.state m.action ∧
          r.state.now + limit ≤ m.state.now) ∧
      (o = .error .cancelled → Action.ask ∈ as ∧ s.closed = true) ∧
      (∀ cause, o = .error (.transport cause) → Happens as (Writes n id (some cause))) ∧
      ((∃ v, o = .ok v) ∨ (∃ code message, o = .error (.protocol code message)) ∨
        (∃ message, o = .error (.timeout message)) ∨ o = .error .cancelled ∨
        ∃ cause, o = .error (.transport cause))) ∧
    (∀ cause, Happens as (Writes n id (some cause)) →
      (∀ o, s.outcome? n = some o → o = .error (.transport cause)) ∧
      (Settled s → s.outcome? n = some (.error (.transport cause)))) ∧
    (∀ k n', ResolvedBy as k n → ResolvedBy as k n' → n = n') ∧
    ∀ m frame, Occurs as m →
      (m.action = .route frame ∨
        (Takes frame m.state m.action ∧ replyId? frame ≠ some id)) →
      m.next.calls[n]? = m.state.calls[n]? ∧
        ∀ p : Pending, p.id = id → (p ∈ m.next.pending ↔ p ∈ m.state.pending) := by
  refine ⟨?_, ?_, ?_, ?_⟩
  · intro o ho
    obtain ⟨d, hd, hdone⟩ := done_of_outcome? ho
    obtain rfl := Option.some.inj (hcall.symm.trans hd)
    have hcause := cause_of_outcome hrun hcall hlimit hdrawn hdone
    cases hcause with
    | reply hm hanswers hn hid =>
        rename_i m p frame
        subst hn hid
        obtain ⟨hp, hreply⟩ := State.awaited?_eq_some hanswers.2
        refine ⟨fun _ => ⟨m, frame, hm, hanswers.1, hm.routed_getElem? hanswers.1, hreply,
          ⟨p, hp, rfl⟩, rfl, ⟨m, p, frame, hm, rfl, hanswers, rfl⟩,
          fun m' frame' hm' => hanswers.first hm hm'⟩, ?_⟩
        rcases ofReply_cases frame with ⟨v, hv⟩ | ⟨code, message, he⟩
        · simp [hv]
        · simp [he]
    | expiry hm hexpires hn hid =>
        rename_i m p
        subst hn hid
        obtain ⟨r, hr, hearlier, hregisters⟩ := hm.registered_before hexpires.2.1
        have hlate := hexpires.late hrun hcall hlimit hr hregisters
        refine ⟨by simp [timeoutFault], fun _ _ => ⟨r, m, p, hr, hregisters, rfl, rfl, hm, hearlier,
          hexpires, hlate⟩, ?_⟩
        simp [timeoutFault]
    | shutdown hm hclosed =>
        have hclosed' := hm.closed hrun hclosed
        exact ⟨by simp, by simp, fun _ => ⟨asked_of_closed hrun hclosed', hclosed'⟩, by simp,
          by simp⟩
    | refusal hrefused =>
        refine ⟨by simp, by simp, by simp, ?_, by simp⟩
        intro cause hcause
        simp only [Except.error.injEq, Fault.transport.injEq] at hcause
        exact hcause ▸ hrefused
  · intro cause hrefused
    exact ⟨fun o ho => hrefused.refused_outcome hrun ho,
      fun hsettled => hrefused.refused_settled hrun hsettled⟩
  · exact fun k n' h h' => h.unique h'
  · intro m frame hm hother
    exact hm.untouched hdrawn hother

/-- Two requests are answered in the reverse order. -/
def swappedRun : List Action :=
  [.begin "first" none (some 5), .begin "second" none (some 5), .caller 0 none, .caller 0 none,
    .caller 0 none, .caller 0 none, .caller 1 none, .caller 1 none, .caller 1 none, .caller 1 none,
    .route (.object [("id", .integer 2), ("result", .string "two")]),
    .route (.object [("id", .integer 1), ("result", .string "one")]),
    .handle, .handle, .handle, .handle, .caller 1 none, .caller 0 none]

/-- Where `swappedRun` leads. -/
def swappedEnd : State where
  nextId := 3
  calls :=
    [⟨"first", none, some 5, .done (.ok (.string "one")), some (.ok (.string "one"))⟩,
      ⟨"second", none, some 5, .done (.ok (.string "two")), some (.ok (.string "two"))⟩]
  answered := [1, 0]
  writes := [⟨⟨1, "first", none⟩, none⟩, ⟨⟨2, "second", none⟩, none⟩]
  log :=
    [.tracking 1 "first", .tracking 2 "second", .answered 2 "second" (.ofMillis 0),
      .answered 1 "first" (.ofMillis 0)]

theorem outcome_has_cause_swapped :
    run? {} swappedRun = some swappedEnd ∧
      ∃ m frame, Occurs swappedRun m ∧ Takes frame m.state m.action ∧ replyId? frame = some 1 ∧
        Outcome.ofReply frame = .ok (.string "one") := by
  have hrun : run? {} swappedRun = some swappedEnd := rfl
  have hdrawn : Happens swappedRun (Draws 0 1) :=
    ⟨⟨swappedRun.take 3,
      { calls :=
          [⟨"first", none, some 5, .admitted, none⟩, ⟨"second", none, some 5, .started, none⟩] },
      .caller 0 none,
      { nextId := 2
        calls :=
          [⟨"first", none, some 5, .numbered 1, none⟩,
            ⟨"second", none, some 5, .started, none⟩] }⟩,
      ⟨List.take_prefix 4 swappedRun, rfl, rfl⟩, _, none, rfl, rfl, rfl, rfl⟩
  have houtcome := (outcome_has_cause (n := 0) hrun rfl rfl hdrawn).1 _ rfl
  obtain ⟨m, frame, hm, htakes, -, hid, -, ho, -⟩ := houtcome.1 (Or.inl ⟨_, rfl⟩)
  exact ⟨hrun, m, frame, hm, htakes, hid, ho.symm⟩

end ConsoleTap.Exchange
