import ConsoleTap.Proofs.Exchange.Progress

/-!
# What has happened to a call

The present state of a call tells what has happened to it: an id was drawn, a
registration was put into the mailbox, a command was written, a word was given.
Each of these is a moment of the run.  A fact that holds now and did not hold at the
beginning came about at some moment, and the progress made there is of one kind
only.  Since a caller never goes back, most of these moments happen once.
-/

namespace ConsoleTap.Exchange

open ConsoleTap.Json ConsoleTap.Target

/-! ### Kinds of steps -/

/-- The caller of that number draws that id. -/
def Draws (n id : Nat) (s : State) (a : Action) : Prop :=
  ∃ c refusal, a = .caller n refusal ∧ s.calls[n]? = some c ∧ c.phase = .admitted ∧ s.nextId = id

/-- A caller puts its registration into the mailbox. -/
def Registers (p : Pending) (s : State) (a : Action) : Prop :=
  ∃ c refusal limit, a = .caller p.call refusal ∧ s.calls[p.call]? = some c ∧
    c.phase = .numbered p.id ∧ c.limit = some limit ∧ s.mailboxOpen = true ∧
    p = ⟨p.id, p.call, c.method, s.now, s.now + limit⟩

/-- The caller of that number, registered under that id, writes its command, with that verdict
    of the channel. -/
def Writes (n id : Nat) (refusal : Option TransportFault) (s : State) (a : Action) : Prop :=
  ∃ c, a = .caller n refusal ∧ s.calls[n]? = some c ∧ c.phase = .registered id

/-- The keeper takes that message. -/
def Handles (x : Message) (s : State) (a : Action) : Prop :=
  a = .handle ∧ s.keeper = .running ∧ ∃ rest, s.mailbox = x :: rest

/-- The keeper takes that frame. -/
def Takes (frame : Value) (s : State) (a : Action) : Prop :=
  a = .handle ∧ s.keeper = .running ∧ ∃ rest, s.mailbox = .frame frame :: rest

/-- The keeper takes that frame as the reply of a pending request. -/
def Answers (p : Pending) (frame : Value) (s : State) (a : Action) : Prop :=
  Takes frame s a ∧ s.awaited? frame = some p

/-- The keeper gives up on a pending request whose deadline has come. -/
def Expires (p : Pending) (s : State) (a : Action) : Prop :=
  a = .expire ∧ p ∈ s.pending ∧ p.deadline ≤ s.now

/-- The keeper, on its way out, cancels a request. -/
def Cancels (p : Pending) (s : State) (a : Action) : Prop :=
  (a = .discard ∨ a = .stop) ∧ s.keeper = .draining ∧ p ∈ s.tracked

/-- The keeper gives its word about a request. -/
inductive Decides (p : Pending) (s : State) (a : Action) : Outcome → Prop where
  | reply {frame : Value} (h : Answers p frame s a) : Decides p s a (Outcome.ofReply frame)
  | expiry (h : Expires p s a) : Decides p s a (.error (timeoutFault p.method))
  | cancellation (h : Cancels p s a) : Decides p s a (.error .cancelled)

/-- The caller of that number finds the session closed. -/
def TurnedAway (n : Nat) (s : State) (a : Action) : Prop :=
  (∃ refusal, a = .caller n refusal) ∧ (s.closed = true ∨ s.mailboxOpen = false)

variable {s t : State} {a : Action} {as : List Action} {n id : Nat} {c c' : Call} {p : Pending}

/-! ### What progress is due to -/

theorem Progress.draws (h : Progress s n a c c') (hcall : s.calls[n]? = some c)
    (hnew : c.phase.id? ≠ some id) (hid : c'.phase.id? = some id) : Draws n id s a := by
  cases h with
  | draw hphase => exact ⟨c, _, rfl, hcall, hphase, by simpa [Phase.id?] using hid⟩
  | stay => exact absurd hid hnew
  | _ => simp_all [Phase.id?]

theorem Progress.writes (h : Progress s n a c c') (hcall : s.calls[n]? = some c)
    (hnew : c.phase ≠ .waiting id) (hphase : c'.phase = .waiting id) : Writes n id none s a := by
  cases h with
  | write hregistered =>
      simp only [Phase.waiting.injEq] at hphase
      subst hphase
      exact ⟨c, rfl, hcall, hregistered⟩
  | stay => exact absurd hphase hnew
  | _ => simp_all

theorem Progress.writesRefused {cause : TransportFault} (h : Progress s n a c c')
    (hcall : s.calls[n]? = some c) (hnew : c.phase ≠ .refused id cause)
    (hphase : c'.phase = .refused id cause) : Writes n id (some cause) s a := by
  cases h with
  | writeRefused hregistered =>
      simp only [Phase.refused.injEq] at hphase
      obtain ⟨rfl, rfl⟩ := hphase
      exact ⟨c, rfl, hcall, hregistered⟩
  | stay => exact absurd hphase hnew
  | _ => simp_all

theorem Progress.decides {o : Outcome} (h : Progress s n a c c') (hnew : c.word ≠ some o)
    (hword : c'.word = some o) : ∃ p, p.call = n ∧ Decides p s a o := by
  cases h with
  | answered hkeeper hmail hreply hn =>
      obtain rfl := Option.some.inj hword
      exact ⟨_, hn, .reply ⟨⟨rfl, hkeeper, _, hmail⟩, hreply⟩⟩
  | expired hp hn =>
      obtain rfl := Option.some.inj hword
      obtain ⟨hp, hdeadline⟩ := List.mem_filter.mp hp
      exact ⟨_, hn, .expiry ⟨rfl, hp, by simpa using hdeadline⟩⟩
  | cancelledQueued hkeeper hmail hn =>
      obtain rfl := Option.some.inj hword
      refine ⟨_, hn, .cancellation ⟨Or.inl rfl, hkeeper, ?_⟩⟩
      exact mem_tracked_of_queued (by simp [hmail])
  | cancelled hkeeper hp hn =>
      obtain rfl := Option.some.inj hword
      exact ⟨_, hn, .cancellation ⟨Or.inr rfl, hkeeper, mem_tracked_of_mem_pending hp⟩⟩
  | _ => exact absurd hword hnew

/-- A request ends because its caller was turned away, was refused by the channel or learned the
    keeper's word. -/
theorem Progress.ends {o : Outcome} {limit : Nat} (h : Progress s n a c c')
    (hlimit : c.limit = some limit) (hnew : c.phase ≠ .done o) (hdone : c'.phase = .done o) :
    (TurnedAway n s a ∧ o = .error .cancelled) ∨
      (∃ id cause, c.phase = .refused id cause ∧ o = .error (.transport cause)) ∨
      ∃ id, c.phase = .waiting id ∧ c.word = some o := by
  cases h with
  | turnAway hphase hclosed =>
      exact Or.inl ⟨⟨⟨_, rfl⟩, Or.inl hclosed⟩, (Phase.done.inj hdone).symm⟩
  | registerLate hphase _ hshut =>
      exact Or.inl ⟨⟨⟨_, rfl⟩, Or.inr hshut⟩, (Phase.done.inj hdone).symm⟩
  | notify hphase hnone =>
      rw [hlimit] at hnone
      cases hnone
  | withdraw hphase =>
      exact Or.inr (Or.inl ⟨_, _, hphase, (Phase.done.inj hdone).symm⟩)
  | learn hphase hword =>
      obtain rfl := Phase.done.inj hdone
      exact Or.inr (Or.inr ⟨_, hphase, hword⟩)
  | stay => exact absurd hdone hnew
  | _ => simp_all

/-- What the keeper has to track is added by the caller's registration and by nothing else. -/
theorem Move.registers (hmove : Move s a t) (hnew : p ∉ s.tracked) (hp : p ∈ t.tracked) :
    Registers p s a := by
  cases hmove with
  | register hcall hphase hlimit hopen =>
      rename_i m id limit d refusal
      have hcases : p ∈ s.tracked ∨ p = ⟨id, m, d.method, s.now, s.now + limit⟩ := by
        simpa [State.tracked, State.setPhase, State.updateCall, or_assoc] using hp
      rcases hcases with hp | rfl
      · exact absurd hp hnew
      · exact ⟨d, refusal, limit, rfl, hcall, hphase, hlimit, hopen, rfl⟩
  | takeRequest hkeeper hmail =>
      rename_i q rest
      refine absurd ?_ hnew
      rcases List.mem_append.mp hp with hp | hp
      · rcases List.mem_append.mp hp with hp | hp
        · exact mem_tracked_of_mem_pending (List.mem_of_mem_filter hp)
        · rw [List.mem_singleton.mp hp]
          exact mem_tracked_of_queued (by simp [hmail])
      · apply List.mem_append_right _
        rw [hmail]
        exact List.mem_cons_of_mem _ hp
  | takeForget hkeeper hmail =>
      refine absurd ?_ hnew
      rcases List.mem_append.mp hp with hp | hp
      · exact mem_tracked_of_mem_pending (List.mem_of_mem_filter hp)
      · exact List.mem_append_right _ (by simpa [hmail] using hp)
  | takeReply hkeeper hmail hreply =>
      refine absurd ?_ hnew
      rcases List.mem_append.mp hp with hp | hp
      · exact mem_tracked_of_mem_pending (List.mem_of_mem_filter hp)
      · exact List.mem_append_right _ (by simpa [hmail] using hp)
  | expire hkeeper hoverdue =>
      refine absurd ?_ hnew
      rw [State.expireAll_eq] at hp
      rcases List.mem_append.mp hp with hp | hp
      · exact mem_tracked_of_mem_pending (State.mem_withoutAll.mp hp).1
      · exact List.mem_append_right _ hp
  | discardRequest hkeeper hmail =>
      refine absurd ?_ hnew
      rcases List.mem_append.mp hp with hp | hp
      · exact mem_tracked_of_mem_pending hp
      · apply List.mem_append_right _
        rw [hmail]
        exact List.mem_cons_of_mem _ hp
  | discardOther hkeeper hmail hother =>
      refine absurd ?_ hnew
      rcases List.mem_append.mp hp with hp | hp
      · exact mem_tracked_of_mem_pending hp
      · rw [mem_requests] at hp
        refine List.mem_append_right _ (mem_requests.mpr ?_)
        rw [hmail]
        exact List.mem_cons_of_mem _ hp
  | stop hkeeper hmail =>
      rw [State.cancelAll_eq] at hp
      simp [State.tracked, hmail] at hp
  | withdraw hcall hphase =>
      refine absurd ?_ hnew
      rw [State.post] at hp
      split at hp <;> simpa [State.tracked, State.setPhase, State.updateCall] using hp
  | announce hcloser =>
      refine absurd ?_ hnew
      rw [State.post] at hp
      split at hp <;> simpa [State.tracked] using hp
  | _ =>
      refine absurd ?_ hnew
      simp_all [State.tracked, State.setPhase, State.updateCall, State.note, State.recordWrite]

/-- A message enters the mailbox at its end or leaves it at its front, and only the caller's
    registration brings a registration. -/
theorem Move.mailbox (hmove : Move s a t) :
    t.mailbox = s.mailbox ∨
      (∃ x, t.mailbox = s.mailbox ++ [x] ∧ ∀ p, x = .register p → Registers p s a) ∨
      ∃ x, s.mailbox = x :: t.mailbox := by
  cases hmove with
  | route frame hopen => exact Or.inr (Or.inl ⟨_, rfl, by simp⟩)
  | register hcall hphase hlimit hopen =>
      refine Or.inr (Or.inl ⟨_, rfl, fun p hp => ?_⟩)
      rw [← Message.register.inj hp]
      exact ⟨_, _, _, rfl, hcall, hphase, hlimit, hopen, rfl⟩
  | withdraw hcall hphase =>
      rw [State.post]
      split
      · exact Or.inr (Or.inl ⟨_, rfl, by simp⟩)
      · exact Or.inl rfl
  | announce hcloser =>
      rw [State.post]
      split
      · exact Or.inr (Or.inl ⟨_, rfl, by simp⟩)
      · exact Or.inl rfl
  | takeRequest hkeeper hmail => exact Or.inr (Or.inr ⟨_, hmail⟩)
  | takeForget hkeeper hmail => exact Or.inr (Or.inr ⟨_, hmail⟩)
  | takeReply hkeeper hmail hreply => exact Or.inr (Or.inr ⟨_, hmail⟩)
  | takeEvent hkeeper hmail hreply hreader => exact Or.inr (Or.inr ⟨_, hmail⟩)
  | dropEvent hkeeper hmail hreply hreader => exact Or.inr (Or.inr ⟨_, hmail⟩)
  | takeShutdown hkeeper hmail => exact Or.inr (Or.inr ⟨_, hmail⟩)
  | discardRequest hkeeper hmail => exact Or.inr (Or.inr ⟨_, hmail⟩)
  | discardOther hkeeper hmail hother => exact Or.inr (Or.inr ⟨_, hmail⟩)
  | expire hkeeper hoverdue => exact Or.inl (by rw [State.expireAll_eq])
  | stop hkeeper hmail => exact Or.inl (by rw [State.cancelAll_eq])
  | _ => exact Or.inl rfl

/-- A request becomes pending as the keeper takes its registration. -/
theorem Move.pends (hmove : Move s a t) (hnew : p ∉ s.pending) (hp : p ∈ t.pending) :
    Handles (.register p) s a := by
  cases hmove with
  | takeRequest hkeeper hmail =>
      rcases List.mem_append.mp hp with hp | hp
      · exact absurd (List.mem_of_mem_filter hp) hnew
      · rw [List.mem_singleton.mp hp]
        exact ⟨rfl, hkeeper, _, hmail⟩
  | takeForget hkeeper hmail => exact absurd (List.mem_of_mem_filter hp) hnew
  | takeReply hkeeper hmail hreply => exact absurd (List.mem_of_mem_filter hp) hnew
  | expire hkeeper hoverdue =>
      rw [State.expireAll_eq] at hp
      exact absurd (State.mem_withoutAll.mp hp).1 hnew
  | stop hkeeper hmail =>
      rw [State.cancelAll_eq] at hp
      cases hp
  | withdraw hcall hphase =>
      rw [State.post] at hp
      split at hp <;> exact absurd hp hnew
  | announce hcloser =>
      rw [State.post] at hp
      split at hp <;> exact absurd hp hnew
  | _ => exact absurd hp hnew

/-! ### Moments -/

/-- A moment in a run of the exchange. -/
abbrev Moment := Run.Moment State Action

/-- The moment belongs to the run from the beginning by these actions. -/
def Occurs (as : List Action) (m : Moment) : Prop := m.In step? {} as

/-- A step of that kind is among the run's. -/
def Happens (as : List Action) (kind : State → Action → Prop) : Prop :=
  ∃ m, Occurs as m ∧ kind m.state m.action

variable {m m' : Moment} {kind : State → Action → Prop}

theorem Occurs.run (hm : Occurs as m) : run? {} m.before = some m.state := by
  rw [run?_eq_follow]
  exact hm.2.1

theorem Occurs.run_next (hm : Occurs as m) : run? {} (m.before ++ [m.action]) = some m.next := by
  rw [run?_eq_follow]
  exact Run.follow_snoc hm.2.1 hm.2.2

theorem Occurs.move (hm : Occurs as m) : Move m.state m.action m.next := move_of_step hm.2.2

theorem Occurs.coherent (hm : Occurs as m) : Coherent m.state.books := coherent_of_run hm.run

theorem Occurs.earlier {q : Moment} (hm : Occurs as m) (hq : Occurs m.before q) :
    Occurs as q ∧ q.Earlier m :=
  Run.Moment.In.earlier hm hq

theorem Happens.mono {bs : List Action} (h : Happens as kind) (has : as <+: bs) :
    Happens bs kind := by
  obtain ⟨m, hm, hkind⟩ := h
  exact ⟨m, Run.Moment.In.mono hm has, hkind⟩

theorem Occurs.happens (hm : Occurs as m) (h : Happens m.before kind) : Happens as kind :=
  h.mono ((List.prefix_append _ _).trans hm.1)

theorem exists_moment {P : State → Prop} (hrun : run? {} as = some s) (hs : P s)
    (hstart : ¬ P {}) : ∃ m, Occurs as m ∧ ¬ P m.state ∧ P m.next := by
  rw [run?_eq_follow] at hrun
  exact Run.exists_turn hstart hrun hs

/-- A call shows what it did not show at its beginning: some progress brought it about. -/
theorem exists_progress {P : Call → Prop} (hrun : run? {} as = some s)
    (hcall : s.calls[n]? = some c) (hc : P c)
    (hstart : ∀ c : Call, c.phase = .started → c.word = none → ¬ P c) :
    ∃ m d d', Occurs as m ∧ m.state.calls[n]? = some d ∧ m.next.calls[n]? = some d' ∧
      Progress m.state n m.action d d' ∧ ¬ P d ∧ P d' := by
  obtain ⟨m, hm, hbefore, d', hd', hP⟩ :=
    exists_moment (P := fun u => ∃ c, u.calls[n]? = some c ∧ P c) hrun ⟨c, hcall, hc⟩ (by simp)
  rcases progress_of_move hm.move hd' with ⟨-, hphase, hword⟩ | ⟨d, hd, hprogress⟩
  · exact absurd hP (hstart d' hphase hword)
  · exact ⟨m, d, d', hm, hd, hd', hprogress, fun h => hbefore ⟨d, hd, h⟩, hP⟩

/-! ### What the state tells about the past -/

theorem drawn_of_id (hrun : run? {} as = some s) (hcall : s.calls[n]? = some c)
    (hid : c.phase.id? = some id) : Happens as (Draws n id) := by
  obtain ⟨m, d, d', hm, hd, -, hprogress, hnew, hid'⟩ :=
    exists_progress (P := fun c => c.phase.id? = some id) hrun hcall hid
      (fun c hphase _ => by simp [hphase, Phase.id?])
  exact ⟨m, hm, hprogress.draws hd hnew hid'⟩

theorem written_of_waiting (hrun : run? {} as = some s) (hcall : s.calls[n]? = some c)
    (hphase : c.phase = .waiting id) : Happens as (Writes n id none) := by
  obtain ⟨m, d, d', hm, hd, -, hprogress, hnew, hphase'⟩ :=
    exists_progress (P := fun c => c.phase = .waiting id) hrun hcall hphase
      (fun c hphase _ => by simp [hphase])
  exact ⟨m, hm, hprogress.writes hd hnew hphase'⟩

theorem refused_of_phase {cause : TransportFault} (hrun : run? {} as = some s)
    (hcall : s.calls[n]? = some c) (hphase : c.phase = .refused id cause) :
    Happens as (Writes n id (some cause)) := by
  obtain ⟨m, d, d', hm, hd, -, hprogress, hnew, hphase'⟩ :=
    exists_progress (P := fun c => c.phase = .refused id cause) hrun hcall hphase
      (fun c hphase _ => by simp [hphase])
  exact ⟨m, hm, hprogress.writesRefused hd hnew hphase'⟩

theorem decided_of_word {o : Outcome} (hrun : run? {} as = some s) (hcall : s.calls[n]? = some c)
    (hword : c.word = some o) :
    ∃ m p, Occurs as m ∧ p.call = n ∧ Decides p m.state m.action o := by
  obtain ⟨m, d, d', hm, hd, -, hprogress, hnew, hword'⟩ :=
    exists_progress (P := fun c => c.word = some o) hrun hcall hword
      (fun c _ hword => by simp [hword])
  obtain ⟨p, hn, hdecides⟩ := hprogress.decides hnew hword'
  exact ⟨m, p, hm, hn, hdecides⟩

theorem registered_of_tracked (hrun : run? {} as = some s) (hp : p ∈ s.tracked) :
    Happens as (Registers p) := by
  obtain ⟨m, hm, hnew, hp'⟩ :=
    exists_moment (P := fun u => p ∈ u.tracked) hrun hp (by simp [State.tracked])
  exact ⟨m, hm, hm.move.registers hnew hp'⟩

/-- What is pending was taken out of the mailbox. -/
theorem handled_of_pending (hrun : run? {} as = some s) (hp : p ∈ s.pending) :
    Happens as (Handles (.register p)) := by
  obtain ⟨m, hm, hnew, hp'⟩ :=
    exists_moment (P := fun u => p ∈ u.pending) hrun hp (by simp)
  exact ⟨m, hm, hm.move.pends hnew hp'⟩

/-! ### Moments that come once -/

/-- The call of that number has got at least that far. -/
def State.Reaches (s : State) (n rank : Nat) : Prop :=
  ∃ c, s.calls[n]? = some c ∧ rank ≤ c.phase.rank

theorem State.Reaches.step {rank : Nat} (h : s.Reaches n rank) (hstep : step? s a = some t) :
    t.Reaches n rank := by
  obtain ⟨c, hc, hrank⟩ := h
  obtain ⟨c', hc', hprogress⟩ := (move_of_step hstep).progress hc
  exact ⟨c', hc', hrank.trans hprogress.rank_le⟩

/-- Whoever has been registered is not registered again. -/
theorem State.Reaches.not_registers (h : s.Reaches p.call 3) : ¬ Registers p s a := by
  rintro ⟨c, _, _, -, hcall, hphase, -⟩
  obtain ⟨d, hd, hrank⟩ := h
  obtain rfl := Option.some.inj (hcall.symm.trans hd)
  simp [hphase, Phase.rank] at hrank

theorem Occurs.reaches_next (hm : Occurs as m) {refusal : Option TransportFault}
    (haction : m.action = .caller n refusal) (hcall : m.state.calls[n]? = some c) :
    m.next.Reaches n (c.phase.rank + 1) := by
  have hmove := hm.move
  rw [haction] at hmove
  obtain ⟨c', hc', hprogress⟩ := hmove.progress hcall
  exact ⟨c', hc', hprogress.rank_lt⟩

theorem Occurs.eq_of_caller (hm : Occurs as m) (hm' : Occurs as m')
    {refusal refusal' : Option TransportFault} (haction : m.action = .caller n refusal)
    (haction' : m'.action = .caller n refusal') (hcall : m.state.calls[n]? = some c)
    (hcall' : m'.state.calls[n]? = some c') (hrank : c.phase.rank = c'.phase.rank) : m = m' := by
  have hnot : ∀ {u : State} {d : Call}, u.calls[n]? = some d → d.phase.rank = c.phase.rank →
      ¬ u.Reaches n (c.phase.rank + 1) := by
    rintro u d hd hdrank ⟨e, he, hle⟩
    obtain rfl := Option.some.inj (hd.symm.trans he)
    omega
  refine Run.Moment.In.eq_of_lasts (P := fun u => u.Reaches n (c.phase.rank + 1))
    (fun _ _ _ hstep h => State.Reaches.step h hstep) hm hm' (hm.reaches_next haction hcall) ?_
    (hnot hcall rfl) (hnot hcall' hrank.symm)
  rw [hrank]
  exact hm'.reaches_next haction' hcall'

theorem Happens.id_unique {id' : Nat} (h : Happens as (Draws n id))
    (h' : Happens as (Draws n id')) : id = id' := by
  obtain ⟨m, hm, c, _, haction, hcall, hphase, rfl⟩ := h
  obtain ⟨m', hm', c', _, haction', hcall', hphase', rfl⟩ := h'
  rw [hm.eq_of_caller hm' haction haction' hcall hcall' (by rw [hphase, hphase'])]

theorem Happens.registration_unique {p q : Pending} (h : Happens as (Registers p))
    (h' : Happens as (Registers q)) (hcall : p.call = q.call) : p = q := by
  obtain ⟨m, hm, c, _, limit, haction, hc, hphase, hlimit, -, hp⟩ := h
  obtain ⟨m', hm', c', _, limit', haction', hc', hphase', hlimit', -, hq⟩ := h'
  rw [← hcall] at haction' hc'
  have hmm : m = m' :=
    hm.eq_of_caller hm' haction haction' hc hc' (by rw [hphase, hphase']; rfl)
  subst hmm
  obtain rfl := Option.some.inj (hc.symm.trans hc')
  obtain rfl := Option.some.inj (hlimit.symm.trans hlimit')
  have hid : p.id = q.id := Phase.numbered.inj (hphase.symm.trans hphase')
  rw [hp, hq, hid, hcall]

theorem Happens.verdict_unique {id' : Nat} {refusal refusal' : Option TransportFault}
    (h : Happens as (Writes n id refusal)) (h' : Happens as (Writes n id' refusal')) :
    refusal = refusal' := by
  obtain ⟨m, hm, c, haction, hcall, hphase⟩ := h
  obtain ⟨m', hm', c', haction', hcall', hphase'⟩ := h'
  have hmm : m = m' :=
    hm.eq_of_caller hm' haction haction' hcall hcall' (by rw [hphase, hphase']; rfl)
  subst hmm
  exact (Action.caller.inj (haction.symm.trans haction')).2

theorem Happens.drawn_of_write {refusal : Option TransportFault}
    (h : Happens as (Writes n id refusal)) : Happens as (Draws n id) := by
  obtain ⟨m, hm, c, -, hcall, hphase⟩ := h
  exact hm.happens (drawn_of_id hm.run hcall (by rw [hphase]; rfl))

theorem Happens.reaches_of_registration (h : Happens as (Registers p))
    (hrun : run? {} as = some s) : s.Reaches p.call 3 := by
  obtain ⟨m, hm, c, _, _, haction, hcall, hphase, -⟩ := h
  have hnext := hm.reaches_next haction hcall
  rw [hphase] at hnext
  rw [run?_eq_follow] at hrun
  exact Run.Moment.In.lasts_to_end (P := fun u => u.Reaches p.call 3)
    (fun _ _ _ hstep h => State.Reaches.step h hstep) hm hrun hnext

theorem nextId_le_of_move (hmove : Move s a t) : s.nextId ≤ t.nextId := by
  cases hmove with
  | draw hcall hphase => exact Nat.le_succ _
  | withdraw hcall hphase =>
      rw [State.post]
      split <;> exact Nat.le_refl _
  | announce hcloser =>
      rw [State.post]
      split <;> exact Nat.le_refl _
  | expire hkeeper hoverdue =>
      rw [State.expireAll_eq]
  | stop hkeeper hmail =>
      rw [State.cancelAll_eq]
  | _ => exact Nat.le_refl _

/-- No two callers draw the same id. -/
theorem Happens.drawer_unique {k : Nat} (h : Happens as (Draws n id))
    (h' : Happens as (Draws k id)) : n = k := by
  obtain ⟨m, hm, c, _, haction, hcall, hphase, hid⟩ := h
  obtain ⟨m', hm', c', _, haction', hcall', hphase', hid'⟩ := h'
  have hnext : ∀ {m : Moment} {n : Nat} {c : Call} {refusal : Option TransportFault},
      Occurs as m → m.action = .caller n refusal → m.state.calls[n]? = some c →
      c.phase = .admitted → m.state.nextId = id → id < m.next.nextId := by
    intro m n c refusal hm haction hcall hphase hid
    have hstep := hm.2.2
    simp only [haction, step?, State.callerStep?, hcall, hphase, Option.some.injEq] at hstep
    rw [← hstep, ← hid]
    exact Nat.lt_succ_self _
  have hmm : m = m' := by
    refine Run.Moment.In.eq_of_lasts (P := fun u => id < u.nextId) ?_ hm hm'
      (hnext hm haction hcall hphase hid) (hnext hm' haction' hcall' hphase' hid') ?_ ?_
    · intro u a v hstep hlt
      exact hlt.trans_le (nextId_le_of_move (move_of_step hstep))
    · exact hid ▸ Nat.lt_irrefl _
    · exact hid' ▸ Nat.lt_irrefl _
  subst hmm
  exact (Action.caller.inj (haction.symm.trans haction')).1

end ConsoleTap.Exchange
