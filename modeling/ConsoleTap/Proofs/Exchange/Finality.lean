import ConsoleTap.Proofs.Exchange.Conservation
import ConsoleTap.Proofs.Exchange.WriteOrder

/-!
# Closed for good

A caller looks whether the session is open, draws an id and hands its command to the
channel without waiting in between, and so does a closer mark the session closed and tell
the keeper.  When such pieces are not broken up, nobody is under way when the session is
marked closed, and whoever looks later is turned away: no id is drawn any more and
nothing is written.  What can still happen to a request is what was on its way already.
-/

namespace ConsoleTap.Exchange

open ConsoleTap.Json ConsoleTap.Target

variable {s t u : State} {a : Action} {as bs before after : List Action} {n k id : Nat}
  {c c' : Call} {o : Outcome} {frame : Value} {m q r : Moment}

/-! ### Pieces -/

/-- The closer found the session open and has still to mark it closed or to tell the keeper. -/
def CloserPhase.isUnderWay : CloserPhase → Bool
  | .admitted | .flagged => true
  | .asked | .done => false

/-- What a party does without waiting is one piece: nobody else acts in the middle of it. -/
structure Unbroken (as : List Action) : Prop where
  caller : ∀ m n, Occurs as m → m.state.UnderWay n → ∃ refusal, m.action = .caller n refusal
  closer : ∀ m n phase, Occurs as m → m.state.closers[n]? = some phase →
    phase.isUnderWay = true → m.action = .closer n

theorem Unbroken.mono (h : Unbroken as) (hbs : bs <+: as) : Unbroken bs where
  caller m n hm := h.caller m n (Run.Moment.In.mono hm hbs)
  closer m n phase hm := h.closer m n phase (Run.Moment.In.mono hm hbs)

def Action.isCaller (n : Nat) : Action → Bool
  | .caller k _ => decide (k = n)
  | _ => false

def Action.isCloser (n : Nat) : Action → Bool
  | .closer k => decide (k = n)
  | _ => false

/-- Whether whoever is in such a phase is the one that acts. -/
def callersKept (inside : Phase → Bool) (s : State) (a : Action) : List Bool :=
  s.calls.zipIdx.map fun (c, n) => !inside c.phase || a.isCaller n

theorem caller_of_callersKept {inside : Phase → Bool}
    (h : ∀ kept ∈ callersKept inside s a, kept = true) (hcall : s.calls[n]? = some c)
    (hinside : inside c.phase = true) : ∃ refusal, a = .caller n refusal := by
  have hmem := List.mem_map_of_mem (f := fun (c, n) => !inside (Call.phase c) || a.isCaller n)
    (List.mk_mem_zipIdx_iff_getElem?.mpr hcall)
  have hcaller := h _ hmem
  simp only [hinside, Bool.not_true, Bool.false_or] at hcaller
  cases a with
  | caller k refusal => exact ⟨refusal, by rw [of_decide_eq_true hcaller]⟩
  | _ => cases hcaller

/-- Whether whoever is in the middle of a piece is the one that acts. -/
def piecesKept (s : State) (a : Action) : List Bool :=
  s.calls.zipIdx.map (fun (c, n) => !c.phase.isUnderWay || a.isCaller n) ++
    s.closers.zipIdx.map fun (phase, n) => !phase.isUnderWay || a.isCloser n

theorem unbroken_of_piecesKept
    (h : ∀ kept ∈ Run.along step? piecesKept {} as, kept = true) : Unbroken as := by
  have hkept : ∀ {m : Moment} {b : Bool}, Occurs as m → b ∈ piecesKept m.state m.action →
      b = true := fun hm hb =>
    h _ ((Run.Moment.In.along_snoc_prefix piecesKept hm).subset (List.mem_append_right _ hb))
  constructor
  · rintro m n hm ⟨c, hcall, hway⟩
    exact caller_of_callersKept (fun kept hmem => hkept hm (List.mem_append_left _ hmem)) hcall hway
  · intro m n phase hm hcloser hway
    have hmem := List.mem_map_of_mem (f := fun (phase, n) => !CloserPhase.isUnderWay phase ||
      m.action.isCloser n) (List.mk_mem_zipIdx_iff_getElem?.mpr hcloser)
    have hacts := hkept hm (List.mem_append_right _ hmem)
    simp only [hway, Bool.not_true, Bool.false_or] at hacts
    cases haction : m.action with
    | closer k =>
        rw [haction] at hacts
        rw [of_decide_eq_true hacts]
    | _ =>
        rw [haction] at hacts
        cases hacts

/-! ### At the mark -/

theorem Move.closes (hmove : Move s a t) (hopen : s.closed = false) (hclosed : t.closed = true) :
    ∃ n, a = .closer n := by
  cases hmove with
  | flag hcloser => exact ⟨_, rfl⟩
  | withdraw hcall hphase =>
      rw [State.post] at hclosed
      split at hclosed <;> exact absurd (hopen.symm.trans hclosed) Bool.noConfusion
  | announce hcloser => exact ⟨_, rfl⟩
  | expire hkeeper hoverdue =>
      rw [State.expireAll_eq] at hclosed
      exact absurd (hopen.symm.trans hclosed) Bool.noConfusion
  | stop hkeeper hmail =>
      rw [State.cancelAll_eq] at hclosed
      exact absurd (hopen.symm.trans hclosed) Bool.noConfusion
  | _ => exact absurd (hopen.symm.trans hclosed) Bool.noConfusion

/-- The session is closed, and no caller is between its look and its write. -/
structure State.Shut (s : State) : Prop where
  closed : s.closed = true
  nobody : ∀ n, ¬ s.UnderWay n

theorem State.Shut.step (h : s.Shut) (hmove : Move s a t) : t.Shut where
  closed := hmove.closed h.closed
  nobody n hway := by
    rcases hway.before hmove with hway | ⟨hopen, -⟩
    · exact h.nobody n hway
    · exact absurd (hopen.symm.trans h.closed) Bool.noConfusion

theorem shut_of_run (hrun : run? {} as = some s) (hunbroken : Unbroken as)
    (hclosed : s.closed = true) : s.Shut := by
  rw [run?_eq_follow] at hrun
  refine Run.follow_induction
    (motive := fun as s => Unbroken as → s.closed = true → s.Shut) ?_ ?_ hrun hunbroken hclosed
  · intro _ h
    cases h
  · intro as u a v hrun hstep ih hunbroken hclosed
    have hmove := move_of_step hstep
    cases hopen : u.closed with
    | true => exact (ih (hunbroken.mono (List.prefix_append _ _)) hopen).step hmove
    | false =>
        -- it is a closer that marks the session, so no caller is in the middle of its piece
        obtain ⟨n, rfl⟩ := hmove.closes hopen hclosed
        refine ⟨hclosed, fun k hway => ?_⟩
        rcases hway.before hmove with hway | ⟨-, refusal, heq⟩
        · obtain ⟨refusal, heq⟩ := hunbroken.caller _ k (Run.Moment.in_last hrun hstep) hway
          cases heq
        · cases heq

/-! ### From the mark on -/

theorem State.Shut.writes (h : s.Shut) (hmove : Move s a t) : t.writes = s.writes := by
  rw [hmove.writes]
  rcases written_cases s a with hnone | ⟨n, c, id, refusal, -, hcall, hid, -⟩
  · rw [hnone]
    exact List.append_nil _
  · exact absurd ⟨c, hcall, (isUnderWay_of_writeId? hid).1⟩ (h.nobody n)

theorem State.Shut.nextId (h : s.Shut) (hmove : Move s a t) : t.nextId = s.nextId := by
  rcases hmove.counts with ⟨-, hsame⟩ | ⟨hdrawn, -⟩
  · exact hsame
  · unfold drawnId at hdrawn
    split at hdrawn
    · rename_i n refusal
      split at hdrawn
      · rename_i hphase
        obtain ⟨c, hcall, hadmitted⟩ := Option.map_eq_some_iff.mp hphase
        exact absurd ⟨c, hcall, by rw [hadmitted]; rfl⟩ (h.nobody n)
      · cases hdrawn
    · cases hdrawn

/-- The call of that number was not begun, or its caller has not looked yet. -/
def State.Unbegun (s : State) (n : Nat) : Prop := ∀ c, s.calls[n]? = some c → c.phase = .started

/-- The caller of that number has not looked yet, or it was turned away. -/
def State.TurnsAway (s : State) (n : Nat) : Prop :=
  ∀ c, s.calls[n]? = some c → c.phase = .started ∨ c.phase = .done (.error .cancelled)

theorem State.TurnsAway.step (h : s.TurnsAway n) (hclosed : s.closed = true)
    (hmove : Move s a t) : t.TurnsAway n := by
  intro c' hcall'
  rcases progress_of_move hmove hcall' with ⟨-, hstarted, -⟩ | ⟨c, hcall, hprogress⟩
  · exact Or.inl hstarted
  · rcases h c hcall with hstarted | hdone
    · cases hprogress with
      | letIn hphase hopen => exact absurd (hopen.symm.trans hclosed) Bool.noConfusion
      | turnAway => exact Or.inr rfl
      | stay => exact Or.inl hstarted
      | answered => exact Or.inl hstarted
      | expired => exact Or.inl hstarted
      | cancelledQueued => exact Or.inl hstarted
      | cancelled => exact Or.inl hstarted
      | draw hphase => exact absurd (hstarted.symm.trans hphase) nofun
      | register hphase => exact absurd (hstarted.symm.trans hphase) nofun
      | registerLate hphase => exact absurd (hstarted.symm.trans hphase) nofun
      | notify hphase => exact absurd (hstarted.symm.trans hphase) nofun
      | write hphase => exact absurd (hstarted.symm.trans hphase) nofun
      | writeRefused hphase => exact absurd (hstarted.symm.trans hphase) nofun
      | withdraw hphase => exact absurd (hstarted.symm.trans hphase) nofun
      | learn hphase => exact absurd (hstarted.symm.trans hphase) nofun
    · exact Or.inr (hprogress.done hdone)

/-- What the state of a closed session says about every later one. -/
structure Final (s t : State) : Prop where
  closed : t.closed = true
  writes : t.writes = s.writes
  nextId : t.nextId = s.nextId
  /-- Whoever begins after the mark is cancelled. -/
  cancelled : ∀ n o, s.Unbegun n → t.outcome? n = some o → o = .error .cancelled
  settled : ∀ n < t.calls.length, s.Unbegun n → Settled t → t.outcome? n = some (.error .cancelled)

theorem State.Shut.final (h : s.Shut) (hrun : run? s bs = some t) : Final s t := by
  have hkept : t.Shut ∧ t.writes = s.writes ∧ t.nextId = s.nextId ∧
      ∀ n, s.TurnsAway n → t.TurnsAway n := by
    rw [run?_eq_follow] at hrun
    refine Run.follow_keeps (P := fun u => u.Shut ∧ u.writes = s.writes ∧ u.nextId = s.nextId ∧
      ∀ n, s.TurnsAway n → u.TurnsAway n) ?_ ⟨h, rfl, rfl, fun n hn => hn⟩ hrun
    rintro u a v hstep ⟨hu, hwrites, hnextId, hturn⟩
    have hmove := move_of_step hstep
    exact ⟨hu.step hmove, (hu.writes hmove).trans hwrites, (hu.nextId hmove).trans hnextId,
      fun n hn => (hturn n hn).step hu.closed hmove⟩
  obtain ⟨ht, hwrites, hnextId, hturn⟩ := hkept
  refine ⟨ht.closed, hwrites, hnextId, ?_, ?_⟩
  · intro n o hn ho
    obtain ⟨c, hcall, hdone⟩ := done_of_outcome? ho
    rcases hturn n (fun c hc => Or.inl (hn c hc)) c hcall with hstarted | hcancelled
    · rw [hdone] at hstarted
      cases hstarted
    · exact Phase.done.inj (hdone.symm.trans hcancelled)
  · intro n hlt hn hsettled
    have hcall := List.getElem?_eq_getElem hlt
    rcases hturn n (fun c hc => Or.inl (hn c hc)) _ hcall with hstarted | hcancelled
    · rcases hsettled.call hcall with ⟨o, hdone⟩ | ⟨id, hwaiting, -⟩
      · exact absurd (hstarted.symm.trans hdone) nofun
      · exact absurd (hstarted.symm.trans hwaiting) nofun
    · exact outcome?_of_done hcall hcancelled

theorem final_of_run (hunbroken : Unbroken (before ++ after)) (hbefore : run? {} before = some u)
    (hafter : run? u after = some s) (hclosed : u.closed = true) : Final u s :=
  (shut_of_run hbefore (hunbroken.mono (List.prefix_append _ _)) hclosed).final hafter

/-! ### What was on its way -/

theorem framesAhead_of_shutdown {ms : List Message} (h : Message.shutdown ∈ ms)
    (ms' : List Message) : framesAhead (ms ++ ms') = framesAhead ms := by
  rw [framesAhead, framesAhead, List.takeWhile_append, if_neg]
  intro hlength
  have hall := List.takeWhile_eq_self_iff.mp
    ((List.takeWhile_prefix fun m => decide (m ≠ Message.shutdown)).eq_of_length hlength)
  exact of_decide_eq_true (hall _ h) rfl

/-- The frame that arrives as that one in order arrives at some moment. -/
theorem exists_route_at (hrun : run? {} as = some s) (hk : (routed as)[k]? = some frame) :
    ∃ r, Occurs as r ∧ r.action = .route frame ∧ (routed r.before).length = k := by
  rw [run?_eq_follow] at hrun
  refine Run.follow_induction
    (motive := fun as _ => (routed as)[k]? = some frame →
      ∃ r, Occurs as r ∧ r.action = .route frame ∧ (routed r.before).length = k)
    (fun h => by simp [routed] at h) ?_ hrun hk
  intro as u a v hrun hstep ih hk
  by_cases hlt : k < (routed as).length
  · rw [routed_snoc, List.getElem?_append_left hlt] at hk
    obtain ⟨r, hr, hroute⟩ := ih hk
    exact ⟨r, hr.snoc a, hroute⟩
  · rw [routed_snoc, List.getElem?_append_right (Nat.not_lt.mp hlt)] at hk
    cases a with
    | route frame' =>
        obtain ⟨hj, heq⟩ := List.getElem?_eq_some_iff.mp hk
        have hj0 : k - (routed as).length = 0 := Nat.lt_one_iff.mp hj
        simp only [hj0] at heq
        refine ⟨_, Run.Moment.in_last hrun hstep, congrArg _ heq, ?_⟩
        exact Nat.le_antisymm (Nat.not_lt.mp hlt) (Nat.sub_eq_zero_iff_le.mp hj0)
    | _ => simp [Action.routed?] at hk

section Frames

variable (hunbroken : Unbroken as)
include hunbroken

/-- A frame that arrives at a closed session arrives behind the shutdown. -/
theorem Occurs.shutdown_queued (hr : Occurs as r) (hroute : r.action = .route frame)
    (hclosed : r.state.closed = true) : Message.shutdown ∈ queued r.before := by
  obtain ⟨done, rest, hqueued, -, -, hrest, hbehind⟩ := queued_eq hr.run
  rw [hqueued]
  apply List.mem_append_right
  by_cases hrunning : r.state.keeper = .running
  · rw [hrest hrunning]
    rcases (closing_of_run hr.run).on_its_way hclosed with hleft | hmail | hflagged
    · exact absurd hrunning hleft
    · exact hmail
    · -- between the mark and the shutdown nothing arrives
      obtain ⟨n, hn⟩ := List.mem_iff_getElem?.mp hflagged
      have hcloser := hunbroken.closer r n .flagged hr hn rfl
      rw [hroute] at hcloser
      cases hcloser
  · obtain ⟨behind, rfl⟩ := hbehind hrunning
    exact List.mem_cons_self

/-- The keeper takes no frames but those that arrived while the session was open. -/
theorem Occurs.routed_open (hrun : run? {} as = some s) (hq : Occurs as q)
    (htakes : Takes frame q.state q.action) :
    ∃ r, Occurs as r ∧ r.action = .route frame ∧
      (routed r.before).length = (taken q.before).length ∧ r.state.closed = false := by
  obtain ⟨r, hr, hroute, hplace⟩ := exists_route_at hrun (hq.routed_getElem? htakes)
  refine ⟨r, hr, hroute, hplace, ?_⟩
  by_contra hclosed
  have hshutdown := hr.shutdown_queued hunbroken hroute (eq_true_of_ne_false hclosed)
  obtain ⟨later, hlater⟩ : queued r.before <+: queued as :=
    (List.prefix_append _ _).trans (Run.Moment.In.along_snoc_prefix queuedIn hr)
  have htaken := (taken_prefix_ahead hrun).length_le
  rw [← hlater, framesAhead_of_shutdown hshutdown] at htaken
  have hle := htaken.trans (ahead_prefix_routed hr.run).length_le
  have hlt := hq.taken_lt htakes
  omega

end Frames

/-- The ways in which a request of a session that was closed can have ended. -/
inductive Ends (as : List Action) (n : Nat) : Outcome → Prop where
  | cancelled : Ends as n (.error .cancelled)
  /-- Its own write failed. -/
  | refused {id : Nat} {cause : TransportFault} (h : Happens as (Writes n id (some cause))) :
      Ends as n (.error (.transport cause))
  /-- The keeper took a frame for it that had arrived before the session was closed. -/
  | replied {r q : Moment} {p : Pending} {frame : Value} (hr : Occurs as r)
      (hroute : r.action = .route frame) (hopen : r.state.closed = false) (hq : Occurs as q)
      (hanswers : Answers p frame q.state q.action)
      (hplace : (routed r.before).length = (taken q.before).length) (hn : p.call = n) :
      Ends as n (Outcome.ofReply frame)
  /-- The keeper gave up on it before it took the shutdown. -/
  | expired {q : Moment} {p : Pending} (hq : Occurs as q) (hexpires : Expires p q.state q.action)
      (hbefore : ∀ q', Occurs as q' → Handles .shutdown q'.state q'.action → q.Earlier q')
      (hn : p.call = n) : Ends as n (.error (timeoutFault p.method))

theorem Occurs.left_of_shutdown (hm : Occurs as m)
    (hshutdown : Handles .shutdown m.state m.action) : m.next.keeper ≠ .running := by
  obtain ⟨haction, hrunning, rest, hmail⟩ := hshutdown
  have hstep := hm.2.2
  simp only [haction, step?, hrunning, hmail, Option.some.injEq] at hstep
  rw [← hstep]
  intro hleft
  cases hleft

/-- Nothing expires once the keeper has taken the shutdown. -/
theorem Expires.before_shutdown {p : Pending} (hq : Occurs as q)
    (hexpires : Expires p q.state q.action) (hm : Occurs as m)
    (hshutdown : Handles .shutdown m.state m.action) : q.Earlier m := by
  have hrunning : q.state.keeper = .running := by
    have hmove := hq.move
    rw [hexpires.1] at hmove
    generalize q.next = v at hmove
    cases hmove with
    | expire hkeeper hoverdue => exact hkeeper
  rcases Nat.lt_trichotomy q.before.length m.before.length with hlt | heq | hgt
  · exact hlt
  · obtain rfl := Run.Moment.In.eq_of_length hq hm heq
    rw [hexpires.1] at hshutdown
    cases hshutdown.1
  · have hleft : q.state.keeper ≠ .running := Run.Moment.In.lasts
      (P := fun u => u.keeper ≠ .running)
      (fun _ _ _ hstep h hv => h ((move_of_step hstep).running hv)) hm hq hgt
      (hm.left_of_shutdown hshutdown)
    exact absurd hrunning hleft

theorem ends_of_outcome (hunbroken : Unbroken as) {limit : Nat} (hrun : run? {} as = some s)
    (hcall : s.calls[n]? = some c) (hlimit : c.limit = some limit) (hdone : c.phase = .done o) :
    Ends as n o := by
  obtain ⟨m, d, d', hm, hd, -, hprogress, hnew, hdone'⟩ :=
    exists_progress (P := fun c => c.phase = .done o) hrun hcall hdone
      (fun c hphase _ => by simp [hphase])
  have hdlimit : d.limit = some limit := (hm.call_kept hrun hd hcall).1.symm.trans hlimit
  rcases hprogress.ends hdlimit hnew hdone' with ⟨-, rfl⟩ | ⟨id, cause, hphase, rfl⟩ | ⟨id, -, hword⟩
  · exact .cancelled
  · exact .refused (hm.happens (refused_of_phase hm.run hd hphase))
  · obtain ⟨q, p, hq, hn, hdecides⟩ := decided_of_word hm.run hd hword
    obtain ⟨hqas, -⟩ := hm.earlier hq
    cases hdecides with
    | reply hanswers =>
        obtain ⟨r, hr, hroute, hplace, hopen⟩ := hqas.routed_open hunbroken hrun hanswers.1
        exact .replied hr hroute hopen hqas hanswers hplace hn
    | expiry hexpires =>
        exact .expired hqas hexpires (fun q' hq' h => hexpires.before_shutdown hqas hq' h) hn
    | cancellation hcancels => exact .cancelled

/-- A closed session stays closed, and nothing happens in it but what was on its way. -/
structure Finality (as : List Action) (s : State) : Prop where
  final : ∀ before after u, as = before ++ after → run? {} before = some u → u.closed = true →
    Final u s
  ends : ∀ n c limit o, s.calls[n]? = some c → c.limit = some limit → c.phase = .done o →
    Ends as n o

theorem finality_of_run (hrun : run? {} as = some s) (hunbroken : Unbroken as) :
    Finality as s where
  final before after u has hbefore hclosed := by
    subst has
    rw [run?_append, hbefore, Option.bind_some] at hrun
    exact final_of_run hunbroken hbefore hrun hclosed
  ends n c limit o hcall hlimit hdone := ends_of_outcome hunbroken hrun hcall hlimit hdone

end ConsoleTap.Exchange
