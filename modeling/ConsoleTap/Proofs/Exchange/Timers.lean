import ConsoleTap.Proofs.Exchange.Overtaking
import ConsoleTap.Proofs.Exchange.Deadlines
import ConsoleTap.Proofs.Exchange.TableOrder

/-!
# Timers

The keeper wakes up when the least of the deadlines in its table has come, and then gives
up on all requests whose deadline has come, and on no other.  If the clock moves only when
nobody can act, no deadline is ever behind the clock at such a moment: each request that
runs out of time does so at the first reading of the clock that is not before its deadline,
whatever else is pending.
-/

namespace ConsoleTap.Exchange

open ConsoleTap.Json

variable {s t u : State} {a : Action} {as : List Action} {n : Nat} {p : Pending} {m m' b : Moment}

/-! ### One expiry -/

/-- Something is overdue if the least of the deadlines has come. -/
theorem hasOverdue_iff :
    s.hasOverdue = true ↔
      ∃ d, (s.pending.map Pending.deadline).min? = some d ∧ d ≤ s.now := by
  simp only [State.hasOverdue, List.any_eq_true, decide_eq_true_eq]
  constructor
  · rintro ⟨p, hp, hdue⟩
    have hmem : p.deadline ∈ s.pending.map Pending.deadline := List.mem_map_of_mem hp
    cases hmin : (s.pending.map Pending.deadline).min? with
    | none => simp [List.min?_eq_none_iff.mp hmin] at hmem
    | some d => exact ⟨d, rfl, ((List.min?_eq_some_iff.mp hmin).2 _ hmem).trans hdue⟩
  · rintro ⟨d, hmin, hdue⟩
    obtain ⟨p, hp, rfl⟩ := List.mem_map.mp (List.min?_eq_some_iff.mp hmin).1
    exact ⟨p, hp, hdue⟩

/-- The keeper wakes up when the least of the deadlines has come. -/
theorem expire_iff :
    (∃ t, step? s .expire = some t) ↔
      s.keeper = .running ∧ ∃ d, (s.pending.map Pending.deadline).min? = some d ∧ d ≤ s.now := by
  rw [← hasOverdue_iff]
  by_cases h : s.keeper = .running ∧ s.hasOverdue <;> simp [step?, h]

theorem withoutAll_overdue (h : s.Distinct) :
    State.withoutAll s.pending s.overdue = s.pending.filter fun p => s.now < p.deadline := by
  rw [withoutAll_eq_filter]
  refine List.filter_congr fun q hq => ?_
  refine decide_eq_decide.mpr ⟨fun hothers => ?_, fun hlater p hp hid => ?_⟩
  · by_contra hdue
    exact hothers q (List.mem_filter.mpr ⟨hq, decide_eq_true (Nat.not_lt.mp hdue)⟩) rfl
  · obtain ⟨hp, hdue⟩ := List.mem_filter.mp hp
    obtain rfl := List.inj_on_of_nodup_map h.ids hq hp hid
    exact absurd (of_decide_eq_true hdue) (Nat.not_le.mpr hlater)

/-- What an expiry does: the requests whose deadline has come leave the table, their callers get
    word of it, and every other request stays and every other caller hears nothing. -/
structure Expiry (s t : State) : Prop where
  pending : t.pending = s.pending.filter fun p => s.now < p.deadline
  answered : t.answered =
    s.answered ++ (s.pending.filter fun p => p.deadline ≤ s.now).map Pending.call
  told : ∀ p ∈ s.pending, p.deadline ≤ s.now → t.calls[p.call]? =
    s.calls[p.call]?.map fun c => { c with word := some (.error (timeoutFault p.method)) }
  untold : ∀ n, (∀ p ∈ s.pending, p.call = n → s.now < p.deadline) → t.calls[n]? = s.calls[n]?

theorem Move.expiry (hmove : Move s .expire t) (hdistinct : s.Distinct) : Expiry s t := by
  have hcalls : ((State.timeouts s.overdue).map Prod.fst).Nodup := by
    rw [State.map_fst_timeouts]
    exact hdistinct.overdue_calls
  cases hmove with
  | expire hkeeper hoverdue =>
      rw [State.expireAll_eq]
      refine ⟨withoutAll_overdue hdistinct, rfl, fun p hp hdue => ?_, fun n hlater => ?_⟩
      · have hmem : p ∈ s.overdue := List.mem_filter.mpr ⟨hp, decide_eq_true hdue⟩
        exact getElem?_tell_of_mem hcalls (List.mem_map_of_mem hmem)
      · refine getElem?_tell_of_not_mem ?_
        rw [State.map_fst_timeouts]
        intro hn
        obtain ⟨p, hp, hcall⟩ := List.mem_map.mp hn
        obtain ⟨hp, hdue⟩ := List.mem_filter.mp hp
        exact absurd (of_decide_eq_true hdue) (Nat.not_le.mpr (hlater p hp hcall))

/-! ### Who runs out of time -/

/-- Nobody runs out of time twice: after the first time the caller has got its word. -/
theorem Expires.unique (hm : Occurs as m) (hexpires : Expires p m.state m.action)
    (hm' : Occurs as m') (hexpires' : Expires p m'.state m'.action) : m = m' :=
  hm.eq_of_told hm' (mem_tracked_of_mem_pending hexpires.2.1)
    (mem_tracked_of_mem_pending hexpires'.2.1) (hm.told_of_expires hexpires)
    (hm'.told_of_expires hexpires')

theorem Occurs.registered (hm : Occurs as m) (hp : p ∈ m.state.pending) :
    Happens as (Registers p) := by
  obtain ⟨r, hr, -, hregisters⟩ := hm.registered_before hp
  exact ⟨r, hr, hregisters⟩

/-- A request that ends with a timeout has run out of time. -/
theorem expires_of_timeout {c : Call} {limit : Nat} {text : String} (hrun : run? {} as = some s)
    (hcall : s.calls[n]? = some c) (hlimit : c.limit = some limit)
    (hdone : c.phase = .done (.error (.timeout text))) :
    ∃ m p, Occurs as m ∧ Expires p m.state m.action ∧ p.call = n ∧
      timeoutFault p.method = .timeout text := by
  obtain ⟨m, d, d', hm, hd, -, hprogress, hnew, hdone'⟩ :=
    exists_progress (P := fun c => c.phase = .done (.error (.timeout text))) hrun hcall hdone
      (fun c hphase _ => by simp [hphase])
  have hdlimit : d.limit = some limit := (hm.call_kept hrun hd hcall).1.symm.trans hlimit
  rcases hprogress.ends hdlimit hnew hdone' with ⟨-, ho⟩ | ⟨id, cause, -, ho⟩ | ⟨id, -, hword⟩
  · cases ho
  · cases ho
  · obtain ⟨m', p, hm', hn, hdecides⟩ := decided_of_word hm.run hd hword
    have hm'as : Occurs as m' := (hm.earlier hm').1
    generalize ho : (Except.error (.timeout text) : Outcome) = o at hdecides
    cases hdecides with
    | @reply frame hanswers =>
        rcases ofReply_cases frame with ⟨v, hv⟩ | ⟨code, message, hv⟩
        · rw [hv] at ho
          cases ho
        · rw [hv] at ho
          cases ho
    | expiry hexpires => exact ⟨m', p, hm'as, hexpires, hn, (Except.error.inj ho).symm⟩
    | cancellation hcancels => cases ho

/-- A request that was written and ran out of time ends with the timeout. -/
theorem Occurs.timed_out (hm : Occurs as m) (hexpires : Expires p m.state m.action)
    (hrun : run? {} as = some s) (hwritten : Happens as (Writes p.call p.id none))
    (hsettled : Settled s) : s.outcome? p.call = some (.error (timeoutFault p.method)) :=
  hsettled.outcome_of_told (hwritten.heeds hrun) (hm.told_at_end hrun (hm.told_of_expires hexpires))

/-! ### When the clock moves -/

theorem Move.now_le (hmove : Move s a t) : s.now ≤ t.now := by
  by_cases htick : ∃ ms, a = .tick ms
  · obtain ⟨ms, rfl⟩ := htick
    cases hmove with
    | tick ms => exact Nat.le_add_right _ _
  · exact (hmove.now fun ms heq => htick ⟨ms, heq⟩).ge

theorem now_le_of_run (hrun : run? s as = some t) : s.now ≤ t.now := by
  rw [run?_eq_follow] at hrun
  exact Run.follow_keeps (P := fun u => s.now ≤ u.now)
    (fun _ _ _ hstep h => h.trans (move_of_step hstep).now_le) (Nat.le_refl _) hrun

/-- The clock moves only when nobody can act. -/
def Paced (as : List Action) : Prop :=
  ∀ m ms, Occurs as m → m.action = .tick ms → Settled m.state

/-- Whether the clock moves in a step only if nobody can act. -/
def clockKept (s : State) : Action → List Bool
  | .tick _ => [decide (Settled s)]
  | _ => []

theorem paced_of_clockKept (h : ∀ kept ∈ Run.along step? clockKept {} as, kept = true) :
    Paced as := by
  intro m ms hm haction
  have hkept : decide (Settled m.state) ∈ clockKept m.state m.action := by
    rw [haction]
    exact List.mem_singleton_self _
  exact of_decide_eq_true (h _ ((Run.Moment.In.along_snoc_prefix clockKept hm).subset
    (List.mem_append_right _ hkept)))

/-- The run passes through the state. -/
def Passes (as : List Action) (u : State) : Prop := ∃ bs, bs <+: as ∧ run? {} bs = some u

theorem Occurs.passes (hm : Occurs as m) : Passes as m.state :=
  ⟨m.before, (List.prefix_append _ _).trans hm.1, hm.run⟩

/-- A state that the run passes through comes no later than the beginning of a step, or no earlier
    than its end. -/
theorem Occurs.passes_cases (hm : Occurs as m) (hu : Passes as u) :
    u.now ≤ m.state.now ∨ m.next.now ≤ u.now := by
  obtain ⟨bs, hbs, hrun⟩ := hu
  rcases Nat.lt_or_ge m.before.length bs.length with hlt | hle
  · have hafter : (m.before ++ [m.action]).length ≤ bs.length := by
      rw [List.length_append]
      exact hlt
    obtain ⟨rest, rfl⟩ := List.prefix_of_prefix_length_le hm.1 hbs hafter
    rw [run?_append, hm.run_next, Option.bind_some] at hrun
    exact Or.inr (now_le_of_run hrun)
  · have hbefore : m.before <+: as := (List.prefix_append _ _).trans hm.1
    obtain ⟨rest, hrest⟩ := List.prefix_of_prefix_length_le hbs hbefore hle
    have hstate := hm.run
    rw [← hrest, run?_append, hrun, Option.bind_some] at hstate
    exact Or.inl (now_le_of_run hstate)

/-- Of what the keeper tracks, no deadline had come at an earlier reading of the clock. -/
theorem Paced.first_reading (hpaced : Paced as) (ht : Passes as t) (hp : p ∈ t.tracked)
    (hu : Passes as u) (hdue : p.deadline ≤ u.now) : t.now ≤ u.now := by
  obtain ⟨bs, hbs, hrun⟩ := ht
  rw [run?_eq_follow] at hrun
  refine Run.moments_induction
    (motive := fun _ t => ∀ p ∈ t.tracked, p.deadline ≤ u.now → t.now ≤ u.now) ?_ ?_ hbs hrun p hp
    hdue
  · intro p hp
    cases hp
  · intro m hm ih p hp hdue
    by_cases htick : ∃ ms, m.action = .tick ms
    · -- nothing that is tracked is overdue when the clock moves, so the reading is a later one
      obtain ⟨ms, htick⟩ := htick
      have hsettled := hpaced m ms hm htick
      have hclosing := closing_of_run (Occurs.run hm)
      have hnext : m.next.tracked = m.state.tracked := by
        have hstep := hm.2.2
        rw [htick] at hstep
        rw [← Option.some.inj hstep]
        rfl
      rw [hnext, hsettled.tracked hclosing] at hp
      have hlater := hsettled.lt_deadline hclosing hp
      exact (Occurs.passes_cases hm hu).resolve_left (by omega)
    · have hmove := Occurs.move hm
      rw [hmove.now fun ms heq => htick ⟨ms, heq⟩]
      by_cases hold : p ∈ m.state.tracked
      · exact ih p hold hdue
      · exact (hmove.registers hold hp).le_deadline.trans hdue

/-! ### When a request is sent -/

/-- A request with that time limit is begun as the call of that number. -/
def Begins (n limit : Nat) (s : State) (a : Action) : Prop :=
  s.calls.length = n ∧ ∃ method params, a = .begin method params (some limit)

theorem Move.begins {c : Call} {limit : Nat} (hmove : Move s a t) (hs : s.calls[n]? = none)
    (ht : t.calls[n]? = some c) (hlimit : c.limit = some limit) : Begins n limit s a := by
  have hle : s.calls.length ≤ n := List.getElem?_eq_none_iff.mp hs
  have hlt : n < t.calls.length := (List.getElem?_eq_some_iff.mp ht).1
  rcases hmove.length_calls with heq | ⟨heq, method, params, limit', rfl⟩
  · omega
  · obtain rfl : n = s.calls.length := by omega
    cases hmove
    rw [List.getElem?_concat_length] at ht
    obtain rfl := Option.some.inj ht
    exact ⟨rfl, method, params, by rw [← hlimit]⟩

/-- Every request was begun. -/
theorem exists_begins {c : Call} {limit : Nat} (hrun : run? {} as = some s)
    (hcall : s.calls[n]? = some c) (hlimit : c.limit = some limit) :
    Happens as (Begins n limit) := by
  obtain ⟨m, hm, hnot, d, hd, hdlimit⟩ :=
    exists_moment (P := fun u => ∃ c, u.calls[n]? = some c ∧ c.limit = some limit) hrun
      ⟨c, hcall, hlimit⟩ (by simp)
  rcases progress_of_move hm.move hd with ⟨hnone, -⟩ | ⟨d', hd', hprogress⟩
  · exact ⟨m, hm, hm.move.begins hnone hd hdlimit⟩
  · exact absurd ⟨d', hd', hprogress.limit_eq.symm.trans hdlimit⟩ hnot

theorem Begins.next {limit : Nat} (hm : Occurs as m) (hbegins : Begins n limit m.state m.action) :
    ∃ c, m.next.calls[n]? = some c ∧ c.limit = some limit ∧ m.next.now = m.state.now := by
  obtain ⟨rfl, method, params, haction⟩ := hbegins
  have hstep := hm.2.2
  rw [haction] at hstep
  rw [← Option.some.inj hstep]
  exact ⟨_, List.getElem?_concat_length, rfl, rfl⟩

/-- A call is begun at one moment only. -/
theorem Occurs.eq_of_new {c c' : Call} (hm : Occurs as m) (hnone : m.state.calls[n]? = none)
    (hc : m.next.calls[n]? = some c) (hm' : Occurs as m') (hnone' : m'.state.calls[n]? = none)
    (hc' : m'.next.calls[n]? = some c') : m = m' := by
  refine Run.Moment.In.eq_of_lasts (P := fun u => n < u.calls.length) ?_ hm hm'
    (List.getElem?_eq_some_iff.mp hc).1 (List.getElem?_eq_some_iff.mp hc').1
    (Nat.not_lt.mpr (List.getElem?_eq_none_iff.mp hnone))
    (Nat.not_lt.mpr (List.getElem?_eq_none_iff.mp hnone'))
  exact fun _ _ _ hstep h => h.trans_le (length_calls_of_move (move_of_step hstep))

/-- A request keeps its time limit, and as long as it is not registered the clock stands. -/
theorem Paced.since_begun {c : Call} {limit : Nat} (hpaced : Paced as) (hb : Occurs as b)
    (hbegins : Begins n limit b.state b.action) (hu : Passes as u) (hcall : u.calls[n]? = some c) :
    c.limit = some limit ∧ (c.phase.isEarly = true → u.now = b.state.now) := by
  obtain ⟨bs, hbs, hrun⟩ := hu
  rw [run?_eq_follow] at hrun
  refine Run.moments_induction
    (motive := fun _ u => ∀ c, u.calls[n]? = some c →
      c.limit = some limit ∧ (c.phase.isEarly = true → u.now = b.state.now)) ?_ ?_ hbs hrun c hcall
  · intro c hc
    cases hc
  · intro m hm ih c hc
    rcases progress_of_move (Occurs.move hm) hc with ⟨hnone, -⟩ | ⟨d, hd, hprogress⟩
    · obtain ⟨d, hd, hlimit, hnow⟩ := hbegins.next hb
      have hnew : b.state.calls[n]? = none := List.getElem?_eq_none hbegins.1.le
      obtain rfl := Occurs.eq_of_new hm hnone hc hb hnew hd
      obtain rfl := Option.some.inj (hc.symm.trans hd)
      exact ⟨hlimit, fun _ => hnow⟩
    · obtain ⟨hlimit, hearly⟩ := ih d hd
      refine ⟨hprogress.limit_eq.trans hlimit, fun hstill => ?_⟩
      have hdearly := hprogress.early hstill
      by_cases htick : ∃ ms, m.action = .tick ms
      · obtain ⟨ms, htick⟩ := htick
        rcases (hpaced m ms hm htick).call hd with ⟨o, hdone⟩ | ⟨id, hphase, -⟩
        · simp [hdone, Phase.isEarly] at hdearly
        · simp [hphase, Phase.isEarly] at hdearly
      · rw [(Occurs.move hm).now fun ms heq => htick ⟨ms, heq⟩]
        exact hearly hdearly

/-- The deadline of a request is its time limit after it was begun. -/
theorem Paced.deadline_eq {limit : Nat} (hpaced : Paced as) (hb : Occurs as b)
    (hbegins : Begins p.call limit b.state b.action) (hr : Happens as (Registers p)) :
    p.deadline = b.state.now + limit := by
  obtain ⟨r, hr, c, _, limit', -, hcall, hphase, hlimit', -, hp⟩ := hr
  obtain ⟨hlimit, hnow⟩ := hpaced.since_begun hb hbegins hr.passes hcall
  obtain rfl := Option.some.inj (hlimit'.symm.trans hlimit)
  rw [hp, ← hnow (by rw [hphase]; rfl)]

/-! ### Timers -/

/-- What becomes of a request whose deadline has come: it ran out of time, was answered, or was
    cancelled because somebody closed the session. -/
theorem Settled.fate_of_overdue (hsettled : Settled s) (hrun : run? {} as = some s)
    (hregistered : Happens as (Registers p)) (hwritten : Happens as (Writes p.call p.id none))
    (hdue : p.deadline ≤ s.now) :
    (Happens as (Expires p) ∧ s.outcome? p.call = some (.error (timeoutFault p.method))) ∨
      (∃ frame, Happens as (Answers p frame) ∧
        s.outcome? p.call = some (Outcome.ofReply frame)) ∨
      (s.closed = true ∧ s.outcome? p.call = some (.error .cancelled)) := by
  have hpending : p ∉ s.pending := fun hp =>
    absurd hdue (Nat.not_le.mpr (hsettled.lt_deadline (closing_of_run hrun) hp))
  obtain ⟨c, hcall, -⟩ := hregistered.reaches_of_registration hrun
  rcases hsettled.call hcall with ⟨o, hdone⟩ | ⟨id, hphase, -⟩
  · have hsame : ∀ q : Pending, Happens as (Registers q) → q.call = p.call → q = p :=
      fun q hq hcall => hq.registration_unique hregistered hcall
    obtain ⟨r, hr, d, _, limit, -, hd, -, hlimit, -⟩ := hregistered
    have hclimit := (hr.call_kept hrun hd hcall).1.trans hlimit
    have ho := outcome?_of_done hcall hdone
    cases cause_of_outcome hrun hcall hclimit hwritten.drawn_of_write hdone with
    | @reply m q frame hm hanswers hn hid =>
        obtain rfl := hsame q (hm.registered (State.awaited?_eq_some hanswers.2).1) hn
        exact Or.inr (Or.inl ⟨frame, ⟨m, hm, hanswers⟩, ho⟩)
    | @expiry m q hm hexpires hn hid =>
        obtain rfl := hsame q (hm.registered hexpires.2.1) hn
        exact Or.inl ⟨⟨m, hm, hexpires⟩, ho⟩
    | shutdown hm hclosed => exact Or.inr (Or.inr ⟨hm.closed hrun hclosed, ho⟩)
    | refusal hrefused => cases hrefused.verdict_unique hwritten
  · obtain ⟨q, hq, hqn, -⟩ := hsettled.pending_of_waiting hrun hcall hphase
    have hqregistered := registered_of_tracked hrun (mem_tracked_of_mem_pending hq)
    rw [hqregistered.registration_unique hregistered hqn] at hq
    exact absurd hq hpending

/-- The timers are exact, if the clock moves only when nobody can act.  When nobody can act, every
    pending request has its deadline ahead.  The keeper wakes up when the least deadline has come;
    then those whose deadline has come get word of it, each once, and all others stay pending and
    hear nothing.  A request runs out of time at one moment at most, not before its time limit
    after it was begun is over, and at the first reading of the clock that is not before its
    deadline, whatever else is pending; a timeout has no other cause.  When nobody can act, a
    request whose deadline has come has run out of time unless it was answered or the session was
    closed.  The order of the table makes no difference to any request. -/
theorem timers_exact (hrun : run? {} as = some s) (hpaced : Paced as) :
    (∀ u, Passes as u → Settled u → ∀ p ∈ u.pending, u.now < p.deadline) ∧
    (∀ u, (∃ t, step? u .expire = some t) ↔ u.keeper = .running ∧
      ∃ d, (u.pending.map Pending.deadline).min? = some d ∧ d ≤ u.now) ∧
    (∀ m, Occurs as m → m.action = .expire →
      Expiry m.state m.next ∧ m.next.answered.Nodup) ∧
    (∀ m p, Occurs as m → Expires p m.state m.action →
      (∀ m', Occurs as m' → Expires p m'.state m'.action → m' = m) ∧
      (∃ b limit, Occurs as b ∧ Begins p.call limit b.state b.action ∧
        p.deadline = b.state.now + limit ∧ b.state.now + limit ≤ m.state.now) ∧
      ∀ u, Passes as u → p.deadline ≤ u.now → m.state.now ≤ u.now) ∧
    (∀ n c limit text, s.calls[n]? = some c → c.limit = some limit →
      c.phase = .done (.error (.timeout text)) →
      ∃ p, Happens as (Expires p) ∧ p.call = n ∧ timeoutFault p.method = .timeout text) ∧
    (Settled s → ∀ p, Happens as (Registers p) → Happens as (Writes p.call p.id none) →
      (Happens as (Expires p) → s.outcome? p.call = some (.error (timeoutFault p.method))) ∧
      (p.deadline ≤ s.now →
        (Happens as (Expires p) ∧ s.outcome? p.call = some (.error (timeoutFault p.method))) ∨
        (∃ frame, Happens as (Answers p frame) ∧
          s.outcome? p.call = some (Outcome.ofReply frame)) ∨
        (s.closed = true ∧ s.outcome? p.call = some (.error .cancelled)))) ∧
    (∀ bs t, Shuffled {} bs t → ∃ u, run? {} bs = some u ∧ t.calls = u.calls ∧
      t.pending.Perm u.pending ∧ t.answered.Perm u.answered) := by
  refine ⟨?_, fun u => expire_iff, ?_, ?_, ?_, ?_, fun bs t h => run_of_shuffled h⟩
  · rintro u ⟨bs, -, hu⟩ hsettled p hp
    exact hsettled.lt_deadline (closing_of_run hu) hp
  · intro m hm haction
    have hmove := hm.move
    rw [haction] at hmove
    exact ⟨hmove.expiry hm.coherent.distinct, (hm.coherent.step hm.2.2).answered_nodup⟩
  · intro m p hm hexpires
    refine ⟨fun m' hm' hexpires' => hexpires'.unique hm' hm hexpires, ?_, ?_⟩
    · obtain ⟨r, hr, -, hregisters⟩ := hm.registered_before hexpires.2.1
      have hregistered : Happens as (Registers p) := ⟨r, hr, hregisters⟩
      obtain ⟨c, _, limit, -, hcall, -, hlimit, -⟩ := hregisters
      obtain ⟨b, hb, hbegins⟩ := hr.happens (exists_begins hr.run hcall hlimit)
      have hdeadline := hpaced.deadline_eq hb hbegins hregistered
      exact ⟨b, limit, hb, hbegins, hdeadline, hdeadline ▸ hexpires.2.2⟩
    · intro u hu hdue
      exact hpaced.first_reading hm.passes (mem_tracked_of_mem_pending hexpires.2.1) hu hdue
  · intro n c limit text hcall hlimit hdone
    obtain ⟨m, p, hm, hexpires, hn, htext⟩ := expires_of_timeout hrun hcall hlimit hdone
    exact ⟨p, ⟨m, hm, hexpires⟩, hn, htext⟩
  · intro hsettled p hregistered hwritten
    refine ⟨?_, hsettled.fate_of_overdue hrun hregistered hwritten⟩
    rintro ⟨m, hm, hexpires⟩
    exact hm.timed_out hexpires hrun hwritten hsettled

/-- A request with a long time limit, and behind it one with a short one. -/
def staggeredRun : List Action :=
  [.begin "long" none (some 9), .begin "short" none (some 4), .caller 0 none, .caller 0 none,
    .caller 0 none, .caller 0 none, .caller 1 none, .caller 1 none, .caller 1 none, .caller 1 none,
    .handle, .handle, .tick 3, .tick 1, .expire, .caller 1 none, .tick 8, .expire, .caller 0 none]

/-- Whether the clock moves at the right moments, where the run leads, and what happens at its
    first expiry. -/
theorem staggeredRun_eval :
    (Run.along step? clockKept {} staggeredRun,
      (run? {} staggeredRun).map fun s => (decide (Settled s), s.now, s.outcome? 0, s.outcome? 1),
      (run? {} (staggeredRun.take 14)).bind fun u =>
        (step? u .expire).map fun v => (u.now, u.pending, v.pending)) =
      (List.replicate 3 true,
        some (true, 12, some (.error (timeoutFault "long")), some (.error (timeoutFault "short"))),
        some (4, [⟨1, 0, "long", 0, 9⟩, ⟨2, 1, "short", 0, 4⟩], [⟨1, 0, "long", 0, 9⟩])) := by
  rfl

theorem timers_exact_staggered :
    Paced staggeredRun ∧ ∃ s m, run? {} staggeredRun = some s ∧ Settled s ∧
      s.outcome? 0 = some (.error (timeoutFault "long")) ∧
      s.outcome? 1 = some (.error (timeoutFault "short")) ∧
      Occurs staggeredRun m ∧ m.state.now = 4 ∧
      Expires ⟨2, 1, "short", 0, 4⟩ m.state m.action ∧
      m.next.pending = [⟨1, 0, "long", 0, 9⟩] ∧ Expiry m.state m.next ∧
      ∀ u, Passes staggeredRun u → 4 ≤ u.now → m.state.now ≤ u.now := by
  have heval := staggeredRun_eval
  simp only [Prod.mk.injEq] at heval
  obtain ⟨hkept, hend, hexpiry⟩ := heval
  have hpaced : Paced staggeredRun := paced_of_clockKept fun kept h =>
    List.eq_of_mem_replicate (hkept ▸ h)
  obtain ⟨s, hrun, hs⟩ := Option.map_eq_some_iff.mp hend
  simp only [Prod.mk.injEq, decide_eq_true_eq] at hs
  obtain ⟨hsettled, -, hlong, hshort⟩ := hs
  obtain ⟨u, hu, hstep⟩ := Option.bind_eq_some_iff.mp hexpiry
  obtain ⟨v, hv, hpending⟩ := Option.map_eq_some_iff.mp hstep
  simp only [Prod.mk.injEq] at hpending
  obtain ⟨hnow, hbefore, hafter⟩ := hpending
  have hm : Occurs staggeredRun ⟨staggeredRun.take 14, u, .expire, v⟩ :=
    ⟨⟨staggeredRun.drop 15, rfl⟩, (run?_eq_follow _ _).symm.trans hu, hv⟩
  have hexpires : Expires ⟨2, 1, "short", 0, 4⟩ u .expire :=
    ⟨rfl, by simp [hbefore], by simp [hnow]⟩
  obtain ⟨-, -, hall, hone, -⟩ := timers_exact hrun hpaced
  exact ⟨hpaced, s, _, hrun, hsettled, hlong, hshort, hm, hnow, hexpires, hafter,
    (hall _ hm rfl).1, (hone _ _ hm hexpires).2.2⟩

end ConsoleTap.Exchange
