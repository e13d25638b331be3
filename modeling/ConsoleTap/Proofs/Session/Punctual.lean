import ConsoleTap.Proofs.Session.Arrivals
import ConsoleTap.Proofs.Session.Pace
import ConsoleTap.Proofs.Session.Places
import Mathlib

/-!
# Output in time

The fetches of one level of a tree are under way together, and those of the next level
are begun when a reply came in time.  So what a frame waits for is over one time limit
after another, as many as there are levels, and the frames before it wait no longer: in a
paced session every frame has its lines handed over within `maxDepth * fetchTimeout`.
-/

namespace ConsoleTap.Session

open ConsoleTap.Json

variable {options : Options} {s t : State} {a : Action} {as : List Action} {i j n : Nat}
  {groups : List (List String)} {job : Job} {fetch : Fetch}

/-! ### Places in time -/

/-- What the job of that number fetches by the call is over within a time limit, and what is
    fetched below it within one more for each hop. -/
def State.InTime (s : State) (times : List Nat) (j n : Nat) (fetch : Fetch) : Prop :=
  ∃ i x y, i + s.jobs.length = s.taken + j ∧ times[i]? = some x ∧
    s.core.Due s.options.fetchTimeout n y ∧
    y + fetch.hops * s.options.fetchTimeout ≤ x + s.options.maxDepth * s.options.fetchTimeout

/-- Everything that a job waits for is in time. -/
def State.Prompt (s : State) (times : List Nat) : Prop :=
  ∀ ⦃j n : Nat⦄ ⦃job : Job⦄ ⦃fetch : Fetch⦄, s.jobs[j]? = some job → job.fetch? n = some fetch →
    s.InTime times j n fetch

/-- A call stays in time as long as the clock stands, if no frame in flight comes too late. -/
theorem Move.due {x limit : Nat} (hmove : Move s a t) (htick : ∀ ms, a ≠ .tick ms)
    (htimely : s.InFlight → s.core.Timely) (h : s.core.Due limit n x) :
    t.core.Due limit n x := by
  by_cases hcore : ∃ b, a = .core b
  · obtain ⟨b, rfl⟩ := hcore
    cases hmove with
    | core hinner hstep =>
        refine h.step (Exchange.move_of_step hstep) ?_ ?_
        · rintro ms rfl
          cases hinner
        · rintro p frame ⟨⟨-, hrunning, rest, hmail⟩, hreply⟩
          have hp := (Exchange.State.awaited?_eq_some hreply).1
          exact htimely (Or.inl ⟨hrunning, by simp [hmail]⟩) p
            (Exchange.mem_tracked_of_mem_pending hp)
  · refine hmove.core_keeps (P := fun u => u.Due limit n x) ?_
      (fun _ _ hu => ⟨hu.call, hu.deadline⟩) h
    intro b hb u v hstep hu
    refine hu.step hstep ?_ ?_
    · rintro ms rfl
      exact htick ms (hmove.tick_of_mem hb)
    · rintro p frame ⟨⟨rfl, -⟩, -⟩
      exact absurd ⟨_, eq_core_of_mem hb rfl⟩ hcore

section Prompt

variable {times more : List Nat}

theorem State.InTime.append (h : s.InTime times j n fetch) (more : List Nat) :
    s.InTime (times ++ more) j n fetch := by
  obtain ⟨i, x, y, hi, hx, hdue, hy⟩ := h
  have hlt := (List.getElem?_eq_some_iff.mp hx).1
  exact ⟨i, x, y, hi, by rw [List.getElem?_append_left hlt, hx], hdue, hy⟩

/-- What is in time stays so in a step that leaves the jobs behind it. -/
theorem State.InTime.step {k : Nat} (h : s.InTime times j n fetch) (hmove : Move s a t)
    (htick : ∀ ms, a ≠ .tick ms) (htimely : s.InFlight → s.core.Timely)
    (hoptions : t.options = s.options)
    (hindex : s.taken + j + t.jobs.length = t.taken + k + s.jobs.length) :
    t.InTime times k n fetch := by
  obtain ⟨i, x, y, hi, hx, hdue, hy⟩ := h
  refine ⟨i, x, y, by omega, hx, ?_, ?_⟩
  · rw [hoptions]
    exact hmove.due htick htimely hdue
  · rw [hoptions]
    exact hy

/-- A call that the dispatcher begins has its time limit. -/
theorem due_of_begun {core : Exchange.State} {notices : List Notice} {handles : List String}
    {timeout : Nat} (htracked : ∀ p ∈ core.tracked, p.call < core.calls.length)
    (hlow : core.calls.length ≤ n) (hhigh : n < core.calls.length + handles.length) :
    (extended core notices (handles.map (fetchCall timeout))).Due timeout n
      (core.now + timeout) := by
  have hcall : (extended core notices (handles.map (fetchCall timeout))).calls[n]? =
      some (fetchCall timeout handles[n - core.calls.length]) := by
    simp only [extended]
    rw [List.getElem?_append_right hlow, List.getElem?_map, List.getElem?_eq_getElem (by omega),
      Option.map_some]
  refine Exchange.State.due_of_started hcall rfl rfl rfl ?_
  rintro p hp rfl
  exact absurd (htracked p hp) (Nat.not_lt.mpr hlow)

theorem State.Prompt.take {frame : Value} {rest : List Value} {job : Job} {handles : List String}
    (h : s.Prompt times) (hclocked : Clocked s times)
    (htracked : ∀ p ∈ s.core.tracked, p.call < s.core.calls.length)
    (htimely : s.InFlight → s.core.Timely) (hmove : Move s .take t) (hqueue : s.queue = frame :: rest)
    (hjob : Job.ofFrame s.options.maxDepth s.core.calls.length frame = (job, handles))
    (ht : t = { s with
      core := extended s.core (Print.frameNotices frame)
        (handles.map (fetchCall s.options.fetchTimeout))
      taken := s.taken + 1
      jobs := s.jobs ++ [job] }) : t.Prompt times := by
  intro j n job' fetch hjob' hfetch
  have hoptions : t.options = s.options := by rw [ht]
  have htaken : t.taken = s.taken + 1 := by rw [ht]
  have hjobs : t.jobs = s.jobs ++ [job] := by rw [ht]
  rw [hjobs] at hjob'
  by_cases hj : j < s.jobs.length
  · rw [List.getElem?_append_left hj] at hjob'
    refine (h hjob' hfetch).step hmove (by simp) htimely hoptions ?_
    rw [htaken, hjobs, List.length_append, List.length_singleton]
    omega
  · -- the new job is the last one, and its frame was passed on just now
    have hlt := (List.getElem?_eq_some_iff.mp hjob').1
    rw [List.length_append, List.length_singleton] at hlt
    obtain rfl : j = s.jobs.length := by omega
    rw [List.getElem?_append_right (Nat.le_refl _), Nat.sub_self] at hjob'
    obtain rfl := Option.some.inj hjob'
    obtain ⟨hhops, hlow, hhigh⟩ := place_of_ofFrame hjob hfetch
    have hframe : s.taken < times.length := by
      rw [hclocked.length_eq]
      by_contra hle
      rw [State.queue, List.drop_eq_nil_of_le (Nat.not_lt.mp hle)] at hqueue
      cases hqueue
    have hnow := hclocked.waiting (List.getElem?_eq_getElem hframe) (Nat.le_refl _)
    refine ⟨s.taken, _, s.core.now + s.options.fetchTimeout, ?_,
      List.getElem?_eq_getElem hframe, ?_, ?_⟩
    · rw [htaken, hjobs, List.length_append, List.length_singleton]
      omega
    · rw [ht]
      exact due_of_begun htracked hlow hhigh
    · rw [hoptions, hnow, ← hhops, Nat.succ_mul]
      omega

theorem State.Prompt.grow {outcome : Exchange.Outcome} {growth : Growth}
    {notices : List Notice} (h : s.Prompt times) (hdispatched : Dispatched options as s groups)
    (htracked : ∀ p ∈ s.core.tracked, p.call < s.core.calls.length)
    (htimely : s.InFlight → s.core.Timely) (hmove : Move s (.grow n) t)
    (houtcome : s.core.outcome? n = some outcome)
    (hfetch : s.jobs.findSome? (Job.fetch? n) = some fetch)
    (hgrowth : fetch.grow s.core.calls.length outcome = growth)
    (ht : t = { s with
      core := extended s.core notices (growth.handles.map (fetchCall s.options.fetchTimeout))
      jobs := s.jobs.map (Job.fill n growth.part) }) : t.Prompt times := by
  intro j n' job' fetch' hjob' hfetch'
  have hoptions : t.options = s.options := by rw [ht]
  have htaken : t.taken = s.taken := by rw [ht]
  have hjobs : t.jobs = s.jobs.map (Job.fill n growth.part) := by rw [ht]
  rw [hjobs, List.getElem?_map] at hjob'
  obtain ⟨job, hjob, rfl⟩ := Option.map_eq_some_iff.mp hjob'
  obtain ⟨frame, fetches, -, howned, hmade⟩ := hdispatched.job hjob
  have hindex : ∀ k, k + t.jobs.length = t.taken + j ↔ k + s.jobs.length = s.taken + j := by
    intro k
    rw [hjobs, htaken, List.length_map]
  have hplaces : job.fetch? n' = some fetch' ∨
      job.fetch? n = some fetch ∧ growth.part.fetch? n' = some fetch' := by
    cases hplace : job.fetch? n with
    | none =>
        rw [hmade.fill_eq_self hplace] at hfetch'
        exact Or.inl hfetch'
    | some _ =>
        obtain rfl := hdispatched.fetch_unique hjob hplace hfetch
        exact (hmade.place_of_fill howned.nodup hfetch').imp_right fun hpart => ⟨rfl, hpart⟩
  rcases hplaces with hold | ⟨hplace, hpart⟩
  · refine (h hjob hold).step hmove (by simp) htimely hoptions ?_
    rw [htaken, hjobs, List.length_map]
  · -- the reply came in time, so what is fetched below it is in time as well
    rw [← hgrowth] at hpart
    obtain ⟨⟨v, rfl⟩, hhops, hlow, hhigh⟩ := place_of_grow hpart
    rw [hgrowth] at hhigh
    obtain ⟨i, x, y, hi, hx, hdue, hy⟩ := h hjob hplace
    obtain ⟨c, hcall, -, -, hbrought⟩ := hdue.call
    obtain ⟨d, hd, hdone⟩ := Exchange.done_of_outcome? houtcome
    obtain rfl := Option.some.inj (hcall.symm.trans hd)
    have hnow := hbrought v (Or.inr hdone)
    refine ⟨i, x, s.core.now + s.options.fetchTimeout, (hindex i).mpr hi, hx, ?_, ?_⟩
    · rw [ht]
      exact due_of_begun htracked hlow hhigh
    · rw [← hhops, Nat.succ_mul] at hy
      rw [hoptions]
      omega

theorem State.Prompt.tick (h : s.Prompt times) (hsettled : Settled s) (ms : Nat) :
    State.Prompt { s with core := { s.core with now := s.core.now + ms } } times := by
  intro j n job fetch hjob hfetch
  obtain ⟨i, x, y, hi, hx, hdue, hy⟩ := h hjob hfetch
  obtain ⟨c, hcall, -⟩ := hdue.call
  obtain ⟨id, hphase, hword⟩ :=
    hsettled.waiting_of_fetch (List.mem_of_getElem? hjob) hfetch hcall
  exact ⟨i, x, y, hi, hx, hdue.tick hcall hphase hword ms, hy⟩

end Prompt

/-! ### Along a run -/

/-- What the dispatcher waits for is in time. -/
structure Punctual (options : Options) (as : List Action) (s : State) : Prop where
  clocked : Clocked s (passedTimes options as)
  fresh : s.core.Fresh
  timely : s.InFlight → s.core.Timely
  prompt : s.Prompt (passedTimes options as)

theorem tracked_lt_of_run (hrun : run? (opened options) as = some s) :
    ∀ p ∈ s.core.tracked, p.call < s.core.calls.length := by
  obtain ⟨log, hcore⟩ := exists_log_of_run hrun
  intro p hp
  obtain ⟨c, hcall, -⟩ := (Exchange.coherent_of_run hcore).tracked_call p hp
  exact (List.getElem?_eq_some_iff.mp hcall).1

theorem Punctual.tick (h : Punctual options as s) (hrun : run? (opened options) as = some s)
    (hsettled : Settled s) {ms : Nat} (hstep : step? s (.tick ms) = some t) :
    Punctual options (as ++ [.tick ms]) t := by
  have hfollow := hrun
  rw [run?_eq_follow] at hfollow
  have htimes : passedTimes options (as ++ [.tick ms]) = passedTimes options as := by
    rw [passedTimes, Run.along_snoc _ hfollow hstep]
    exact List.append_nil _
  obtain ⟨log, hcore, hquiet⟩ := hsettled.exists_log hrun
  have hmail : s.core.mailbox = [] := hquiet.mailbox (Exchange.closing_of_run hcore)
  obtain rfl := Option.some.inj hstep
  constructor
  · rw [htimes]
    exact h.clocked.tick (hsettled.queue hrun) ms
  · intro p hp
    change p ∈ Exchange.requests s.core.mailbox at hp
    rw [hmail] at hp
    cases hp
  · intro hflight
    exact absurd hflight hsettled.not_inFlight
  · rw [htimes]
    exact h.prompt.tick hsettled ms

theorem Punctual.step (h : Punctual options as s) (hrun : run? (opened options) as = some s)
    (hstep : step? s a = some t) (htick : ∀ ms, a ≠ .tick ms)
    (harrive : ∀ text, a = .arrive (.frame text) → s.core.hasOverdue = false) :
    Punctual options (as ++ [a]) t := by
  have hmove := move_of_step hstep
  have hfollow := hrun
  rw [run?_eq_follow] at hfollow
  have htimes : passedTimes options (as ++ [a]) = passedTimes options as ++ passedTime s a := by
    rw [passedTimes, passedTimes, Run.along_snoc _ hfollow hstep]
  have hkeeps : ∀ b ∈ coreActions s a, ∀ ms, b ≠ .tick ms := by
    rintro b hb ms rfl
    exact htick ms (hmove.tick_of_mem hb)
  constructor
  · rw [htimes]
    exact h.clocked.step (readerGone_of_run hrun) hmove htick
  · exact hmove.core_keeps (P := Exchange.State.Fresh)
      (fun b hb u v hcore hu => hu.step hcore (hkeeps b hb)) (fun _ _ hu => hu) h.fresh
  · intro hflight
    have htimely : s.core.Timely := by
      by_cases hframe : ∃ text, a = .arrive (.frame text)
      · obtain ⟨text, rfl⟩ := hframe
        exact h.fresh.timely (harrive text rfl)
      · exact h.timely (hmove.inFlight (fun text htext => hframe ⟨text, htext⟩) hflight)
    exact hmove.core_keeps (P := Exchange.State.Timely)
      (fun b hb u v hcore hu => hu.step hcore (hkeeps b hb)) (fun _ _ hu => hu) htimely
  · intro j n job fetch hjob hfetch
    rw [htimes]
    apply State.InTime.append
    have htracked := tracked_lt_of_run hrun
    obtain ⟨groups, hdispatched⟩ := dispatched_of_run hrun
    have hsame : t.options = s.options → t.taken = s.taken → t.jobs = s.jobs →
        t.InTime (passedTimes options as) j n fetch := by
      intro hoptions htaken hjobs
      refine (h.prompt (hjobs ▸ hjob) hfetch).step hmove htick h.timely hoptions ?_
      rw [htaken, hjobs]
    cases hmove with
    | take hexpecting hqueue hmade =>
        exact h.prompt.take h.clocked htracked h.timely (.take hexpecting hqueue hmade) hqueue
          hmade rfl hjob hfetch
    | grow houtcome hplace hgrowth =>
        exact h.prompt.grow hdispatched htracked h.timely (.grow houtcome hplace hgrowth) houtcome
          hplace hgrowth rfl hjob hfetch
    | collect hemitting hjobs hlines =>
        rename_i first rest ls
        have hlater : s.jobs[j + 1]? = some job := by rw [hjobs]; exact hjob
        refine (h.prompt hlater hfetch).step (.collect hemitting hjobs hlines) htick h.timely rfl ?_
        have hlength : s.jobs.length = rest.length + 1 := by rw [hjobs, List.length_cons]
        show s.taken + (j + 1) + rest.length = s.taken + j + s.jobs.length
        omega
    | _ => exact hsame rfl rfl rfl

theorem punctual_of_run (hrun : run? (opened options) as = some s) (hpaced : Paced options as) :
    Punctual options as s := by
  have hfollow := hrun
  rw [run?_eq_follow] at hfollow
  refine Run.follow_induction (motive := fun as s => Paced options as → Punctual options as s)
    ?_ ?_ hfollow hpaced
  · intro _
    refine ⟨⟨rfl, List.Pairwise.nil, by simp [passedTimes, Run.along], ?_⟩, ?_, ?_, ?_⟩
    · simp [passedTimes, Run.along]
    · exact fun p hp => absurd hp List.not_mem_nil
    · rintro (⟨-, hframes⟩ | ⟨-, text, htext⟩)
      · exact absurd rfl hframes
      · cases htext
    · intro j n job fetch hjob
      simp [opened] at hjob
  · intro as u a v hfollow hstep ih hpaced
    have hu := ih (hpaced.mono (List.prefix_append as [a]))
    have hrun := (run?_eq_follow _ _).trans hfollow
    have hlast := Run.Moment.in_last hfollow hstep
    by_cases htick : ∃ ms, a = .tick ms
    · obtain ⟨ms, rfl⟩ := htick
      exact hu.tick hrun (hpaced.clock _ ms hlast rfl) hstep
    · refine hu.step hrun hstep (fun ms hms => htick ⟨ms, hms⟩) ?_
      rintro text rfl
      exact hpaced.arrivals _ text hlast rfl

/-! ### The bound -/

theorem Punctual.handed_over (h : Punctual options as s)
    (hrun : run? (opened options) as = some s) (hsettled : Settled s)
    (hdispatched : Dispatched options as s groups) {x : Nat}
    (hx : (passedTimes options as)[i]? = some x)
    (hlate : x + options.maxDepth * options.fetchTimeout ≤ s.core.now) : i < groups.length := by
  by_contra hlt
  have htaken := hdispatched.taken_eq
  have hqueue := hsettled.queue hrun
  rw [State.queue, List.drop_eq_nil_iff] at hqueue
  have hi := (List.getElem?_eq_some_iff.mp hx).1
  rw [h.clocked.length_eq] at hi
  cases hjobs : s.jobs with
  | nil =>
      rw [hjobs, List.length_nil] at htaken
      omega
  | cons job rest =>
      -- the first job waits for a request that is overdue
      obtain ⟨n, fetch, hfetch⟩ := hsettled.exists_fetch hdispatched hjobs
      have hfirst : s.jobs[0]? = some job := by rw [hjobs]; rfl
      obtain ⟨k, x₀, y, hk, hx₀, hdue, hy⟩ := h.prompt hfirst hfetch
      rw [hdispatched.options_eq] at hdue hy
      have hle : x₀ ≤ x := by
        rcases Nat.lt_or_eq_of_le (show k ≤ i by omega) with hki | rfl
        · obtain ⟨hklt, rfl⟩ := List.getElem?_eq_some_iff.mp hx₀
          obtain ⟨hilt, rfl⟩ := List.getElem?_eq_some_iff.mp hx
          exact List.pairwise_iff_getElem.mp h.clocked.sorted k i hklt hilt hki
        · exact (Option.some.inj (hx₀.symm.trans hx)).le
      obtain ⟨log, hcore, hquiet⟩ := hsettled.exists_log hrun
      obtain ⟨c, hcall, -⟩ := hdue.call
      obtain ⟨id, hphase, -⟩ := hsettled.waiting_of_fetch (List.mem_of_getElem? hfirst) hfetch hcall
      obtain ⟨p, hp, hpn, -⟩ := hquiet.pending_of_waiting hcore hcall hphase
      have hdeadline := hdue.deadline p (Exchange.mem_tracked_of_mem_pending hp) hpn
      have hlater := hquiet.lt_deadline (Exchange.closing_of_run hcore) hp
      exact absurd hlater (Nat.not_lt.mpr (show p.deadline ≤ s.core.now by omega))

/-- The time at which a frame is passed on stands at the frame's place. -/
theorem Punctual.passedTimes_getElem? (hrun : run? (opened options) as = some s)
    (hpaced : Paced options as) {m : Moment} (hm : Occurs options as m) {frame : Value}
    (hframe : passedFrame m.state m.action = [frame]) :
    (passedTimes options as)[m.state.core.forwarded.length]? = some m.state.core.now ∧
      s.core.forwarded[m.state.core.forwarded.length]? = some frame := by
  have hinit : m.before <+: as := (List.prefix_append _ _).trans hm.1
  have hlength := (punctual_of_run hm.run (hpaced.mono hinit)).clocked.length_eq
  rw [passedTimes] at hlength
  constructor
  · obtain ⟨later, hlater⟩ := Run.Moment.In.along_snoc_prefix passedTime hm
    rw [passedTimes, ← hlater, passedTime, hframe, List.append_assoc, ← hlength,
      List.getElem?_append_right (Nat.le_refl _), Nat.sub_self]
    rfl
  · obtain ⟨rest, hrest⟩ := Run.Moment.In.after hm ((run?_eq_follow _ _).symm.trans hrun)
    rw [← run?_eq_follow] at hrest
    apply getElem?_of_forwarded_prefix (lasts_of_run hrest)
    rw [hm.move.forwarded (readerGone_of_run hm.run), hframe,
      List.getElem?_append_right (Nat.le_refl _), Nat.sub_self]
    rfl

/-- A silent target does not hold back the output.  If the clock moves only when nobody can act
    and no frame arrives while a request is overdue, then whenever nobody can act, what was
    handed over are the groups of the first frames passed on, complete, and every frame that was
    passed on `maxDepth * fetchTimeout` ago or earlier is among them. -/
theorem output_in_time {sink : Exchange.Sink} {s₀ : State}
    (hstart : State.start options sink = .ok s₀) (hrun : run? s₀ as = some s)
    (hpaced : Paced options as) (hsettled : Settled s) :
    ∃ groups : List (List String), s.emissions.map Emission.line = groups.flatten ∧
      (∀ i lines, groups[i]? = some lines → Group options as s i lines) ∧
      ∀ m frame, Occurs options as m → passedFrame m.state m.action = [frame] →
        m.state.core.now + options.maxDepth * options.fetchTimeout ≤ s.core.now →
          s.core.forwarded[m.state.core.forwarded.length]? = some frame ∧
            m.state.core.forwarded.length < groups.length := by
  obtain rfl := start_eq_opened hstart
  obtain ⟨groups, hdispatched⟩ := dispatched_of_run hrun
  have hemitted := hdispatched.emitted
  rw [hsettled.emitting, List.append_nil] at hemitted
  refine ⟨groups, hemitted, fun _ _ hgroup => hdispatched.group hgroup, ?_⟩
  intro m frame hm hframe hlate
  obtain ⟨htime, hforwarded⟩ := Punctual.passedTimes_getElem? hrun hpaced hm hframe
  exact ⟨hforwarded, (punctual_of_run hrun hpaced).handed_over hrun hsettled hdispatched htime hlate⟩

/-- A console call and a log entry arrive; the target answers the fetch for the call late, and the
    one for what the answer brings not at all. -/
def silentRun : List Action :=
  [.arrive (.frame (callFrame "7").compact), .arrive (.frame (entryFrame "hi").compact),
    .receive, .receive, .core .handle, .core .handle, .take, .take,
    .core (.caller 3 none), .core (.caller 3 none), .core (.caller 3 none), .core (.caller 3 none),
    .core .handle, .tick 1999,
    .arrive (.frame (replyFrame 4 [objectNamed "x" "8"]).compact), .receive, .core .handle,
    .core (.caller 3 none), .grow 3,
    .core (.caller 4 none), .core (.caller 4 none), .core (.caller 4 none), .core (.caller 4 none),
    .core .handle, .tick 2000, .core .expire, .core (.caller 4 none), .grow 4,
    .collect, .emit, .emit, .emit, .emit, .collect, .emit, .tick 1]

/-- What is handed over in the end. -/
def silentLines : List String :=
  ["[console.log]", "    \x7b", "      \"x\": \"[Object: timeout]\"", "    \x7d", "[info] hi"]

/-- Whether the run keeps the pace, where it leads, and what happens at its sixth step. -/
theorem silentRun_eval :
    (Run.along step? paceKept (opened {}) silentRun,
      (run? (opened {}) silentRun).map fun s =>
        (decide (Settled s), s.core.now, s.emissions.map Emission.line),
      (run? (opened {}) (silentRun.take 5)).bind fun u =>
        (step? u (.core .handle)).map fun _ =>
          (passedFrame u (.core .handle), u.core.now, u.core.forwarded.length)) =
      (List.replicate 6 true, some (true, 4000, silentLines), some ([entryFrame "hi"], 0, 1)) := by
  cbv

theorem output_in_time_silent :
    State.start {} {} = .ok (opened {}) ∧ Paced {} silentRun ∧
      ∃ s, run? (opened {}) silentRun = some s ∧ Settled s ∧ s.core.now = 4000 ∧
        ∃ groups : List (List String), groups.flatten = silentLines ∧
          (∀ i lines, groups[i]? = some lines → Group {} silentRun s i lines) ∧
          ∃ m, Occurs {} silentRun m ∧ passedFrame m.state m.action = [entryFrame "hi"] ∧
            m.state.core.now = 0 ∧ m.state.core.forwarded.length = 1 ∧ 1 < groups.length := by
  have heval := silentRun_eval
  simp only [Prod.mk.injEq] at heval
  obtain ⟨hpace, hend, hsixth⟩ := heval
  have hpaced : Paced {} silentRun := paced_of_paceKept fun kept hkept =>
    List.eq_of_mem_replicate (hpace ▸ hkept)
  obtain ⟨s, hrun, hs⟩ := Option.map_eq_some_iff.mp hend
  simp only [Prod.mk.injEq, decide_eq_true_eq] at hs
  obtain ⟨hsettled, hnow, hlines⟩ := hs
  obtain ⟨u, hu, hstep⟩ := Option.bind_eq_some_iff.mp hsixth
  obtain ⟨v, hv, hpassed⟩ := Option.map_eq_some_iff.mp hstep
  simp only [Prod.mk.injEq] at hpassed
  obtain ⟨hframe, htime, hlength⟩ := hpassed
  have hm : Occurs {} silentRun ⟨silentRun.take 5, u, .core .handle, v⟩ :=
    ⟨⟨silentRun.drop 6, rfl⟩, (run?_eq_follow _ _).symm.trans hu, hv⟩
  obtain ⟨groups, hemissions, hgroup, hlate⟩ :=
    output_in_time start_default hrun hpaced hsettled
  have hplace := (hlate _ _ hm hframe (by simp [htime, hnow])).2
  rw [hlength] at hplace
  exact ⟨start_default, hpaced, s, hrun, hsettled, hnow, groups, hemissions.symm.trans hlines,
    hgroup, _, hm, hframe, htime, hlength, hplace⟩

end ConsoleTap.Session
