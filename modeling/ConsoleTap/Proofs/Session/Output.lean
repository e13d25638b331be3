import ConsoleTap.Proofs.Exchange.Fate
import ConsoleTap.Proofs.Session.Dispatch

/-!
# The output

The lines of a frame are handed over as one group, and the groups in the order in which
their frames were passed on.  This file follows the dispatcher step by step, compares
what it is given with what the receiver hands over, and says what everybody has seen
who has stopped.
-/

namespace ConsoleTap.Session

open ConsoleTap.Json

variable {options : Options} {s t u : State} {a : Action} {as bs : List Action} {i n : Nat}
  {groups : List (List String)}

/-! ### One step of the dispatcher -/

theorem Dispatched.same (h : Dispatched options as s groups)
    (hrun : run? (opened options) as = some s) (hstep : step? s a = some t)
    (hlength : t.core.calls.length = s.core.calls.length) (hoptions : t.options = s.options)
    (htaken : t.taken = s.taken) (hjobs : t.jobs = s.jobs)
    (hemissions : t.emissions = s.emissions) (hemitting : t.emitting = s.emitting) :
    Dispatched options (as ++ [a]) t groups where
  options_eq := hoptions.trans h.options_eq
  taken_eq := by rw [htaken, hjobs, h.taken_eq]
  taken_le := by
    rw [htaken]
    exact h.taken_le.trans (move_of_step hstep).lasts.forwarded.length_le
  group hgroup := (h.group hgroup).snoc hrun hstep (Or.inl hlength)
  job hjob := (h.job (hjobs ▸ hjob)).snoc hrun hstep (Or.inl hlength)
  emitted := by rw [hemissions, hemitting, h.emitted]
  emitting := by rw [hemitting]; exact h.emitting

theorem Dispatched.take {frame : Value} {rest : List Value} {job : Job} {handles : List String}
    {notices : List Notice} (h : Dispatched options as s groups)
    (hrun : run? (opened options) as = some s) (hstep : step? s .take = some t)
    (hqueue : s.queue = frame :: rest)
    (hjob : Job.ofFrame s.options.maxDepth s.core.calls.length frame = (job, handles))
    (ht : t = { s with
      core := extended s.core notices (handles.map (fetchCall s.options.fetchTimeout))
      taken := s.taken + 1
      jobs := s.jobs ++ [job] }) :
    Dispatched options (as ++ [.take]) t groups := by
  have hframe : s.core.forwarded[s.taken]? = some frame := by
    have hhead : s.queue[0]? = some frame := by rw [hqueue]; rfl
    rwa [State.queue, List.getElem?_drop, Nat.add_zero] at hhead
  have hcore : t.core =
      extended s.core notices (handles.map (fetchCall s.options.fetchTimeout)) := by rw [ht]
  have htaken := h.taken_eq
  have hother : ∀ {i : Nat}, i < s.taken → ¬ Serves options as s .take i := by
    rintro i hlt (⟨-, hi⟩ | ⟨parent, haction, -⟩)
    · exact Nat.ne_of_gt hlt hi
    · cases haction
  subst ht
  refine ⟨h.options_eq, ?_, (List.getElem?_eq_some_iff.mp hframe).1, ?_, ?_, h.emitted, h.emitting⟩
  · simp [htaken, Nat.add_assoc]
  · intro i lines hgroup
    have hlt := (List.getElem?_eq_some_iff.mp hgroup).1
    exact (h.group hgroup).snoc hrun hstep (Or.inr (hother (by omega)))
  · intro j job' hjob'
    by_cases hj : j < s.jobs.length
    · rw [List.getElem?_append_left hj] at hjob'
      exact (h.job hjob').snoc hrun hstep (Or.inr (hother (by omega)))
    · -- the new job is the last one
      have hlt := (List.getElem?_eq_some_iff.mp hjob').1
      rw [List.length_append, List.length_singleton] at hlt
      obtain rfl : j = s.jobs.length := by omega
      rw [List.getElem?_append_right (Nat.le_refl _), Nat.sub_self] at hjob'
      obtain rfl := Option.some.inj hjob'
      rw [← htaken]
      refine ⟨frame, fetchesFrom s.core.calls.length handles, hframe, ?_, ?_⟩
      · exact (owned_nil hrun (Nat.le_refl _)).extend hrun hstep (Or.inl ⟨rfl, rfl⟩) hcore
      · rw [← h.options_eq]
        simpa only [hjob] using jobOf_ofFrame _ s.options.maxDepth s.core.calls.length frame

theorem Dispatched.grow {outcome : Exchange.Outcome} {fetch : Fetch} {growth : Growth}
    {notices : List Notice} (h : Dispatched options as s groups)
    (hrun : run? (opened options) as = some s) (hstep : step? s (.grow n) = some t)
    (houtcome : s.core.outcome? n = some outcome)
    (hfetch : s.jobs.findSome? (Job.fetch? n) = some fetch)
    (hgrowth : fetch.grow s.core.calls.length outcome = growth)
    (ht : t = { s with
      core := extended s.core notices (growth.handles.map (fetchCall s.options.fetchTimeout))
      jobs := s.jobs.map (Job.fill n growth.part) }) :
    Dispatched options (as ++ [.grow n]) t groups := by
  obtain ⟨job, hmem, hplace⟩ := List.exists_of_findSome?_eq_some hfetch
  obtain ⟨k, hk⟩ := List.mem_iff_getElem?.mp hmem
  have hbegun : BegunFor options as (groups.length + k) n := (h.job hk).begunFor hplace
  have hcore : t.core =
      extended s.core notices (growth.handles.map (fetchCall s.options.fetchTimeout)) := by rw [ht]
  have hlasts := (move_of_step hstep).lasts
  have hother : ∀ {i : Nat}, i ≠ groups.length + k → ¬ Serves options as s (.grow n) i := by
    rintro i hne (⟨haction, -⟩ | ⟨parent, haction, hparent⟩)
    · cases haction
    · obtain rfl := Action.grow.inj haction
      exact hne (hparent.unique hbegun)
  subst ht
  refine ⟨h.options_eq, ?_, h.taken_le, ?_, ?_, h.emitted, h.emitting⟩
  · simp [h.taken_eq]
  · intro i lines hgroup
    have hlt := (List.getElem?_eq_some_iff.mp hgroup).1
    exact (h.group hgroup).snoc hrun hstep (Or.inr (hother (by omega)))
  · intro j job' hjob'
    rw [List.getElem?_map] at hjob'
    obtain ⟨job₀, hjob₀, rfl⟩ := Option.map_eq_some_iff.mp hjob'
    obtain ⟨frame, fetches, hframe, howned, hmade⟩ := h.job hjob₀
    by_cases hj : j = k
    · subst hj
      obtain rfl := Option.some.inj (hk.symm.trans hjob₀)
      obtain ⟨fetches', hmade', hperm⟩ := hmade.grow howned.nodup hplace houtcome
      rw [hgrowth] at hmade' hperm
      refine ⟨frame, fetches', getElem?_of_forwarded_prefix hlasts hframe, ?_,
        hmade'.mono hlasts.outcome⟩
      exact (howned.extend hrun hstep (Or.inr ⟨n, rfl, hbegun⟩) hcore).perm hperm
    · have hnone : job₀.fetch? n = none := by
        refine hmade.fetch?_eq_none fun hn => hj ?_
        have := ((howned.begun n).mp hn).unique hbegun
        omega
      rw [hmade.fill_eq_self hnone]
      exact (h.job hjob₀).snoc hrun hstep (Or.inr (hother (by omega)))

theorem Dispatched.collect {job : Job} {rest : List Job} {ls : List String}
    (h : Dispatched options as s groups) (hrun : run? (opened options) as = some s)
    (hstep : step? s .collect = some t) (hemitting : s.emitting = [])
    (hjobs : s.jobs = job :: rest) (hlines : job.lines? = some ls)
    (ht : t = { s with jobs := rest, emitting := ls }) :
    Dispatched options (as ++ [.collect]) t (groups ++ [ls]) := by
  have hlength : t.core.calls.length = s.core.calls.length := by rw [ht]
  have htaken := h.taken_eq
  have hemitted := h.emitted
  rw [hjobs, List.length_cons] at htaken
  rw [hemitting, List.append_nil] at hemitted
  subst ht
  refine ⟨h.options_eq, ?_, h.taken_le, ?_, ?_, ?_, Or.inr ⟨groups, ls, rfl, List.suffix_rfl⟩⟩
  · rw [List.length_append, List.length_singleton, Nat.add_assoc, Nat.add_comm 1]
    exact htaken
  · intro i lines hgroup
    by_cases hi : i < groups.length
    · rw [List.getElem?_append_left hi] at hgroup
      exact (h.group hgroup).snoc hrun hstep (Or.inl hlength)
    · have hlt := (List.getElem?_eq_some_iff.mp hgroup).1
      rw [List.length_append, List.length_singleton] at hlt
      obtain rfl : i = groups.length := by omega
      rw [List.getElem?_append_right (Nat.le_refl _), Nat.sub_self] at hgroup
      obtain rfl := Option.some.inj hgroup
      have hfirst : s.jobs[0]? = some job := by rw [hjobs]; rfl
      obtain ⟨frame, fetches, hframe, howned, hmade⟩ :=
        (h.job hfirst).snoc hrun hstep (Or.inl hlength)
      exact ⟨frame, fetches, hframe, howned, hmade.lines hlines⟩
  · intro j job' hjob'
    have hlater : s.jobs[j + 1]? = some job' := by rw [hjobs]; exact hjob'
    rw [List.length_append, List.length_singleton, Nat.add_assoc, Nat.add_comm 1 j]
    exact (h.job hlater).snoc hrun hstep (Or.inl hlength)
  · rw [List.flatten_append, ← hemitted]
    simp

theorem Dispatched.emit {line : String} {rest : List String} {delivered : Bool}
    {notices : List Notice} (h : Dispatched options as s groups)
    (hrun : run? (opened options) as = some s) (hstep : step? s .emit = some t)
    (hemitting : s.emitting = line :: rest)
    (ht : t = { s with
      core := extended s.core notices []
      emitting := rest
      emissions := s.emissions ++ [⟨line, delivered⟩] }) :
    Dispatched options (as ++ [.emit]) t groups := by
  have hlength : t.core.calls.length = s.core.calls.length := by rw [ht]; simp [extended]
  have hemitted := h.emitted
  rw [hemitting] at hemitted
  subst ht
  refine ⟨h.options_eq, h.taken_eq, h.taken_le,
    fun hgroup => (h.group hgroup).snoc hrun hstep (Or.inl hlength),
    fun hjob => (h.job hjob).snoc hrun hstep (Or.inl hlength), ?_, ?_⟩
  · rw [← hemitted]
    simp
  · rcases h.emitting with hnil | ⟨init, last, hgroups, hsuffix⟩
    · rw [hemitting] at hnil
      cases hnil
    · rw [hemitting] at hsuffix
      exact Or.inr ⟨init, last, hgroups, (List.suffix_cons line rest).trans hsuffix⟩

theorem Dispatched.step (h : Dispatched options as s groups)
    (hrun : run? (opened options) as = some s) (hstep : step? s a = some t) :
    ∃ groups', Dispatched options (as ++ [a]) t groups' := by
  have hmove := move_of_step hstep
  cases hmove with
  | take hexpecting hqueue hjob => exact ⟨groups, h.take hrun hstep hqueue hjob rfl⟩
  | grow houtcome hfetch hgrowth =>
      exact ⟨groups, h.grow hrun hstep houtcome hfetch hgrowth rfl⟩
  | collect hemitting hjobs hlines =>
      exact ⟨_, h.collect hrun hstep hemitting hjobs hlines rfl⟩
  | emit hemitting => exact ⟨groups, h.emit hrun hstep hemitting rfl⟩
  | core hinner hcore =>
      have hlength := ((Exchange.move_of_step hcore).inner hinner).1
      exact ⟨groups, h.same hrun hstep hlength rfl rfl rfl rfl rfl⟩
  | receive hreceiving hinbound hread hroute =>
      refine ⟨groups, h.same hrun hstep ?_ rfl rfl rfl rfl rfl⟩
      cases Exchange.move_of_step hroute <;> rfl
  | observe hrunner hend hask =>
      obtain rfl := Option.some.inj hask
      exact ⟨groups, h.same hrun hstep rfl rfl rfl rfl rfl rfl⟩
  | shut hhandle hask =>
      obtain rfl := Option.some.inj hask
      exact ⟨groups, h.same hrun hstep rfl rfl rfl rfl rfl rfl⟩
  | closeChannel hhandle hdone =>
      exact ⟨groups, h.same hrun hstep (by simp [extended]) rfl rfl rfl rfl rfl⟩
  | _ => exact ⟨groups, h.same hrun hstep rfl rfl rfl rfl rfl rfl⟩

/-- Along every run the output belongs to the frames passed on, in their order. -/
theorem dispatched_of_run (hrun : run? (opened options) as = some s) :
    ∃ groups, Dispatched options as s groups := by
  have hfollow := hrun
  rw [run?_eq_follow] at hfollow
  refine Run.follow_induction
    (motive := fun as s => ∃ groups, Dispatched options as s groups) ?_ ?_ hfollow
  · exact ⟨[], rfl, rfl, Nat.zero_le _, by simp, by simp [opened], rfl, Or.inl rfl⟩
  · rintro as u a v hrun hstep ⟨groups, h⟩
    rw [← run?_eq_follow] at hrun
    exact h.step hrun hstep

/-! ### Frames and the exchange -/

/-- The frames that the receiver hands over in a run, in order. -/
def routedFrames (options : Options) (as : List Action) : List Value :=
  Run.along step? routedFrame (opened options) as

theorem Move.routed (hmove : Move s a t) :
    Exchange.routed (coreActions s a) = routedFrame s a := by
  have hfetches : ∀ handles : List String,
      Exchange.routed (handles.map (fetchAction s.options.fetchTimeout)) = [] := by
    intro handles
    induction handles with
    | nil => rfl
    | cons objectId handles ih => exact ih
  have hframes : ∀ frames : List Value, Exchange.routed (frames.map .route) = frames := by
    intro frames
    induction frames with
    | nil => rfl
    | cons frame frames ih => exact congrArg (frame :: ·) ih
  cases hmove with
  | core hinner hstep =>
      rename_i a core
      cases a <;> first | rfl | cases hinner
  | receive => exact hframes _
  | receiveMalformed => exact hframes _
  | receiveEnd => exact hframes _
  | take => exact hfetches _
  | grow => exact hfetches _
  | look hhandle =>
      rw [coreActions, if_neg (by simp [hhandle])]
      rfl
  | shut hhandle hask =>
      rw [coreActions, if_pos hhandle]
      rfl
  | closeChannel hhandle hdone =>
      rw [coreActions, if_neg (by simp [hhandle])]
      rfl
  | _ => rfl

theorem routed_coreRun (hrun : run? (opened options) as = some s) :
    Exchange.routed (coreRun options as) = routedFrames options as := by
  rw [run?_eq_follow] at hrun
  refine Run.follow_induction
    (motive := fun as _ => Exchange.routed (coreRun options as) = routedFrames options as)
    rfl ?_ hrun
  intro as u a v hrun hstep ih
  rw [coreRun, Run.along_snoc _ hrun hstep, ← List.append_assoc, ← coreRun,
    Exchange.routed_append, ih, (move_of_step hstep).routed, routedFrames, routedFrames,
    Run.along_snoc _ hrun hstep]

theorem readerGone_of_run (hrun : run? (opened options) as = some s) :
    s.core.readerGone = false := by
  rw [run?_eq_follow] at hrun
  refine Run.follow_keeps (P := fun u => u.core.readerGone = false) ?_ rfl hrun
  intro u a v hstep hu
  cases move_of_step hstep with
  | core hinner hcore => exact ((Exchange.move_of_step hcore).inner hinner).2.trans hu
  | receive hreceiving hinbound hread hroute =>
      cases Exchange.move_of_step hroute <;> exact hu
  | observe hrunner hend hask =>
      obtain rfl := Option.some.inj hask
      exact hu
  | shut hhandle hask =>
      obtain rfl := Option.some.inj hask
      exact hu
  | _ => exact hu

theorem forwarded_eq_events (hrun : run? (opened options) as = some s) :
    s.core.forwarded = Exchange.events (coreRun options as) := by
  obtain ⟨core, hcore, hmuted⟩ := core_of_run hrun
  rw [Exchange.muted_eq_iff] at hmuted
  have hforwarded := Exchange.forwarded_eq_events hcore (by
    rw [hmuted]
    exact readerGone_of_run hrun)
  rw [← hforwarded, hmuted]

theorem taken_prefix_routedFrames (hrun : run? (opened options) as = some s) :
    Exchange.taken (coreRun options as) <+: routedFrames options as := by
  obtain ⟨core, hcore, -⟩ := core_of_run hrun
  rw [← routed_coreRun hrun]
  exact Exchange.taken_prefix_routed hcore

/-- The shutdown was sent to the keeper. -/
def State.ShutdownSent (s : State) : Prop :=
  s.core.keeper ≠ .running ∨ Exchange.Message.shutdown ∈ s.core.mailbox

/-- What was received before the shutdown was sent was taken by the time the keeper stops. -/
theorem taken_of_received_before (hrun : run? (opened options) as = some s)
    (hsent : ¬ s.ShutdownSent) (hrest : run? s bs = some t) (hstopped : t.core.keeper = .stopped) :
    routedFrames options as <+: Exchange.taken (coreRun options (as ++ bs)) := by
  have hwhole : run? (opened options) (as ++ bs) = some t := by
    rw [run?_append, hrun, Option.bind_some, hrest]
  have hsplit : coreRun options (as ++ bs) =
      coreRun options as ++ Run.along step? coreActions s bs := coreRun_append hrun
  obtain ⟨u, hu, humuted⟩ := core_of_run hrun
  obtain ⟨v, hv, hvmuted⟩ := core_of_run hwhole
  rw [hsplit, Exchange.run?_append, hu, Option.bind_some] at hv
  rw [Exchange.muted_eq_iff] at humuted hvmuted
  rw [State.ShutdownSent, not_or, not_not] at hsent
  rw [hsplit, ← routed_coreRun hrun]
  refine Exchange.taken_of_routed_before hu ?_ ?_ hv ?_
  · rw [humuted]
    exact hsent.1
  · rw [humuted]
    exact hsent.2
  · rw [hvmuted]
    simp [hstopped]

/-! ### The end of the dispatcher -/

/-- What the dispatcher and the runner have seen when they stop. -/
structure Ceased (s : State) : Prop where
  expecting : s.expecting = false → s.core.keeper = .stopped ∧ s.queue = []
  dispatching : s.dispatching = false → s.expecting = false ∧ s.jobs = [] ∧ s.emitting = []
  done : ∀ how, s.runner = .done how → s.core.keeper = .stopped ∧ s.dispatching = false

theorem Ceased.same (h : Ceased s) (hlasts : Exchange.Lasts s.core t.core)
    (hexpecting : t.expecting = s.expecting) (htaken : t.taken = s.taken)
    (hdispatching : t.dispatching = s.dispatching) (hjobs : t.jobs = s.jobs)
    (hemitting : t.emitting = s.emitting)
    (hrunner : ∀ how, t.runner = .done how → s.runner = .done how) : Ceased t where
  expecting ht := by
    obtain ⟨hstopped, hqueue⟩ := h.expecting (hexpecting ▸ ht)
    obtain ⟨hstopped', hforwarded⟩ := hlasts.stopped hstopped
    refine ⟨hstopped', ?_⟩
    rw [State.queue, hforwarded, htaken]
    exact hqueue
  dispatching ht := by
    rw [hexpecting, hjobs, hemitting]
    exact h.dispatching (hdispatching ▸ ht)
  done how ht := by
    obtain ⟨hstopped, hceased⟩ := h.done how (hrunner how ht)
    exact ⟨(hlasts.stopped hstopped).1, hdispatching.trans hceased⟩

theorem Ceased.step (h : Ceased s) (hmove : Move s a t) : Ceased t := by
  have hlasts := hmove.lasts
  cases hmove with
  | take hexpecting hqueue hjob =>
      refine ⟨fun ht => ?_, fun ht => ?_, fun how ht => ?_⟩
      · rw [hexpecting] at ht
        cases ht
      · rw [(h.dispatching ht).1] at hexpecting
        cases hexpecting
      · rw [(h.dispatching (h.done how ht).2).1] at hexpecting
        cases hexpecting
  | expectNone hexpecting hqueue hkeeper =>
      exact ⟨fun _ => ⟨hkeeper, hqueue⟩, fun ht => ⟨rfl, (h.dispatching ht).2⟩, h.done⟩
  | grow houtcome hfetch hgrowth =>
      refine ⟨h.expecting, fun ht => ?_, h.done⟩
      rw [(h.dispatching ht).2.1] at hfetch
      cases hfetch
  | collect hemitting hjobs hlines =>
      refine ⟨h.expecting, fun ht => ?_, h.done⟩
      rw [(h.dispatching ht).2.1] at hjobs
      cases hjobs
  | emit hemitting =>
      refine ⟨h.expecting, fun ht => ?_, h.done⟩
      rw [(h.dispatching ht).2.2] at hemitting
      cases hemitting
  | ceaseDispatching hdispatching hexpecting hjobs hemitting =>
      exact ⟨h.expecting, fun _ => ⟨hexpecting, hjobs, hemitting⟩,
        fun how ht => ⟨(h.done how ht).1, rfl⟩⟩
  | finish hrunner hfinished =>
      refine ⟨h.expecting, h.dispatching, fun _ _ => ?_⟩
      simp only [State.allFinished, Bool.and_eq_true, Bool.not_eq_true', beq_iff_eq] at hfinished
      exact ⟨hfinished.1.2, hfinished.2⟩
  | observe hrunner hend hask =>
      exact h.same hlasts rfl rfl rfl rfl rfl (fun how ht => by cases ht)
  | join hrunner hdone =>
      exact h.same hlasts rfl rfl rfl rfl rfl (fun how ht => by cases ht)
  | _ => exact h.same hlasts rfl rfl rfl rfl rfl (fun _ ht => ht)

theorem ceased_of_run (hrun : run? (opened options) as = some s) : Ceased s := by
  rw [run?_eq_follow] at hrun
  refine Run.follow_keeps (fun u a v hstep h => h.step (move_of_step hstep)) ?_ hrun
  exact ⟨by simp [opened], by simp [opened], by simp [opened]⟩

/-! ### The output -/

/-- What has been handed over are the groups of the first frames passed on, and a beginning of the
    next one. -/
theorem Dispatched.output (h : Dispatched options as s groups) :
    ∃ (complete : List (List String)) (part : List String),
      s.emissions.map Emission.line = complete.flatten ++ part ∧
      complete.length ≤ s.core.forwarded.length ∧
      (∀ i lines, complete[i]? = some lines → Group options as s i lines) ∧
      (part = [] ∨ ∃ next, Group options as s complete.length next ∧ part <+: next) := by
  have hlength : groups.length ≤ s.core.forwarded.length := by
    have htaken := h.taken_eq
    have hle := h.taken_le
    omega
  have hemitted := h.emitted
  rcases h.emitting with hnil | ⟨init, last, rfl, part, rfl⟩
  · rw [hnil] at hemitted
    exact ⟨groups, [], hemitted ▸ by simp, hlength, fun _ _ hgroup => h.group hgroup, Or.inl rfl⟩
  · -- of the last group, what is not handed over yet is cut off
    rw [List.flatten_append, List.flatten_singleton, ← List.append_assoc,
      List.append_cancel_right_eq] at hemitted
    rw [List.length_append, List.length_singleton] at hlength
    refine ⟨init, part, hemitted, by omega, fun i lines hgroup => h.group ?_, Or.inr ?_⟩
    · rw [List.getElem?_append_left (List.getElem?_eq_some_iff.mp hgroup).1]
      exact hgroup
    · refine ⟨part ++ s.emitting, h.group ?_, List.prefix_append _ _⟩
      rw [List.getElem?_append_right (Nat.le_refl _), Nat.sub_self]
      rfl

/-- When the dispatcher has nothing left, the groups of all frames passed on were handed over. -/
theorem Dispatched.output_all (h : Dispatched options as s groups) (hqueue : s.queue = [])
    (hjobs : s.jobs = []) (hemitting : s.emitting = []) :
    s.emissions.map Emission.line = groups.flatten ∧ groups.length = s.core.forwarded.length := by
  have hemitted := h.emitted
  have htaken := h.taken_eq
  have hle := h.taken_le
  rw [hemitting, List.append_nil] at hemitted
  rw [hjobs, List.length_nil, Nat.add_zero] at htaken
  rw [State.queue, List.drop_eq_nil_iff] at hqueue
  exact ⟨hemitted, by omega⟩

theorem Dispatched.output_done (h : Dispatched options as s groups)
    (hrun : run? (opened options) as = some s) {how : Ending} (hdone : s.runner = .done how) :
    s.emissions.map Emission.line = groups.flatten ∧ groups.length = s.core.forwarded.length := by
  have hceased := ceased_of_run hrun
  obtain ⟨-, hdispatching⟩ := hceased.done how hdone
  obtain ⟨hexpecting, hjobs, hemitting⟩ := hceased.dispatching hdispatching
  obtain ⟨-, hqueue⟩ := hceased.expecting hexpecting
  exact h.output_all hqueue hjobs hemitting

end ConsoleTap.Session
