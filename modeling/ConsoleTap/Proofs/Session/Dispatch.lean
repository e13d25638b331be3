import ConsoleTap.Proofs.Exchange.Lasting
import ConsoleTap.Proofs.Session.Core
import ConsoleTap.Proofs.Session.Drafts

/-!
# What the dispatcher has done

The dispatcher takes the frames that were passed on one after another, makes a job of
each and hands over the lines of the first job when it is finished.  So what it has
handed over are the lines of the first frames, group by group, and its jobs belong to
the frames after them.  Every call that fetches for a job was begun for its frame, by
taking the frame or by the outcome of a call begun for it; no call serves two frames.
-/

namespace ConsoleTap.Session

open ConsoleTap.Json
open ConsoleTap.Exchange (Lasts Outcome)

/-- A moment in a run of a session. -/
abbrev Moment := Run.Moment State Action

/-- The moment belongs to the run of a session from its start by these actions. -/
def Occurs (options : Options) (as : List Action) (m : Moment) : Prop :=
  m.In step? (opened options) as

/-- The call was begun in that step. -/
def Begins (n : Nat) (m : Moment) : Prop :=
  m.state.core.calls.length ≤ n ∧ n < m.next.core.calls.length

/-- The call was begun for the frame of that number: when the dispatcher took the frame, or when
    the outcome of a call begun for it was put in its place. -/
inductive BegunFor (options : Options) (as : List Action) (i : Nat) : Nat → Prop where
  | taken {m : Moment} {n : Nat} (hm : Occurs options as m) (haction : m.action = .take)
      (hi : m.state.taken = i) (hn : Begins n m) : BegunFor options as i n
  | grown {m : Moment} {parent n : Nat} (hm : Occurs options as m)
      (haction : m.action = .grow parent) (hparent : BegunFor options as i parent)
      (hn : Begins n m) : BegunFor options as i n

/-- The step begins calls for the frame of that number. -/
def Serves (options : Options) (as : List Action) (s : State) (a : Action) (i : Nat) : Prop :=
  (a = .take ∧ s.taken = i) ∨ ∃ parent, a = .grow parent ∧ BegunFor options as i parent

/-- The call of that number fetches the properties of that object. -/
def State.IsFetch (s : State) (n : Nat) (objectId : String) : Prop :=
  ∃ c limit, s.core.calls[n]? = some c ∧ c.method = Target.getProperties ∧
    c.params = some (Target.propertiesParams objectId) ∧ c.limit = some limit

/-- The calls are those that were begun for the frame of that number, each of them once, and
    they fetch what they are said to. -/
structure Owned (options : Options) (as : List Action) (s : State) (i : Nat) (fetches : Fetches) :
    Prop where
  nodup : (fetches.map Prod.fst).Nodup
  begun : ∀ n, n ∈ fetches.map Prod.fst ↔ BegunFor options as i n
  fetch : ∀ x ∈ fetches, s.IsFetch x.1 x.2

/-- The lines are those of the frame of that number that was passed on, complete. -/
def Group (options : Options) (as : List Action) (s : State) (i : Nat) (lines : List String) :
    Prop :=
  ∃ frame fetches, s.core.forwarded[i]? = some frame ∧ Owned options as s i fetches ∧
    LinesOf s.core.outcome? options.maxDepth frame fetches lines

/-- The job is that of the frame of that number that was passed on, in the making. -/
def Making (options : Options) (as : List Action) (s : State) (i : Nat) (job : Job) : Prop :=
  ∃ frame fetches, s.core.forwarded[i]? = some frame ∧ Owned options as s i fetches ∧
    JobOf s.core.outcome? options.maxDepth frame fetches job

/-- What the dispatcher has handed over and what it is making belong to the frames passed on, in
    their order. -/
structure Dispatched (options : Options) (as : List Action) (s : State)
    (groups : List (List String)) : Prop where
  options_eq : s.options = options
  taken_eq : s.taken = groups.length + s.jobs.length
  taken_le : s.taken ≤ s.core.forwarded.length
  group : ∀ {i : Nat} {lines : List String}, groups[i]? = some lines → Group options as s i lines
  job : ∀ {j : Nat} {job : Job}, s.jobs[j]? = some job →
    Making options as s (groups.length + j) job
  emitted : s.emissions.map Emission.line ++ s.emitting = groups.flatten
  emitting : s.emitting = [] ∨ ∃ init last, groups = init ++ [last] ∧ s.emitting <:+ last

variable {options : Options} {s t : State} {a : Action} {as : List Action} {i j n : Nat}
  {groups : List (List String)} {fetches : Fetches}

/-! ### Calls and the frames they serve -/

theorem Occurs.run {m : Moment} (hm : Occurs options as m) :
    run? (opened options) m.before = some m.state := by
  rw [run?_eq_follow]
  exact hm.2.1

theorem Occurs.move {m : Moment} (hm : Occurs options as m) : Move m.state m.action m.next :=
  move_of_step hm.2.2

theorem Occurs.earlier {m r : Moment} (hm : Occurs options as m) (hr : Occurs options m.before r) :
    Occurs options as r ∧ r.Earlier m :=
  Run.Moment.In.earlier hm hr

theorem exists_moment {P : State → Prop} (hrun : run? (opened options) as = some s) (hs : P s)
    (hstart : ¬ P (opened options)) : ∃ m, Occurs options as m ∧ ¬ P m.state ∧ P m.next := by
  rw [run?_eq_follow] at hrun
  exact Run.exists_turn hstart hrun hs

theorem Move.lasts (hmove : Move s a t) : Lasts s.core t.core := by
  obtain ⟨u, hrun, hmuted⟩ := hmove.core_run
  exact (Exchange.lasts_of_run hrun).of_muted hmuted

theorem lasts_of_run {bs : List Action} (hrun : run? s bs = some t) : Lasts s.core t.core := by
  rw [run?_eq_follow] at hrun
  exact Run.follow_keeps (P := fun u => Lasts s.core u.core)
    (fun _ _ _ hstep h => h.trans (move_of_step hstep).lasts) (Lasts.refl _) hrun

theorem Begins.unique {m m' : Moment} (hm : Occurs options as m) (hm' : Occurs options as m')
    (hn : Begins n m) (hn' : Begins n m') : m = m' := by
  refine Run.Moment.In.eq_of_lasts (P := fun u => n < u.core.calls.length) ?_ hm hm' hn.2 hn'.2
    (Nat.not_lt.mpr hn.1) (Nat.not_lt.mpr hn'.1)
  intro u b v hstep hlt
  exact hlt.trans_le (move_of_step hstep).lasts.length_calls

/-- No call serves two frames. -/
theorem BegunFor.unique (h : BegunFor options as i n) (h' : BegunFor options as j n) :
    i = j := by
  induction h with
  | taken hm haction hi hn =>
      cases h' with
      | taken hm' haction' hi' hn' =>
          obtain rfl := hn.unique hm hm' hn'
          exact hi.symm.trans hi'
      | grown hm' haction' hparent' hn' =>
          obtain rfl := hn.unique hm hm' hn'
          rw [haction] at haction'
          cases haction'
  | grown hm haction hparent hn ih =>
      cases h' with
      | taken hm' haction' hi' hn' =>
          obtain rfl := hn.unique hm hm' hn'
          rw [haction] at haction'
          cases haction'
      | grown hm' haction' hparent' hn' =>
          obtain rfl := hn.unique hm hm' hn'
          rw [haction] at haction'
          obtain rfl := Action.grow.inj haction'
          exact ih hparent'

theorem BegunFor.snoc (h : BegunFor options as i n) (a : Action) :
    BegunFor options (as ++ [a]) i n := by
  induction h with
  | taken hm haction hi hn => exact .taken (Run.Moment.In.snoc hm a) haction hi hn
  | grown hm haction _ hn ih => exact .grown (Run.Moment.In.snoc hm a) haction ih hn

theorem Move.grown_lt (hmove : Move s (.grow n) t) : n < s.core.calls.length := by
  cases hmove with
  | grow houtcome hfetch hgrowth =>
      obtain ⟨c, hcall, -⟩ := Option.bind_eq_some_iff.mp houtcome
      exact (List.getElem?_eq_some_iff.mp hcall).1

theorem Move.takes_one (hmove : Move s .take t) : t.taken = s.taken + 1 := by
  cases hmove with
  | take hexpecting hqueue hjob => rfl

theorem Move.taken_le (hmove : Move s a t) : s.taken ≤ t.taken := by
  cases hmove <;> simp

theorem BegunFor.of_snoc (hrun : run? (opened options) as = some s) (hstep : step? s a = some t)
    (h : BegunFor options (as ++ [a]) i n) :
    BegunFor options as i n ∨ (Begins n ⟨as, s, a, t⟩ ∧ Serves options as s a i) := by
  have hfollow := hrun
  rw [run?_eq_follow] at hfollow
  induction h with
  | taken hm haction hi hn =>
      rcases Run.Moment.in_snoc hfollow hstep hm with hm | rfl
      · exact Or.inl (.taken hm haction hi hn)
      · exact Or.inr ⟨hn, Or.inl ⟨haction, hi⟩⟩
  | grown hm haction _ hn ih =>
      have hmove := hm.move
      have hlt := (haction ▸ hmove).grown_lt
      rcases Run.Moment.in_snoc hfollow hstep hm with hm | rfl
      · rcases ih with hparent | ⟨hnew, -⟩
        · exact Or.inl (.grown hm haction hparent hn)
        · obtain ⟨rest, hrest⟩ := Run.Moment.In.after hm hfollow
          rw [← run?_eq_follow] at hrest
          have hle := hmove.lasts.length_calls.trans (lasts_of_run hrest).length_calls
          exact absurd (hlt.trans_le hle) (Nat.not_lt.mpr hnew.1)
      · rcases ih with hparent | ⟨hnew, -⟩
        · exact Or.inr ⟨hn, Or.inr ⟨_, haction, hparent⟩⟩
        · exact absurd hlt (Nat.not_lt.mpr hnew.1)

theorem BegunFor.lt_taken (h : BegunFor options as i n)
    (hrun : run? (opened options) as = some s) : i < s.taken := by
  rw [run?_eq_follow] at hrun
  induction h with
  | taken hm haction hi hn =>
      refine Run.Moment.In.lasts_to_end (P := fun u => i < u.taken)
        (fun u b v hstep hlt => hlt.trans_le (move_of_step hstep).taken_le) hm hrun ?_
      have hmove := hm.move
      rw [haction] at hmove
      rw [← hi, hmove.takes_one]
      exact Nat.lt_succ_self _
  | grown hm haction _ hn ih => exact ih

theorem State.IsFetch.call {objectId : String} (h : s.IsFetch n objectId) :
    ∃ c limit, s.core.calls[n]? = some c ∧ c.limit = some limit := by
  obtain ⟨c, limit, hcall, -, -, hlimit⟩ := h
  exact ⟨c, limit, hcall, hlimit⟩

theorem State.IsFetch.lasts {objectId : String} (h : s.IsFetch n objectId)
    (hlasts : Lasts s.core t.core) : t.IsFetch n objectId := by
  obtain ⟨c, limit, hcall, hmethod, hparams, hlimit⟩ := h
  obtain ⟨c', hcall', hmethod', hparams', hlimit'⟩ := hlasts.call hcall
  exact ⟨c', limit, hcall', hmethod'.trans hmethod, hparams'.trans hparams,
    hlimit'.trans hlimit⟩

theorem Owned.snoc (h : Owned options as s i fetches)
    (hrun : run? (opened options) as = some s) (hstep : step? s a = some t)
    (hother : t.core.calls.length = s.core.calls.length ∨ ¬ Serves options as s a i) :
    Owned options (as ++ [a]) t i fetches := by
  refine ⟨h.nodup, fun n => ⟨fun hn => ((h.begun n).mp hn).snoc a, fun hn => ?_⟩,
    fun x hx => (h.fetch x hx).lasts (move_of_step hstep).lasts⟩
  rcases hn.of_snoc hrun hstep with hn | ⟨hnew, hserves⟩
  · exact (h.begun n).mpr hn
  · rcases hother with hlength | hother
    · exact absurd (hnew.2.trans_eq hlength) (Nat.not_lt.mpr hnew.1)
    · exact absurd hserves hother

theorem Owned.perm {fetches' : Fetches} (h : Owned options as s i fetches)
    (hperm : fetches'.Perm fetches) : Owned options as s i fetches' :=
  ⟨(hperm.map _).nodup_iff.mpr h.nodup, fun n => (hperm.map _).mem_iff.trans (h.begun n),
    fun x hx => h.fetch x (hperm.mem_iff.mp hx)⟩

theorem getElem?_of_forwarded_prefix {frame : Value} (hlasts : Lasts s.core t.core)
    (hframe : s.core.forwarded[i]? = some frame) : t.core.forwarded[i]? = some frame := by
  obtain ⟨later, hlater⟩ := hlasts.forwarded
  rw [← hlater, List.getElem?_append_left (List.getElem?_eq_some_iff.mp hframe).1, hframe]

theorem LinesOf.mono {outcome? outcome?' : Nat → Option Outcome} {hops : Nat} {frame : Value}
    {lines : List String} (h : LinesOf outcome? hops frame fetches lines)
    (hkept : ∀ n o, outcome? n = some o → outcome?' n = some o) :
    LinesOf outcome?' hops frame fetches lines := by
  unfold LinesOf at h ⊢
  split
  · rename_i heq
    rw [heq] at h
    exact h
  · rename_i heq
    rw [heq] at h
    obtain ⟨nodes, hexpanded, hlines⟩ := h
    exact ⟨nodes, hexpanded.mono hkept, hlines⟩

theorem JobOf.mono {outcome? outcome?' : Nat → Option Outcome} {hops : Nat} {frame : Value}
    {job : Job} (h : JobOf outcome? hops frame fetches job)
    (hkept : ∀ n o, outcome? n = some o → outcome?' n = some o) :
    JobOf outcome?' hops frame fetches job := by
  unfold JobOf at h ⊢
  split
  · rename_i heq
    rw [heq] at h
    exact h
  · rename_i heq
    rw [heq] at h
    obtain ⟨drafts, hdrafted, hjob⟩ := h
    exact ⟨drafts, hdrafted.mono hkept, hjob⟩

theorem Group.snoc {lines : List String} (h : Group options as s i lines)
    (hrun : run? (opened options) as = some s) (hstep : step? s a = some t)
    (hother : t.core.calls.length = s.core.calls.length ∨ ¬ Serves options as s a i) :
    Group options (as ++ [a]) t i lines := by
  obtain ⟨frame, fetches, hframe, howned, hlines⟩ := h
  have hlasts := (move_of_step hstep).lasts
  exact ⟨frame, fetches, getElem?_of_forwarded_prefix hlasts hframe,
    howned.snoc hrun hstep hother, hlines.mono hlasts.outcome⟩

theorem Making.snoc {job : Job} (h : Making options as s i job)
    (hrun : run? (opened options) as = some s) (hstep : step? s a = some t)
    (hother : t.core.calls.length = s.core.calls.length ∨ ¬ Serves options as s a i) :
    Making options (as ++ [a]) t i job := by
  obtain ⟨frame, fetches, hframe, howned, hjob⟩ := h
  have hlasts := (move_of_step hstep).lasts
  exact ⟨frame, fetches, getElem?_of_forwarded_prefix hlasts hframe,
    howned.snoc hrun hstep hother, hjob.mono hlasts.outcome⟩

/-! ### Jobs -/

theorem JobOf.lines {outcome? : Nat → Option Outcome} {hops : Nat} {frame : Value} {job : Job}
    {ls : List String} (h : JobOf outcome? hops frame fetches job) (hlines : job.lines? = some ls) :
    LinesOf outcome? hops frame fetches ls := by
  unfold JobOf at h
  unfold LinesOf
  split
  · rename_i heq
    rw [heq] at h
    obtain ⟨hfetches, rfl⟩ := h
    exact ⟨hfetches, (Option.some.inj hlines).symm⟩
  · rename_i heq
    rw [heq] at h
    obtain ⟨drafts, hdrafted, rfl⟩ := h
    obtain ⟨nodes, hnodes, rfl⟩ := Option.map_eq_some_iff.mp hlines
    exact ⟨nodes, hdrafted.expanded hnodes, rfl⟩

theorem jobOf_ofFrame (outcome? : Nat → Option Outcome) (hops next : Nat) (frame : Value) :
    JobOf outcome? hops frame (fetchesFrom next (Job.ofFrame hops next frame).2)
      (Job.ofFrame hops next frame).1 := by
  unfold JobOf Job.ofFrame
  cases Print.Printout.ofFrame frame with
  | lines ls => exact ⟨rfl, rfl⟩
  | call kind args => exact ⟨_, drafted_ofObjects outcome? hops next args, rfl⟩

theorem JobOf.fetch?_eq_none {outcome? : Nat → Option Outcome} {hops : Nat} {frame : Value}
    {job : Job} (h : JobOf outcome? hops frame fetches job) (hn : n ∉ fetches.map Prod.fst) :
    job.fetch? n = none := by
  unfold JobOf at h
  split at h
  · obtain ⟨-, rfl⟩ := h
    rfl
  · obtain ⟨drafts, hdrafted, rfl⟩ := h
    exact hdrafted.fetch?_eq_none hn

theorem JobOf.fill_eq_self {outcome? : Nat → Option Outcome} {hops : Nat} {frame : Value}
    {job : Job} {part : Draft} (h : JobOf outcome? hops frame fetches job)
    (hn : job.fetch? n = none) : job.fill n part = job := by
  unfold JobOf at h
  split at h
  · obtain ⟨-, rfl⟩ := h
    rfl
  · obtain ⟨drafts, hdrafted, rfl⟩ := h
    rw [Job.fill, hdrafted.fill_eq_self hn]

/-- An outcome in its place gives a job of the same frame. -/
theorem JobOf.grow {outcome? : Nat → Option Outcome} {hops next : Nat} {frame : Value} {job : Job}
    {fetch : Fetch} {outcome : Outcome} (h : JobOf outcome? hops frame fetches job)
    (hnodup : (fetches.map Prod.fst).Nodup) (hfetch : job.fetch? n = some fetch)
    (houtcome : outcome? n = some outcome) :
    ∃ fetches', JobOf outcome? hops frame fetches'
        (job.fill n (fetch.grow next outcome).part) ∧
      fetches'.Perm (fetches ++ fetchesFrom next (fetch.grow next outcome).handles) := by
  unfold JobOf at h
  split at h
  · obtain ⟨-, rfl⟩ := h
    cases hfetch
  · rename_i kind args heq
    obtain ⟨drafts, hdrafted, rfl⟩ := h
    obtain ⟨fetches', hdrafted', hperm⟩ := hdrafted.grow hnodup hfetch houtcome
    refine ⟨fetches', ?_, hperm⟩
    unfold JobOf
    rw [heq]
    exact ⟨_, hdrafted', rfl⟩

theorem Making.begunFor {job : Job} {fetch : Fetch} (h : Making options as s i job)
    (hfetch : job.fetch? n = some fetch) : BegunFor options as i n := by
  obtain ⟨frame, fetches, -, howned, hjob⟩ := h
  apply (howned.begun n).mp
  by_contra hn
  rw [hjob.fetch?_eq_none hn] at hfetch
  cases hfetch

/-! ### Calls that are begun -/

theorem mem_map_fetchesFrom {next : Nat} {handles : List String} :
    n ∈ (fetchesFrom next handles).map Prod.fst ↔ next ≤ n ∧ n < next + handles.length := by
  rw [map_fst_fetchesFrom, List.mem_range'_1]

section Begun

variable {notices : List Notice} {handles : List String} {timeout : Nat}

theorem isFetch_of_extended
    (hcore : t.core = extended s.core notices (handles.map (fetchCall timeout))) :
    ∀ x ∈ fetchesFrom s.core.calls.length handles, t.IsFetch x.1 x.2 := by
  intro x hx
  obtain ⟨k, hk⟩ := List.mem_iff_getElem?.mp hx
  obtain ⟨hnumber, hhandle⟩ := List.getElem?_zip_eq_some.mp hk
  obtain ⟨hlt, hnumber⟩ := List.getElem?_eq_some_iff.mp hnumber
  rw [List.getElem_range', Nat.one_mul] at hnumber
  refine ⟨fetchCall timeout x.2, timeout, ?_, rfl, rfl, rfl⟩
  rw [hcore, ← hnumber]
  simp only [extended]
  rw [List.getElem?_append_right (Nat.le_add_right _ _), Nat.add_sub_cancel_left,
    List.getElem?_map, hhandle]
  rfl

theorem begins_iff_of_extended
    (hcore : t.core = extended s.core notices (handles.map (fetchCall timeout))) :
    Begins n ⟨as, s, a, t⟩ ↔
      n ∈ (fetchesFrom s.core.calls.length handles).map Prod.fst := by
  rw [mem_map_fetchesFrom, Begins, hcore]
  simp [extended]

/-- The calls that a step begins for a frame are added to those that it has. -/
theorem Owned.extend (h : Owned options as s i fetches)
    (hrun : run? (opened options) as = some s) (hstep : step? s a = some t)
    (hserves : Serves options as s a i)
    (hcore : t.core = extended s.core notices (handles.map (fetchCall timeout))) :
    Owned options (as ++ [a]) t i
      (fetches ++ fetchesFrom s.core.calls.length handles) := by
  have hlast : Occurs options (as ++ [a]) ⟨as, s, a, t⟩ :=
    Run.Moment.in_last ((run?_eq_follow _ _).symm.trans hrun) hstep
  refine ⟨?_, fun n => ?_, fun x hx => ?_⟩
  · -- the new numbers are beyond those of all calls so far
    rw [List.map_append, List.nodup_append]
    refine ⟨h.nodup, ?_, ?_⟩
    · rw [map_fst_fetchesFrom]
      exact List.nodup_range'
    · intro n hn k hk hnk
      obtain ⟨x, hx, rfl⟩ := List.mem_map.mp hn
      obtain ⟨c, limit, hcall, -⟩ := h.fetch x hx
      have hlt := (List.getElem?_eq_some_iff.mp hcall).1
      have hle := (mem_map_fetchesFrom.mp hk).1
      omega
  · rw [List.map_append, List.mem_append]
    constructor
    · rintro (hn | hn)
      · exact ((h.begun n).mp hn).snoc a
      · have hn : Begins n ⟨as, s, a, t⟩ := (begins_iff_of_extended hcore).mpr hn
        rcases hserves with ⟨haction, hi⟩ | ⟨parent, haction, hparent⟩
        · exact .taken hlast haction hi hn
        · exact .grown hlast haction (hparent.snoc a) hn
    · intro hn
      rcases hn.of_snoc hrun hstep with hn | ⟨hnew, -⟩
      · exact Or.inl ((h.begun n).mpr hn)
      · exact Or.inr ((begins_iff_of_extended hcore).mp hnew)
  · rcases List.mem_append.mp hx with hx | hx
    · exact (h.fetch x hx).lasts (move_of_step hstep).lasts
    · exact isFetch_of_extended hcore x hx

end Begun

theorem owned_nil (hrun : run? (opened options) as = some s) (hi : s.taken ≤ i) :
    Owned options as s i [] := by
  refine ⟨List.nodup_nil, fun n => ?_, fun x hx => absurd hx List.not_mem_nil⟩
  refine ⟨fun hn => absurd hn List.not_mem_nil, fun hn => ?_⟩
  exact absurd (hn.lt_taken hrun) (Nat.not_lt.mpr hi)

end ConsoleTap.Session
