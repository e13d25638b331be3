import Mathlib.Data.List.Infix

/-!
# Runs

The exchange and the session are each given by a partial step function.  A run is
a sequence of actions, each of which takes place in the state that the one
before it led to.  This file holds what is true of runs of any step function:
induction along a run, the moments of a run with their order in time, and what
the steps of a run give rise to.
-/

namespace ConsoleTap.Run

variable {σ α β : Type} {step : σ → α → Option σ} {s t u v : σ} {as bs : List α} {a : α}

/-- The state that a run leads to, if each of its actions can take place. -/
def follow (step : σ → α → Option σ) (s : σ) : List α → Option σ
  | [] => some s
  | a :: rest => (step s a).bind fun t => follow step t rest

theorem follow_append (s : σ) (as bs : List α) :
    follow step s (as ++ bs) = (follow step s as).bind fun t => follow step t bs := by
  induction as generalizing s with
  | nil => rfl
  | cons a rest ih =>
      simp only [List.cons_append, follow]
      cases step s a with
      | none => rfl
      | some t => exact ih t

theorem follow_snoc (hrun : follow step s as = some u) (hstep : step u a = some v) :
    follow step s (as ++ [a]) = some v := by
  rw [follow_append, hrun]
  simp [follow, hstep]

/-- What holds at the start and is handed on by every step holds along every run. -/
theorem follow_induction {motive : List α → σ → Prop} (hstart : motive [] s)
    (hstep : ∀ as u a v, follow step s as = some u → step u a = some v →
      motive as u → motive (as ++ [a]) v)
    (hrun : follow step s as = some t) : motive as t := by
  -- the induction is on what is left of the run, with the part already done in front
  have key : ∀ (rest done : List α) (u : σ), follow step s done = some u → motive done u →
      follow step u rest = some t → motive (done ++ rest) t := by
    intro rest
    induction rest with
    | nil =>
        intro done u _ hu hrest
        simp only [follow, Option.some.injEq] at hrest
        subst hrest
        simpa using hu
    | cons a rest ih =>
        intro done u hdone hu hrest
        simp only [follow] at hrest
        obtain ⟨v, hv, hrest⟩ := Option.bind_eq_some_iff.mp hrest
        have := ih (done ++ [a]) v (follow_snoc hdone hv) (hstep done u a v hdone hv hu) hrest
        simpa using this
  simpa using key as [] s rfl hstart hrun

theorem follow_keeps {P : σ → Prop} (hstep : ∀ u a v, step u a = some v → P u → P v)
    (hs : P s) (hrun : follow step s as = some t) : P t :=
  follow_induction (motive := fun _ u => P u) hs
    (fun _ u a v _ hv hu => hstep u a v hv hu) hrun

theorem follow_keeps_of_mem {P : σ → Prop}
    (hstep : ∀ a ∈ as, ∀ u v, step u a = some v → P u → P v) (hs : P s)
    (hrun : follow step s as = some t) : P t := by
  induction as generalizing s with
  | nil =>
      rw [follow, Option.some.injEq] at hrun
      exact hrun ▸ hs
  | cons a rest ih =>
      obtain ⟨u, hu, hrest⟩ := Option.bind_eq_some_iff.mp hrun
      refine ih (fun b hb => hstep b (List.mem_cons_of_mem a hb)) ?_ hrest
      exact hstep a List.mem_cons_self s u hu hs

/-! ### Moments -/

/-- A step of a run: the actions before it, its state and action, and the state
    that it leads to. -/
structure Moment (σ α : Type) where
  before : List α
  state : σ
  action : α
  next : σ

/-- The moment belongs to a run from `s`. -/
def Moment.In (step : σ → α → Option σ) (s : σ) (as : List α) (m : Moment σ α) : Prop :=
  m.before ++ [m.action] <+: as ∧ follow step s m.before = some m.state ∧
    step m.state m.action = some m.next

/-- The moment comes before the other one. -/
def Moment.Earlier (m m' : Moment σ α) : Prop := m.before.length < m'.before.length

theorem Moment.In.mono {m : Moment σ α} (hm : m.In step s as) (has : as <+: bs) :
    m.In step s bs :=
  ⟨hm.1.trans has, hm.2⟩

theorem Moment.In.snoc {m : Moment σ α} (hm : m.In step s as) (a : α) :
    m.In step s (as ++ [a]) :=
  hm.mono (List.prefix_append as [a])

/-- A moment of the run up to some moment is an earlier moment of the whole run. -/
theorem Moment.In.earlier {m q : Moment σ α} (hm : m.In step s as) (hq : q.In step s m.before) :
    q.In step s as ∧ q.Earlier m := by
  have hlength := hq.1.length_le
  rw [List.length_append] at hlength
  exact ⟨hq.mono ((List.prefix_append _ _).trans hm.1), hlength⟩

theorem Moment.in_last (hrun : follow step s as = some u) (hstep : step u a = some v) :
    Moment.In step s (as ++ [a]) ⟨as, u, a, v⟩ :=
  ⟨List.prefix_rfl, hrun, hstep⟩

/-- A moment of a longer run is one of the shorter run or the last one. -/
theorem Moment.in_of_getElem? {k : Nat} (ha : as[k]? = some a)
    (hstate : follow step s (as.take k) = some u) (hnext : step u a = some v) :
    Moment.In step s as ⟨as.take k, u, a, v⟩ := by
  refine ⟨?_, hstate, hnext⟩
  have hprefix := List.take_prefix (k + 1) as
  rwa [List.take_add_one, ha] at hprefix

theorem Moment.in_snoc {m : Moment σ α} (hrun : follow step s as = some u)
    (hstep : step u a = some v) (hm : m.In step s (as ++ [a])) :
    m.In step s as ∨ m = ⟨as, u, a, v⟩ := by
  obtain ⟨hbefore, hstate, hnext⟩ := hm
  rcases List.prefix_concat_iff.mp hbefore with heq | hinit
  · right
    obtain ⟨has, ha⟩ := List.append_inj' heq rfl
    obtain ⟨before, state, action, next⟩ := m
    simp only [List.cons.injEq, and_true] at has ha hstate hnext
    subst has ha
    rw [hrun, Option.some.injEq] at hstate
    subst hstate
    rw [hstep, Option.some.injEq] at hnext
    subst hnext
    rfl
  · exact Or.inl ⟨hinit, hstate, hnext⟩

/-- What holds at the start and is handed on at every moment of a run holds all along it. -/
theorem moments_induction {motive : List α → σ → Prop} (hstart : motive [] s)
    (hmoment : ∀ m : Moment σ α, m.In step s as → motive m.before m.state →
      motive (m.before ++ [m.action]) m.next)
    (hbs : bs <+: as) (hrun : follow step s bs = some t) : motive bs t := by
  refine follow_induction (motive := fun bs u => bs <+: as → motive bs u) (fun _ => hstart) ?_
    hrun hbs
  intro done u a v hdone hstep ih hinit
  exact hmoment ⟨done, u, a, v⟩ ⟨hinit, hdone, hstep⟩
    (ih ((List.prefix_append done [a]).trans hinit))

theorem Moment.In.after {m : Moment σ α} (hm : m.In step s as) (hrun : follow step s as = some t) :
    ∃ rest, follow step m.next rest = some t := by
  obtain ⟨⟨rest, hrest⟩, hstate, hnext⟩ := hm
  refine ⟨rest, ?_⟩
  rw [← hrest, follow_append, follow_snoc hstate hnext] at hrun
  exact hrun

theorem Moment.In.before_prefix {m m' : Moment σ α} (hm : m.In step s as) (hm' : m'.In step s as)
    (hearlier : m.Earlier m') : m.before ++ [m.action] <+: m'.before := by
  apply List.prefix_of_prefix_length_le hm.1 ((List.prefix_append _ _).trans hm'.1)
  rw [List.length_append]
  exact hearlier

theorem Moment.In.between {m m' : Moment σ α} (hm : m.In step s as) (hm' : m'.In step s as)
    (hearlier : m.Earlier m') : ∃ rest, follow step m.next rest = some m'.state :=
  Moment.In.after ⟨hm.before_prefix hm' hearlier, hm.2⟩ hm'.2.1

theorem Moment.In.eq_of_length {m m' : Moment σ α} (hm : m.In step s as) (hm' : m'.In step s as)
    (hlength : m.before.length = m'.before.length) : m = m' := by
  have hinit : m.before ++ [m.action] = m'.before ++ [m'.action] := by
    have := List.prefix_of_prefix_length_le hm.1 hm'.1 (by simp [hlength])
    exact this.eq_of_length (by simp [hlength])
  obtain ⟨hbefore, haction⟩ := List.append_inj' hinit rfl
  obtain ⟨_, hstate, hnext⟩ := hm
  obtain ⟨_, hstate', hnext'⟩ := hm'
  obtain ⟨before, state, action, next⟩ := m
  obtain ⟨before', state', action', next'⟩ := m'
  simp only [List.cons.injEq, and_true] at hbefore haction hstate hnext hstate' hnext'
  subst hbefore haction
  rw [hstate, Option.some.injEq] at hstate'
  subst hstate'
  rw [hnext, Option.some.injEq] at hnext'
  subst hnext'
  rfl

theorem exists_moment_of_mem (hrun : follow step s as = some t) (ha : a ∈ as) :
    ∃ m : Moment σ α, m.In step s as ∧ m.action = a := by
  refine follow_induction
    (motive := fun as _ => a ∈ as → ∃ m : Moment σ α, m.In step s as ∧ m.action = a)
    (fun h => absurd h List.not_mem_nil) ?_ hrun ha
  intro as u b v hrun hstep ih hmem
  rcases List.mem_append.mp hmem with hmem | hmem
  · obtain ⟨m, hm, haction⟩ := ih hmem
    exact ⟨m, hm.snoc b, haction⟩
  · rw [List.mem_singleton] at hmem
    exact ⟨_, Moment.in_last hrun hstep, hmem.symm⟩

/-- What does not hold at the start and holds at the end came about at some moment. -/
theorem exists_turn {P : σ → Prop} (hs : ¬ P s) (hrun : follow step s as = some t) (ht : P t) :
    ∃ m : Moment σ α, m.In step s as ∧ ¬ P m.state ∧ P m.next := by
  refine follow_induction
    (motive := fun as u => P u → ∃ m : Moment σ α, m.In step s as ∧ ¬ P m.state ∧ P m.next)
    (fun h => absurd h hs) ?_ hrun ht
  intro as u a v hrun hstep ih hv
  by_cases hu : P u
  · obtain ⟨m, hm, hturn⟩ := ih hu
    exact ⟨m, hm.snoc a, hturn⟩
  · exact ⟨_, Moment.in_last hrun hstep, hu, hv⟩

theorem Moment.In.lasts {P : σ → Prop} (hkeep : ∀ u a v, step u a = some v → P u → P v)
    {m m' : Moment σ α} (hm : m.In step s as) (hm' : m'.In step s as) (hearlier : m.Earlier m')
    (hP : P m.next) : P m'.state := by
  obtain ⟨rest, hrest⟩ := hm.between hm' hearlier
  exact follow_keeps hkeep hP hrest

theorem Moment.In.lasts_to_end {P : σ → Prop}
    (hkeep : ∀ u a v, step u a = some v → P u → P v) {m : Moment σ α} (hm : m.In step s as)
    (hrun : follow step s as = some t) (hP : P m.next) : P t := by
  obtain ⟨rest, hrest⟩ := hm.after hrun
  exact follow_keeps hkeep hP hrest

/-- What a moment brings about and every later moment of the run hands on lasts. -/
theorem Moment.In.lasts_along {P : σ → Prop} {m m' : Moment σ α} (hm : m.In step s as)
    (hkeep : ∀ q : Moment σ α, q.In step s as → m.Earlier q → P q.state → P q.next)
    (hm' : m'.In step s as) (hearlier : m.Earlier m') (hP : P m.next) : P m'.state := by
  refine moments_induction (motive := fun bs u => m.before.length < bs.length → P u)
    (fun h => absurd h (Nat.not_lt_zero _)) ?_ ((List.prefix_append _ _).trans hm'.1) hm'.2.1
    hearlier
  intro q hq ih hlt
  rw [List.length_append, List.length_singleton, Nat.lt_succ_iff] at hlt
  rcases Nat.lt_or_eq_of_le hlt with hlt | heq
  · exact hkeep q hq hlt (ih hlt)
  · exact hm.eq_of_length hq heq ▸ hP

/-- A moment of a kind that rules out its kind from then on is the only one. -/
theorem Moment.In.eq_of_lasts {P : σ → Prop}
    (hkeep : ∀ u a v, step u a = some v → P u → P v) {m m' : Moment σ α} (hm : m.In step s as)
    (hm' : m'.In step s as) (hnext : P m.next) (hnext' : P m'.next) (hstate : ¬ P m.state)
    (hstate' : ¬ P m'.state) : m = m' := by
  rcases Nat.lt_trichotomy m.before.length m'.before.length with hlt | heq | hgt
  · exact absurd (hm.lasts hkeep hm' hlt hnext) hstate'
  · exact hm.eq_of_length hm' heq
  · exact absurd (hm'.lasts hkeep hm hgt hnext') hstate

/-! ### What the steps give rise to -/

/-- What the steps of a run give rise to, in order. -/
def along (step : σ → α → Option σ) (f : σ → α → List β) (s : σ) : List α → List β
  | [] => []
  | a :: rest =>
      f s a ++
        match step s a with
        | some t => along step f t rest
        | none => []

theorem along_append (f : σ → α → List β) (s : σ) (as bs : List α)
    (hrun : follow step s as = some t) :
    along step f s (as ++ bs) = along step f s as ++ along step f t bs := by
  induction as generalizing s with
  | nil =>
      simp only [follow, Option.some.injEq] at hrun
      subst hrun
      rfl
  | cons a rest ih =>
      simp only [follow] at hrun
      obtain ⟨u, hu, hrun⟩ := Option.bind_eq_some_iff.mp hrun
      simp only [List.cons_append, along, hu, ih u hrun, List.append_assoc]

theorem along_snoc (f : σ → α → List β) (hrun : follow step s as = some u)
    (hstep : step u a = some v) :
    along step f s (as ++ [a]) = along step f s as ++ f u a := by
  rw [along_append f s as [a] hrun]
  simp [along, hstep]

theorem Moment.In.along_prefix (f : σ → α → List β) {m m' : Moment σ α} (hm : m.In step s as)
    (hm' : m'.In step s as) (hearlier : m.Earlier m') :
    along step f s m.before ++ f m.state m.action <+: along step f s m'.before := by
  obtain ⟨rest, hrest⟩ := hm.before_prefix hm' hearlier
  rw [← hrest, along_append f s _ rest (follow_snoc hm.2.1 hm.2.2), along_snoc f hm.2.1 hm.2.2]
  exact List.prefix_append _ _

/-- What a step gives rise to stands in the whole right after what came before it. -/
theorem Moment.In.along_snoc_prefix (f : σ → α → List β) {m : Moment σ α}
    (hm : m.In step s as) :
    along step f s m.before ++ f m.state m.action <+: along step f s as := by
  obtain ⟨rest, hrest⟩ := hm.1
  rw [← hrest, along_append f s _ rest (follow_snoc hm.2.1 hm.2.2), along_snoc f hm.2.1 hm.2.2]
  exact List.prefix_append _ _

/-- What the steps of a run gave rise to goes back to one of them. -/
theorem exists_moment_of_along (f : σ → α → List β) (hrun : follow step s as = some t) {k : Nat}
    {b : β} (hb : (along step f s as)[k]? = some b) :
    ∃ m : Moment σ α, m.In step s as ∧ ∃ j, (f m.state m.action)[j]? = some b ∧
      k = (along step f s m.before).length + j := by
  refine follow_induction
    (motive := fun as _ => (along step f s as)[k]? = some b →
      ∃ m : Moment σ α, m.In step s as ∧ ∃ j, (f m.state m.action)[j]? = some b ∧
        k = (along step f s m.before).length + j)
    (fun h => by simp [along] at h) ?_ hrun hb
  intro as u a v hrun hstep ih hb
  rw [along_snoc f hrun hstep] at hb
  by_cases hk : k < (along step f s as).length
  · rw [List.getElem?_append_left hk] at hb
    obtain ⟨m, hm, j, hj, heq⟩ := ih hb
    exact ⟨m, hm.snoc a, j, hj, heq⟩
  · rw [List.getElem?_append_right (Nat.not_lt.mp hk)] at hb
    exact ⟨_, Moment.in_last hrun hstep, _, hb, by simp only; omega⟩

theorem along_sublist {f g : σ → α → List β} (h : ∀ s a, List.Sublist (f s a) (g s a)) (s : σ)
    (as : List α) : List.Sublist (along step f s as) (along step g s as) := by
  induction as generalizing s with
  | nil => exact List.Sublist.refl []
  | cons a rest ih =>
      apply (h s a).append
      cases step s a with
      | none => exact List.Sublist.refl []
      | some t => exact ih t

theorem along_eq_nil (f : σ → α → List β) (hrun : follow step s as = some t)
    (h : ∀ m : Moment σ α, m.In step s as → f m.state m.action = []) : along step f s as = [] := by
  refine follow_induction
    (motive := fun as _ => (∀ m : Moment σ α, m.In step s as → f m.state m.action = []) →
      along step f s as = []) (fun _ => rfl) ?_ hrun h
  intro as u a v hrun hstep ih h
  rw [along_snoc f hrun hstep, ih fun m hm => h m (hm.snoc a), h _ (Moment.in_last hrun hstep)]
  rfl

/-- If one step only gives rise to anything, it gives rise to all there is. -/
theorem Moment.In.along_eq (f : σ → α → List β) (hrun : follow step s as = some t)
    {m : Moment σ α} (hm : m.In step s as)
    (honly : ∀ m' : Moment σ α, m'.In step s as → f m'.state m'.action ≠ [] → m' = m) :
    along step f s as = f m.state m.action := by
  obtain ⟨rest, hrest⟩ := hm.1
  have hnext := follow_snoc hm.2.1 hm.2.2
  have hbefore : along step f s m.before = [] := by
    refine along_eq_nil f hm.2.1 fun m' hm' => ?_
    obtain ⟨hm'as, hearlier⟩ := hm.earlier hm'
    by_contra hsome
    rw [honly m' hm'as hsome] at hearlier
    exact absurd hearlier (Nat.lt_irrefl _)
  have hafter : along step f m.next rest = [] := by
    rw [← hrest, follow_append, hnext] at hrun
    refine along_eq_nil f hrun fun m' hm' => ?_
    have hlater : Moment.In step s as
        ⟨m.before ++ [m.action] ++ m'.before, m'.state, m'.action, m'.next⟩ := by
      refine ⟨?_, by rw [follow_append, hnext]; exact hm'.2.1, hm'.2.2⟩
      rw [List.append_assoc, ← hrest]
      exact (List.prefix_append_right_inj _).mpr hm'.1
    by_contra hsome
    have hlength := congrArg (fun q => q.before.length) (honly _ hlater hsome)
    simp only [List.length_append, List.length_cons, List.length_nil] at hlength
    omega
  rw [← hrest, along_append f s _ rest hnext, along_snoc f hm.2.1 hm.2.2, hbefore, hafter,
    List.nil_append, List.append_nil]

/-- If at every moment one thing is what passes a test of another, so it is along the run. -/
theorem along_eq_filter (f g : σ → α → List β) (p : β → Bool) (hrun : follow step s as = some t)
    (h : ∀ m : Moment σ α, m.In step s as → f m.state m.action = (g m.state m.action).filter p) :
    along step f s as = (along step g s as).filter p := by
  refine follow_induction
    (motive := fun as _ => (∀ m : Moment σ α, m.In step s as →
      f m.state m.action = (g m.state m.action).filter p) →
        along step f s as = (along step g s as).filter p)
    (fun _ => rfl) ?_ hrun h
  intro as u a v hrun hstep ih h
  rw [along_snoc f hrun hstep, along_snoc g hrun hstep, List.filter_append,
    ih fun m hm => h m (hm.snoc a), h _ (Moment.in_last hrun hstep)]

end ConsoleTap.Run
