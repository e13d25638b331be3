import ConsoleTap.Proofs.Exchange.Cause

/-!
# What becomes of a frame

A frame that the keeper takes either resolves the request that is pending under its id
or is passed on, and those that are passed on keep their order.  As no frame is taken
twice, each has one place among the frames passed on, and no two share a place.
-/

namespace ConsoleTap.Exchange

open ConsoleTap.Json

variable {s : State} {as : List Action} {i k k' : Nat} {frame : Value}

/-- The frame that arrived after `k` others resolved no request, and `i` of those taken before
    it resolved none either. -/
def PassedOn (as : List Action) (k i : Nat) : Prop :=
  ∃ m frame, Occurs as m ∧ (taken m.before).length = k ∧ (events m.before).length = i ∧
    Takes frame m.state m.action ∧ m.state.awaited? frame = none

theorem events_sublist_taken (as : List Action) : List.Sublist (events as) (taken as) :=
  Run.along_sublist (f := eventFrame) (fun _ _ => List.filter_sublist) {} as

theorem eventFrame_of_takes {s : State} {a : Action} (htakes : Takes frame s a)
    (hreply : s.awaited? frame = none) : eventFrame s a = [frame] := by
  simp [eventFrame, takes_iff.mp htakes, hreply]

theorem Occurs.events_getElem? {m : Moment} (hm : Occurs as m)
    (htakes : Takes frame m.state m.action) (hreply : m.state.awaited? frame = none) :
    (events as)[(events m.before).length]? = some frame := by
  obtain ⟨later, hlater⟩ := Run.Moment.In.along_snoc_prefix eventFrame hm
  rw [eventFrame_of_takes htakes hreply] at hlater
  rw [events, events, ← hlater, List.append_assoc, List.getElem?_append_right (Nat.le_refl _),
    Nat.sub_self]
  rfl

/-- Every frame that the keeper takes resolves a request, or is passed on. -/
theorem fate_of_taken (hrun : run? {} as = some s) (hk : (taken as)[k]? = some frame) :
    (∃ n, ResolvedBy as k n) ∨ ∃ i, PassedOn as k i ∧ (events as)[i]? = some frame := by
  obtain ⟨m, hm, htakes, rfl⟩ := exists_takes hrun hk
  cases hreply : m.state.awaited? frame with
  | some p => exact Or.inl ⟨p.call, m, p, frame, hm, rfl, ⟨htakes, hreply⟩, rfl⟩
  | none =>
      exact Or.inr ⟨_, ⟨m, frame, hm, rfl, rfl, htakes, hreply⟩, hm.events_getElem? htakes hreply⟩

/-- No two frames have one place among those passed on. -/
theorem PassedOn.unique (h : PassedOn as k i) (h' : PassedOn as k' i) : k = k' := by
  have hlt : ∀ {m m' : Moment} {frame : Value}, Occurs as m → Occurs as m' →
      Takes frame m.state m.action → m.state.awaited? frame = none → m.Earlier m' →
      (events m.before).length < (events m'.before).length := by
    intro m m' frame hm hm' htakes hreply hearlier
    have hle := (Run.Moment.In.along_prefix eventFrame hm hm' hearlier).length_le
    rw [eventFrame_of_takes htakes hreply, List.length_append] at hle
    exact hle
  obtain ⟨m, frame, hm, rfl, hi, htakes, hreply⟩ := h
  obtain ⟨m', frame', hm', rfl, hi', htakes', hreply'⟩ := h'
  rcases Nat.lt_trichotomy m.before.length m'.before.length with hearlier | heq | hearlier
  · have := hlt hm hm' htakes hreply hearlier
    omega
  · rw [Run.Moment.In.eq_of_length hm hm' heq]
  · have := hlt hm' hm htakes' hreply' hearlier
    omega

/-- A frame that was passed on is the one of that number that arrived and the one of that place
    among those passed on. -/
theorem PassedOn.exists_frame (h : PassedOn as k i) :
    ∃ frame, (routed as)[k]? = some frame ∧ (events as)[i]? = some frame := by
  obtain ⟨m, frame, hm, rfl, rfl, htakes, hreply⟩ := h
  exact ⟨frame, hm.routed_getElem? htakes, hm.events_getElem? htakes hreply⟩

theorem exists_passedOn (hrun : run? {} as = some s) (hi : (events as)[i]? = some frame) :
    ∃ k, PassedOn as k i := by
  rw [run?_eq_follow] at hrun
  obtain ⟨m, hm, j, hj, hij⟩ := Run.exists_moment_of_along eventFrame hrun hi
  obtain ⟨htaken, hnone⟩ := List.mem_filter.mp (List.mem_of_getElem? hj)
  rw [Option.isNone_iff_eq_none] at hnone
  have htakes := mem_takenFrame.mp htaken
  rw [eventFrame_of_takes htakes hnone] at hj
  have hzero : j = 0 := Nat.lt_one_iff.mp (List.getElem?_eq_some_iff.mp hj).1
  refine ⟨_, m, frame, hm, rfl, ?_, htakes, hnone⟩
  rw [hij, hzero]
  rfl

/-- A frame is passed on to one place only. -/
theorem PassedOn.place_unique {i' : Nat} (h : PassedOn as k i) (h' : PassedOn as k i') :
    i = i' := by
  obtain ⟨m, frame, hm, hk, rfl, htakes, -⟩ := h
  obtain ⟨m', frame', hm', hk', rfl, htakes', -⟩ := h'
  rw [hm.eq_of_taken hm' htakes htakes' (hk.trans hk'.symm)]

/-- No frame that resolves a request is passed on. -/
theorem ResolvedBy.not_passedOn {n : Nat} (h : ResolvedBy as k n) : ¬ PassedOn as k i := by
  obtain ⟨m, p, frame, hm, hk, hanswers, -⟩ := h
  rintro ⟨m', frame', hm', hk', -, htakes', hnone⟩
  obtain rfl := hm.eq_of_taken hm' hanswers.1 htakes' (hk.trans hk'.symm)
  have hframe := (takes_iff.mp hanswers.1).symm.trans (takes_iff.mp htakes')
  obtain rfl := (List.cons.inj hframe).1
  rw [hanswers.2] at hnone
  cases hnone

theorem ResolvedBy.lt_taken {n : Nat} (h : ResolvedBy as k n) : k < (taken as).length := by
  obtain ⟨m, p, frame, hm, rfl, hanswers, -⟩ := h
  exact hm.taken_lt hanswers.1

theorem PassedOn.lt_taken (h : PassedOn as k i) : k < (taken as).length := by
  obtain ⟨m, frame, hm, rfl, -, htakes, -⟩ := h
  exact hm.taken_lt htakes

end ConsoleTap.Exchange
