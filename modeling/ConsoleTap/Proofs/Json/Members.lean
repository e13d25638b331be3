import ConsoleTap.Json.Value
import Mathlib.Data.List.Induction
import Mathlib.Data.List.Nodup

/-!
# Members as they were written

Written members amount to an object in which every name is there once: at its first
position, with its last value.  So the members are those that were written exactly if no
name was written twice, and the member written last is the last one unless its name was
there before another one.
-/

namespace ConsoleTap.Json.Members

variable {ms written : Members} {name other : String} {v : Value}

/-! ### Setting one member -/

theorem get?_set (ms : Members) (name : String) (v : Value) (other : String) :
    get? (set ms name v) other = if name = other then some v else get? ms other := by
  induction ms with
  | nil => simp [set, get?]
  | cons m rest ih =>
      obtain ⟨n, w⟩ := m
      by_cases hname : n = name
      · subst hname
        by_cases hother : n = other <;> simp [set, get?, hother]
      · by_cases hother : n = other
        · subst hother
          simp [set, get?, hname, Ne.symm hname]
        · simp [set, get?, hname, hother, ih]

theorem names_set (ms : Members) (name : String) (v : Value) :
    (set ms name v).map Prod.fst =
      if name ∈ ms.map Prod.fst then ms.map Prod.fst else ms.map Prod.fst ++ [name] := by
  induction ms with
  | nil => simp [set]
  | cons m rest ih =>
      obtain ⟨n, w⟩ := m
      by_cases hname : n = name
      · simp [set, hname]
      · rw [set, if_neg hname, List.map_cons, List.map_cons, ih]
        by_cases hrest : name ∈ rest.map Prod.fst <;>
          simp only [hrest, List.mem_cons, Ne.symm hname, false_or, if_true, if_false,
            List.cons_append]

theorem set_of_not_mem (h : name ∉ ms.map Prod.fst) (v : Value) :
    set ms name v = ms ++ [(name, v)] := by
  induction ms with
  | nil => rfl
  | cons m rest ih =>
      rw [List.map_cons, List.mem_cons, not_or] at h
      rw [set, if_neg (Ne.symm h.1), ih h.2, List.cons_append]

theorem get?_of_mem (hnodup : (ms.map Prod.fst).Nodup) (hmem : (name, v) ∈ ms) :
    get? ms name = some v := by
  induction ms with
  | nil => cases hmem
  | cons m rest ih =>
      obtain ⟨n, w⟩ := m
      rw [List.map_cons, List.nodup_cons] at hnodup
      rcases List.mem_cons.mp hmem with heq | hrest
      · obtain ⟨rfl, rfl⟩ := Prod.mk.inj heq
        rw [get?, if_pos rfl]
      · have hne : n ≠ name := by
          rintro rfl
          exact hnodup.1 (List.mem_map.mpr ⟨_, hrest, rfl⟩)
        rw [get?, if_neg hne, ih hnodup.2 hrest]

theorem mem_of_get? (h : get? ms name = some v) : (name, v) ∈ ms := by
  induction ms with
  | nil => cases h
  | cons m rest ih =>
      obtain ⟨n, w⟩ := m
      rw [get?] at h
      split at h
      · rename_i hname
        obtain rfl := Option.some.inj h
        rw [hname]
        exact List.mem_cons_self
      · exact List.mem_cons_of_mem _ (ih h)

theorem get?_eq_none_iff : get? ms name = none ↔ name ∉ ms.map Prod.fst := by
  induction ms with
  | nil => simp [get?]
  | cons m rest ih =>
      rw [get?, List.map_cons, List.mem_cons, not_or]
      split
      · rename_i hname
        simp [hname]
      · rename_i hname
        rw [ih, and_iff_right (Ne.symm hname)]

@[simp] theorem get?_append (ms ms' : Members) (name : String) :
    get? (ms ++ ms') name = (get? ms name).or (get? ms' name) := by
  induction ms with
  | nil => rfl
  | cons m rest ih =>
      rw [List.cons_append, get?, get?]
      split
      · rfl
      · exact ih

/-- The order of members with different names does not matter to who looks them up. -/
theorem get?_perm {ms' : Members} (hnodup : (ms.map Prod.fst).Nodup) (hperm : ms.Perm ms')
    (name : String) : get? ms' name = get? ms name := by
  cases hget : get? ms name with
  | none =>
      rw [get?_eq_none_iff] at hget ⊢
      exact fun hmem => hget ((hperm.map Prod.fst).mem_iff.mpr hmem)
  | some v =>
      exact get?_of_mem ((hperm.map Prod.fst).nodup_iff.mp hnodup)
        (hperm.mem_iff.mp (mem_of_get? hget))

/-- Of members with different names, one is the last if its name is. -/
theorem getLast?_eq_some_iff (hnodup : (ms.map Prod.fst).Nodup) (hget : get? ms name = some v) :
    ms.getLast? = some (name, v) ↔ (ms.map Prod.fst).getLast? = some name := by
  rw [List.getLast?_map]
  constructor
  · intro h
    rw [h]
    rfl
  · intro h
    obtain ⟨⟨n, w⟩, hlast, rfl⟩ := Option.map_eq_some_iff.mp h
    have hw := get?_of_mem hnodup (List.mem_of_getLast? hlast)
    rw [hlast, Option.some.inj (hw.symm.trans hget)]

/-! ### What written members amount to -/

theorem ofWritten_snoc (written : List (String × Value)) (m : String × Value) :
    ofWritten (written ++ [m]) = set (ofWritten written) m.1 m.2 := by
  rw [ofWritten, List.foldl_append]
  rfl

/-- Every name stands where it was written first. -/
theorem names_ofWritten (written : List (String × Value)) :
    (ofWritten written).map Prod.fst = (written.map Prod.fst).eraseDups := by
  induction written using List.reverseRecOn with
  | nil => rfl
  | append_singleton rest m ih =>
      rw [ofWritten_snoc, names_set, ih, List.map_append, List.eraseDups_append]
      by_cases hm : m.1 ∈ rest.map Prod.fst
      · rw [if_pos (List.mem_eraseDups.mpr hm)]
        simp [List.removeAll, hm]
      · rw [if_neg (fun h => hm (List.mem_eraseDups.mp h))]
        simp [List.removeAll, hm, List.eraseDups_cons]

/-- A member that no later one of its name follows has the value that it was written with. -/
theorem get?_ofWritten_of_last {i : Nat} (hi : written[i]? = some (name, v))
    (hlast : name ∉ (written.map Prod.fst).drop (i + 1)) :
    get? (ofWritten written) name = some v := by
  induction written using List.reverseRecOn with
  | nil => cases hi
  | append_singleton rest m ih =>
      rw [ofWritten_snoc, get?_set]
      have hle : i ≤ rest.length := by
        have hlt := (List.getElem?_eq_some_iff.mp hi).1
        rw [List.length_append, List.length_singleton] at hlt
        exact Nat.le_of_lt_succ hlt
      rcases Nat.lt_or_eq_of_le hle with hlt | rfl
      · have hlength : i + 1 ≤ (rest.map Prod.fst).length := by
          rw [List.length_map]
          exact hlt
        rw [List.map_append, List.drop_append_of_le_length hlength, List.mem_append, not_or] at hlast
        have hm : m.1 ≠ name := fun hm => hlast.2 (by simp [hm])
        rw [List.getElem?_append_left hlt] at hi
        rw [if_neg hm, ih hi hlast.1]
      · obtain rfl : m = (name, v) := by simpa using hi
        rw [if_pos rfl]

theorem nodup_names_ofWritten (written : List (String × Value)) :
    ((ofWritten written).map Prod.fst).Nodup := by
  induction written using List.reverseRecOn with
  | nil => exact List.nodup_nil
  | append_singleton rest m ih =>
      rw [ofWritten_snoc, names_set]
      split
      · exact ih
      · rename_i hm
        rw [← List.concat_eq_append]
        exact ih.concat hm

/-- Every member was written, with its value and maybe more than once. -/
theorem mem_of_mem_set {m : String × Value} (h : m ∈ set ms name v) : m ∈ ms ∨ m = (name, v) := by
  induction ms with
  | nil => exact Or.inr (List.mem_singleton.mp h)
  | cons m' rest ih =>
      obtain ⟨n, w⟩ := m'
      rw [set] at h
      split at h
      · rename_i hname
        rcases List.mem_cons.mp h with rfl | hrest
        · exact Or.inr (by rw [hname])
        · exact Or.inl (List.mem_cons_of_mem _ hrest)
      · rcases List.mem_cons.mp h with rfl | hrest
        · exact Or.inl List.mem_cons_self
        · exact (ih hrest).imp_left (List.mem_cons_of_mem _)

theorem ofWritten_subset (written : List (String × Value)) : ofWritten written ⊆ written := by
  induction written using List.reverseRecOn with
  | nil => exact List.Subset.refl _
  | append_singleton rest m ih =>
      intro m' hm'
      rw [ofWritten_snoc] at hm'
      rw [List.mem_append, List.mem_singleton]
      exact (mem_of_mem_set hm').imp_left (@ih m')

theorem ofWritten_of_nodup (h : (written.map Prod.fst).Nodup) : ofWritten written = written := by
  induction written using List.reverseRecOn with
  | nil => rfl
  | append_singleton rest m ih =>
      rw [List.map_append, List.nodup_append] at h
      obtain ⟨hrest, -, hdisjoint⟩ := h
      have hm : m.1 ∉ rest.map Prod.fst := fun hmem => hdisjoint _ hmem m.1 (by simp) rfl
      rw [ofWritten_snoc, ih hrest, set_of_not_mem hm]

/-- The members are those that were written exactly if no name was written twice. -/
theorem ofWritten_eq_self_iff :
    ofWritten written = written ↔ (written.map Prod.fst).Nodup := by
  constructor
  · intro h
    rw [← h]
    exact nodup_names_ofWritten written
  · exact ofWritten_of_nodup

/-! ### The member written last -/

/-- Where a list is split off at the first of several equal names, the first part is the shortest
    and the second one the longest. -/
theorem subset_of_first_split {before after before' after' : List String} (hfirst : name ∉ before)
    (hsplit : before ++ name :: after = before' ++ name :: after') :
    before ⊆ before' ∧ after' ⊆ after := by
  rw [List.append_eq_append_iff] at hsplit
  rcases hsplit with ⟨between, rfl, hafter⟩ | ⟨between, rfl, hafter⟩
  · refine ⟨List.subset_append_left _ _, ?_⟩
    cases between with
    | nil =>
        obtain rfl := (List.cons.inj hafter).2
        exact List.Subset.refl _
    | cons n between =>
        obtain ⟨-, rfl⟩ := List.cons.inj hafter
        exact List.subset_append_of_subset_right _ (List.subset_cons_self _ _)
  · cases between with
    | nil =>
        obtain rfl := (List.cons.inj hafter).2
        exact ⟨by simp, List.Subset.refl _⟩
    | cons n between =>
        obtain ⟨rfl, -⟩ := List.cons.inj hafter
        exact absurd (List.mem_append_right _ List.mem_cons_self) hfirst

/-- Of names taken once each, the one added last is the last one unless another one comes after it
    for the first time. -/
theorem getLast?_eraseDups_snoc {names : List String} :
    (names ++ [name]).eraseDups.getLast? = some name ↔
      ∀ before after, names = before ++ name :: after → after ⊆ name :: before := by
  by_cases hmem : name ∈ names
  · obtain ⟨before, after, rfl, hfirst⟩ := List.eq_append_cons_of_mem hmem
    -- what comes after the name for the first time
    let fresh := (after.removeAll before).filter fun n => !n == name
    have hnames : ((before ++ name :: after) ++ [name]).eraseDups =
        before.eraseDups ++ name :: fresh.eraseDups := by
      rw [List.eraseDups_append, List.eraseDups_append]
      simp [List.removeAll, hfirst, List.eraseDups_cons, fresh]
    have hfresh : fresh = [] ↔ after ⊆ name :: before := by
      simp only [fresh, List.filter_eq_nil_iff, List.removeAll, List.mem_filter, List.subset_def,
        List.mem_cons]
      grind
    have hlast : (before.eraseDups ++ name :: fresh.eraseDups).getLast? = some name ↔
        fresh = [] := by
      rw [List.getLast?_append, List.getLast?_cons, Option.some_or, Option.some_inj]
      cases hlast : fresh.eraseDups.getLast? with
      | none =>
          rw [List.getLast?_eq_none_iff] at hlast
          refine iff_of_true rfl (List.eq_nil_iff_forall_not_mem.mpr fun n hn => ?_)
          exact absurd (List.mem_eraseDups.mpr hn) (hlast ▸ List.not_mem_nil)
      | some n =>
          have hn : n ∈ fresh := List.mem_eraseDups.mp (List.mem_of_getLast? hlast)
          refine iff_of_false (fun hname => ?_) (List.ne_nil_of_mem hn)
          obtain rfl : n = name := hname
          simp [fresh] at hn
    rw [hnames, hlast, hfresh]
    refine ⟨fun hsubset before' after' hsplit => ?_, fun hall => hall before after rfl⟩
    obtain ⟨hbefore, hafter⟩ := subset_of_first_split hfirst hsplit
    exact List.Subset.trans (List.Subset.trans hafter hsubset) (List.cons_subset_cons _ hbefore)
  · have hnames : (names ++ [name]).eraseDups = names.eraseDups ++ [name] := by
      rw [List.eraseDups_append]
      simp [List.removeAll, hmem, List.eraseDups_cons]
    rw [hnames, List.getLast?_concat]
    refine iff_of_true rfl fun before after hsplit => ?_
    exact absurd (hsplit ▸ List.mem_append_right _ List.mem_cons_self) hmem

end ConsoleTap.Json.Members
