import ConsoleTap.Proofs.Session.Dispatch

/-!
# Places in drafts

A draft waits for calls, and each call that it waits for has one place in it, with so many
hops left below.  A draft that was just made waits for the calls that were begun for it,
one hop further down; and when an outcome is put in its place, the places are the others
and those of the draft that the outcome leaves.
-/

namespace ConsoleTap.Session

open ConsoleTap.Json ConsoleTap.Target ConsoleTap.Print
open ConsoleTap.Exchange (Outcome)

variable {outcome? : Nat → Option Outcome} {hops n n' next : Nat} {objects : List RemoteObject}
  {fetches : Fetches} {drafts : List Draft} {part : Draft} {fetch fetch' : Fetch} {outcome : Outcome}

theorem Drafted.mem_fetches (h : Drafted outcome? hops objects fetches drafts)
    (hfetch : drafts.findSome? (Draft.fetch? n) = some fetch) : n ∈ fetches.map Prod.fst := by
  by_contra hn
  rw [h.fetch?_eq_none hn] at hfetch
  cases hfetch

/-! ### Drafts that were just made -/

theorem Drafted.hops_eq (h : Drafted (fun _ => none) hops objects fetches drafts)
    (hfetch : drafts.findSome? (Draft.fetch? n) = some fetch) : fetch.hops + 1 = hops := by
  induction h with
  | nil => cases hfetch
  | plain hplain _ ih => exact ih hfetch
  | fetching hhandle _ ih =>
      rw [List.findSome?_cons, Draft.fetch?] at hfetch
      split at hfetch
      · rename_i hplace
        split at hplace
        · obtain rfl := Option.some.inj hfetch
          obtain rfl := Option.some.inj hplace
          rfl
        · cases hplace
      · exact ih hfetch
  | failed hhandle houtcome => cases houtcome
  | fetched hhandle houtcome => cases houtcome

theorem place_of_ofObjects
    (hfetch : (Draft.ofObjects hops next objects).1.findSome? (Draft.fetch? n) = some fetch) :
    fetch.hops + 1 = hops ∧ next ≤ n ∧ n < next + (Draft.ofObjects hops next objects).2.length := by
  have hdrafted := drafted_ofObjects (fun _ => none) hops next objects
  exact ⟨hdrafted.hops_eq hfetch, mem_map_fetchesFrom.mp (hdrafted.mem_fetches hfetch)⟩

/-- A draft that an outcome leaves has places only if the outcome brought something. -/
theorem place_of_grow (hfetch : (fetch.grow next outcome).part.fetch? n = some fetch') :
    (∃ v, outcome = .ok v) ∧ fetch'.hops + 1 = fetch.hops ∧ next ≤ n ∧
      n < next + (fetch.grow next outcome).handles.length := by
  cases hproperties : fetchedProperties outcome with
  | error cause => simp [Fetch.grow, hproperties, Draft.fetch?] at hfetch
  | ok properties =>
      simp only [Fetch.grow, hproperties, Draft.fetch?] at hfetch ⊢
      rw [entriesFetch?_zip (drafted_ofObjects (fun _ => none) _ _ _).length_names] at hfetch
      refine ⟨?_, place_of_ofObjects hfetch⟩
      cases outcome with
      | ok v => exact ⟨v, rfl⟩
      | error cause => cases hproperties

theorem place_of_ofFrame {frame : Value} {job : Job} {handles : List String}
    (hjob : Job.ofFrame hops next frame = (job, handles)) (hfetch : job.fetch? n = some fetch) :
    fetch.hops + 1 = hops ∧ next ≤ n ∧ n < next + handles.length := by
  unfold Job.ofFrame at hjob
  split at hjob
  · obtain ⟨rfl, -⟩ := Prod.mk.inj hjob
    cases hfetch
  · obtain ⟨rfl, rfl⟩ := Prod.mk.inj hjob
    exact place_of_ofObjects hfetch

/-! ### Outcomes in their places -/

theorem Drafted.place_of_fill (h : Drafted outcome? hops objects fetches drafts)
    (hnodup : (fetches.map Prod.fst).Nodup)
    (hfetch : (drafts.map (Draft.fill n part)).findSome? (Draft.fetch? n') = some fetch) :
    drafts.findSome? (Draft.fetch? n') = some fetch ∨ part.fetch? n' = some fetch := by
  induction h with
  | nil => cases hfetch
  | plain hplain _ ih => exact ih hnodup hfetch
  | failed hhandle houtcome hcause _ ih =>
      simp only [List.map_cons, List.nodup_cons] at hnodup
      exact ih hnodup.2 hfetch
  | @fetching hops call o objectId objects fetches drafts hhandle hrest ih =>
      simp only [List.map_cons, List.nodup_cons] at hnodup
      rw [List.map_cons, List.findSome?_cons, Draft.fill] at hfetch
      rw [List.findSome?_cons, Draft.fetch?]
      by_cases hplace : call = n'
      · -- the other values do not wait for this call
        subst hplace
        have hnone : drafts.findSome? (Draft.fetch? call) = none := hrest.fetch?_eq_none hnodup.1
        rw [if_pos rfl]
        by_cases hcall : call = n
        · rw [if_pos hcall] at hfetch
          split at hfetch
          · rename_i hpart
            exact Or.inr (hpart.trans hfetch)
          · rw [hcall] at hnone hfetch
            rw [hrest.fill_eq_self hnone, hnone] at hfetch
            cases hfetch
        · rw [if_neg hcall, Draft.fetch?, if_pos rfl] at hfetch
          exact Or.inl hfetch
      · rw [if_neg hplace]
        split at hfetch
        · rename_i hpart
          by_cases hcall : call = n
          · rw [if_pos hcall] at hpart
            exact Or.inr (hpart.trans hfetch)
          · rw [if_neg hcall, Draft.fetch?, if_neg hplace] at hpart
            cases hpart
        · exact ih hnodup.2 hfetch
  | @fetched hops call o objectId outcome properties objects below fetches parts drafts hhandle
      houtcome hproperties hbelow hrest ihbelow ih =>
      simp only [List.map_cons, List.map_append, List.nodup_cons, List.nodup_append] at hnodup
      obtain ⟨-, hnodupBelow, hnodupRest, hdisjoint⟩ := hnodup
      rw [List.map_cons, List.findSome?_cons, Draft.fill, entriesFill_zip, Draft.fetch?,
        entriesFetch?_zip (hbelow.length_names.trans (List.length_map _).symm)] at hfetch
      rw [List.findSome?_cons, Draft.fetch?, entriesFetch?_zip hbelow.length_names]
      split at hfetch
      · rename_i hparts
        obtain rfl := Option.some.inj hfetch
        rcases ihbelow hnodupBelow hparts with hplace | hpart
        · exact Or.inl (by rw [hplace])
        · exact Or.inr hpart
      · rcases ih hnodupRest hfetch with hplace | hpart
        · have hn : n' ∉ below.map Prod.fst := fun hmem =>
            hdisjoint n' hmem n' (hrest.mem_fetches hplace) rfl
          exact Or.inl (by rw [hbelow.fetch?_eq_none hn]; exact hplace)
        · exact Or.inr hpart

theorem JobOf.place_of_fill {frame : Value} {job : Job} (h : JobOf outcome? hops frame fetches job)
    (hnodup : (fetches.map Prod.fst).Nodup) (hfetch : (job.fill n part).fetch? n' = some fetch) :
    job.fetch? n' = some fetch ∨ part.fetch? n' = some fetch := by
  unfold JobOf at h
  split at h
  · obtain ⟨-, rfl⟩ := h
    cases hfetch
  · obtain ⟨drafts, hdrafted, rfl⟩ := h
    exact hdrafted.place_of_fill hnodup hfetch

/-! ### The calls that a draft waits for -/

theorem entriesCalls_zip {names : List String} {parts : List Draft}
    (hlength : names.length = parts.length) :
    Draft.entriesCalls (names.zip parts) = parts.flatMap Draft.calls := by
  induction names generalizing parts with
  | nil =>
      obtain rfl := List.eq_nil_of_length_eq_zero hlength.symm
      rfl
  | cons name names ih =>
      cases parts with
      | nil => simp at hlength
      | cons d parts =>
          simp only [List.length_cons, Nat.add_right_cancel_iff] at hlength
          rw [List.zip_cons_cons, Draft.entriesCalls, ih hlength, List.flatMap_cons]

theorem Drafted.calls_subset (h : Drafted outcome? hops objects fetches drafts) :
    drafts.flatMap Draft.calls ⊆ fetches.map Prod.fst := by
  induction h with
  | nil => exact List.Subset.refl []
  | plain hplain _ ih => exact ih
  | fetching hhandle _ ih => exact List.cons_subset_cons _ ih
  | failed hhandle houtcome hcause _ ih => exact List.subset_cons_of_subset _ ih
  | fetched hhandle houtcome hproperties hbelow _ ihbelow ih =>
      rw [List.flatMap_cons, Draft.calls, entriesCalls_zip hbelow.length_names, List.map_cons,
        List.map_append]
      apply List.subset_cons_of_subset
      apply List.append_subset.mpr
      exact ⟨List.subset_append_of_subset_left _ ihbelow, List.subset_append_of_subset_right _ ih⟩

/-- What an outcome leaves waits for new calls, and for none if the outcome is an error. -/
theorem Fetch.calls_grow (hn : n ∈ (fetch.grow next outcome).part.calls) :
    next ≤ n ∧ ∃ v, outcome = .ok v := by
  cases hproperties : fetchedProperties outcome with
  | error cause => simp [Fetch.grow, hproperties, Draft.calls] at hn
  | ok properties =>
      have hdrafted := drafted_ofObjects (fun _ => none) fetch.hops next
        ((valued properties).map Prod.snd)
      simp only [Fetch.grow, hproperties, Draft.calls] at hn
      rw [entriesCalls_zip hdrafted.length_names] at hn
      refine ⟨(mem_map_fetchesFrom.mp (hdrafted.calls_subset hn)).1, ?_⟩
      cases outcome with
      | ok v => exact ⟨v, rfl⟩
      | error cause => cases hproperties

mutual

/-- In the place of a call stands what it leaves. -/
theorem Draft.calls_fill (n : Nat) (part : Draft) : (d : Draft) →
    (Draft.fill n part d).calls = d.calls.flatMap fun k => if k = n then part.calls else [k]
  | .finished _ => rfl
  | .fetching call objectId className hops => by
      rw [Draft.fill, Draft.calls, List.flatMap_singleton]
      split <;> rfl
  | .mapping className entries => by
      rw [Draft.fill, Draft.calls, Draft.calls, Draft.entriesCalls_fill n part entries]

theorem Draft.entriesCalls_fill (n : Nat) (part : Draft) : (entries : List (String × Draft)) →
    Draft.entriesCalls (Draft.entriesFill n part entries) =
      (Draft.entriesCalls entries).flatMap fun k => if k = n then part.calls else [k]
  | [] => rfl
  | (name, d) :: rest => by
      rw [Draft.entriesFill, Draft.entriesCalls, Draft.entriesCalls, List.flatMap_append,
        Draft.calls_fill n part d, Draft.entriesCalls_fill n part rest]

end

mutual

theorem Draft.mem_calls : (d : Draft) → d.fetch? n = some fetch → n ∈ d.calls
  | .finished _, h => by cases h
  | .fetching call objectId className hops, h => by
      rw [Draft.fetch?] at h
      split at h
      · rename_i hcall
        exact hcall ▸ List.mem_singleton_self call
      · cases h
  | .mapping className entries, h => Draft.mem_entriesCalls entries h

theorem Draft.mem_entriesCalls : (entries : List (String × Draft)) →
    Draft.entriesFetch? n entries = some fetch → n ∈ Draft.entriesCalls entries
  | [], h => by cases h
  | (name, d) :: rest, h => by
      rw [Draft.entriesFetch?, Option.or_eq_some_iff] at h
      rw [Draft.entriesCalls, List.mem_append]
      rcases h with h | ⟨-, h⟩
      · exact Or.inl (Draft.mem_calls d h)
      · exact Or.inr (Draft.mem_entriesCalls rest h)

end

theorem Job.calls_fill (job : Job) :
    (job.fill n part).calls = job.calls.flatMap fun k => if k = n then part.calls else [k] := by
  cases job with
  | lines ls => rfl
  | call kind args =>
      rw [Job.fill, Job.calls, Job.calls, List.flatMap_map, List.flatMap_assoc]
      simp only [Draft.calls_fill]

theorem Job.mem_calls {job : Job} (h : job.fetch? n = some fetch) : n ∈ job.calls := by
  cases job with
  | lines ls => cases h
  | call kind args =>
      obtain ⟨d, hd, hfetch⟩ := List.exists_of_findSome?_eq_some h
      exact List.mem_flatMap.mpr ⟨d, hd, d.mem_calls hfetch⟩

/-- No two jobs wait for the same call. -/
theorem Dispatched.fetch_unique {options : Options} {s : State} {as : List Action}
    {groups : List (List String)} {j : Nat} {job : Job} (h : Dispatched options as s groups)
    (hjob : s.jobs[j]? = some job) (hplace : job.fetch? n = some fetch')
    (hfetch : s.jobs.findSome? (Job.fetch? n) = some fetch) : fetch' = fetch := by
  obtain ⟨job', hmem, hplace'⟩ := List.exists_of_findSome?_eq_some hfetch
  obtain ⟨k, hk⟩ := List.mem_iff_getElem?.mp hmem
  have hserved := ((h.job hjob).begunFor hplace).unique ((h.job hk).begunFor hplace')
  obtain rfl : j = k := Nat.add_left_cancel hserved
  obtain rfl := Option.some.inj (hjob.symm.trans hk)
  exact Option.some.inj (hplace.symm.trans hplace')

end ConsoleTap.Session
