import ConsoleTap.Proofs.Session.Dispatch

/-!
# What a failed fetch leaves in the output

The lines of a frame show what became of each of its fetches.  They are the lines of a job
that waits for one call only, with the tree that the call's outcome leaves put in its place;
for a fetch that failed this is the text that says why.
-/

namespace ConsoleTap.Session

open ConsoleTap.Json ConsoleTap.Target ConsoleTap.Print
open ConsoleTap.Exchange (Outcome)

variable {outcome? : Nat → Option Outcome} {hops n : Nat} {objects : List RemoteObject}
  {fetches : Fetches} {nodes : List Node} {outcome : Outcome} {cause : Fault}
  {options : Options} {as : List Action} {s : State} {i : Nat} {lines : List String}

/-- The lines are those of the frame of that number, and in their trees stands the given one in
    the place of the call. -/
def Shows (options : Options) (as : List Action) (s : State) (i n : Nat) (node : Node)
    (lines : List String) : Prop :=
  ∃ frame fetches job fetch, s.core.forwarded[i]? = some frame ∧ Owned options as s i fetches ∧
    JobOf s.core.outcome? options.maxDepth frame fetches job ∧ job.fetch? n = some fetch ∧
    (job.fill n (.finished node)).lines? = some lines

/-- Trees come from drafts that wait for nothing. -/
theorem Expanded.drafted (h : Expanded outcome? hops objects fetches nodes) :
    ∃ drafts, Drafted outcome? hops objects fetches drafts ∧
      drafts.mapM Draft.node? = some nodes ∧
      ∀ n, drafts.findSome? (Draft.fetch? n) = none := by
  induction h with
  | nil => exact ⟨[], .nil, rfl, fun _ => rfl⟩
  | plain hplain _ ih =>
      obtain ⟨drafts, hdrafted, hnodes, hnone⟩ := ih
      exact ⟨_, .plain hplain hdrafted, by simp [Draft.node?, hnodes], hnone⟩
  | failed hhandle houtcome hcause _ ih =>
      obtain ⟨drafts, hdrafted, hnodes, hnone⟩ := ih
      exact ⟨_, .failed hhandle houtcome hcause hdrafted, by simp [Draft.node?, hnodes], hnone⟩
  | fetched hhandle houtcome hproperties _ _ ihbelow ih =>
      obtain ⟨parts, hbelow, hparts, hnoneBelow⟩ := ihbelow
      obtain ⟨drafts, hdrafted, hnodes, hnone⟩ := ih
      refine ⟨_, .fetched hhandle houtcome hproperties hbelow hdrafted, ?_, fun n => ?_⟩
      · simp [Draft.node?, entries?_zip hbelow.length_names, hparts, hnodes]
      · rw [List.findSome?_cons, Draft.fetch?, entriesFetch?_zip hbelow.length_names,
          hnoneBelow n, hnone n]

/-- A failed fetch among those of some trees has its place in drafts that wait for nothing else,
    and the text that says why it failed belongs there. -/
theorem Expanded.exists_place (h : Expanded outcome? hops objects fetches nodes)
    (hn : n ∈ fetches.map Prod.fst) (houtcome : outcome? n = some outcome)
    (hfailed : fetchedProperties outcome = .error cause) :
    ∃ drafts fetch, Drafted outcome? hops objects fetches drafts ∧
      drafts.findSome? (Draft.fetch? n) = some fetch ∧
      (drafts.map (Draft.fill n (.finished (.text (failureText cause))))).mapM Draft.node? =
        some nodes := by
  induction h with
  | nil => cases hn
  | plain hplain _ ih =>
      obtain ⟨drafts, fetch, hdrafted, hfetch, hnodes⟩ := ih hn
      exact ⟨_, fetch, .plain hplain hdrafted, hfetch, by simp [Draft.fill, Draft.node?, hnodes]⟩
  | failed hhandle houtcome' hcause hrest ih =>
      rename_i call _ _ _ _ _ _ _
      by_cases hcall : call = n
      · subst hcall
        obtain rfl := Option.some.inj (houtcome.symm.trans houtcome')
        obtain rfl := Except.error.inj (hfailed.symm.trans hcause)
        obtain ⟨drafts, hdrafted, hnodes, hnone⟩ := hrest.drafted
        refine ⟨_, _, .fetching hhandle hdrafted, by
          rw [List.findSome?_cons, Draft.fetch?, if_pos rfl], ?_⟩
        rw [List.map_cons, Draft.fill, if_pos rfl, hdrafted.fill_eq_self (hnone _)]
        simp [Draft.node?, hnodes]
      · have hn : n ∈ List.map Prod.fst _ := (List.mem_cons.mp hn).resolve_left (Ne.symm hcall)
        obtain ⟨drafts, fetch, hdrafted, hfetch, hnodes⟩ := ih hn
        exact ⟨_, fetch, .failed hhandle houtcome' hcause hdrafted, hfetch, by
          simp [Draft.fill, Draft.node?, hnodes]⟩
  | fetched hhandle houtcome' hproperties hbelow hrest ihbelow ih =>
      rename_i call _ _ _ _ _ _ _ _ _
      have hcall : n ≠ call := by
        rintro rfl
        obtain rfl := Option.some.inj (houtcome.symm.trans houtcome')
        rw [hfailed] at hproperties
        cases hproperties
      rw [List.map_cons, List.map_append, List.mem_cons, List.mem_append] at hn
      rcases hn.resolve_left hcall with hn | hn
      · obtain ⟨parts, fetch, hdraftedBelow, hfetch, hparts⟩ := ihbelow hn
        obtain ⟨drafts, hdrafted, hnodes, hnone⟩ := hrest.drafted
        refine ⟨_, fetch, .fetched hhandle houtcome' hproperties hdraftedBelow hdrafted, ?_, ?_⟩
        · rw [List.findSome?_cons, Draft.fetch?, entriesFetch?_zip hdraftedBelow.length_names,
            hfetch]
        · rw [List.map_cons, Draft.fill, entriesFill_zip, hdrafted.fill_eq_self (hnone n)]
          simp [Draft.node?, entries?_zip (hdraftedBelow.length_names.trans
            (List.length_map _).symm), hparts, hnodes]
      · obtain ⟨parts, hdraftedBelow, hparts, hnoneBelow⟩ := hbelow.drafted
        obtain ⟨drafts, fetch, hdrafted, hfetch, hnodes⟩ := ih hn
        refine ⟨_, fetch, .fetched hhandle houtcome' hproperties hdraftedBelow hdrafted, ?_, ?_⟩
        · rw [List.findSome?_cons, Draft.fetch?, entriesFetch?_zip hdraftedBelow.length_names,
            hnoneBelow n, hfetch]
        · rw [List.map_cons, Draft.fill, entriesFill_zip,
            hdraftedBelow.fill_eq_self (hnoneBelow n)]
          simp [Draft.node?, entries?_zip hdraftedBelow.length_names, hparts, hnodes]

/-- The lines of a frame show why a fetch for it failed. -/
theorem Group.shows (h : Group options as s i lines) (hbegun : BegunFor options as i n)
    (houtcome : s.core.outcome? n = some (.error cause)) :
    Shows options as s i n (.text (failureText cause)) lines := by
  obtain ⟨frame, fetches, hframe, howned, hlines⟩ := h
  have hn := (howned.begun n).mpr hbegun
  unfold LinesOf at hlines
  split at hlines
  · obtain ⟨rfl, -⟩ := hlines
    cases hn
  · rename_i kind args hprintout
    obtain ⟨nodes, hexpanded, rfl⟩ := hlines
    obtain ⟨drafts, fetch, hdrafted, hfetch, hnodes⟩ := hexpanded.exists_place hn houtcome rfl
    refine ⟨frame, fetches, .call kind drafts, fetch, hframe, howned, ?_, hfetch, ?_⟩
    · rw [JobOf, hprintout]
      exact ⟨drafts, hdrafted, rfl⟩
    · rw [Job.fill, Job.lines?, hnodes, Option.map_some]

end ConsoleTap.Session
