import ConsoleTap.Proofs.Print.Expansion
import ConsoleTap.Proofs.Session.Drafts

/-!
# Trees from a source that answers at once

If the outcome of every call brings what a source of properties has for the handle that
the call fetches, the trees made from the outcomes are those made from the source
directly, and the handles fetched are the same, in the order of the trees.
-/

namespace ConsoleTap.Session

open ConsoleTap.Json ConsoleTap.Target ConsoleTap.Print
open ConsoleTap.Exchange (Outcome)

variable {outcome? : Nat → Option Outcome} {source : PropertyLookup} {hops : Nat}
  {objects : List RemoteObject} {fetches : Fetches} {nodes : List Node}

/-- The outcomes of the calls bring what the source has. -/
def Agrees (outcome? : Nat → Option Outcome) (source : PropertyLookup) (fetches : Fetches) : Prop :=
  ∀ x ∈ fetches, ∀ o, outcome? x.1 = some o → fetchedProperties o = source x.2

theorem Agrees.mono {fetches' : Fetches} (h : Agrees outcome? source fetches)
    (hsubset : fetches' ⊆ fetches) : Agrees outcome? source fetches' :=
  fun x hx => h x (hsubset hx)

/-- The trees from the outcomes are those from the source. -/
theorem Expanded.eq_ofObject (h : Expanded outcome? hops objects fetches nodes)
    (hagrees : Agrees outcome? source fetches) :
    nodes = objects.map (fun o => (Expansion.ofObject source hops o).node) ∧
      fetches.map Prod.snd =
        objects.flatMap fun o => (Expansion.ofObject source hops o).fetched := by
  induction h with
  | nil => exact ⟨rfl, rfl⟩
  | plain hplain _ ih =>
      obtain ⟨hnodes, hfetched⟩ := ih hagrees
      rw [List.map_cons, List.flatMap_cons, ofObject_plain hplain, hnodes, hfetched]
      exact ⟨rfl, rfl⟩
  | failed hhandle houtcome hcause _ ih =>
      obtain ⟨hnodes, hfetched⟩ := ih (hagrees.mono (List.subset_cons_self _ _))
      have hsource := (hagrees _ List.mem_cons_self _ houtcome).symm.trans hcause
      rw [List.map_cons, List.map_cons, List.flatMap_cons, ofObject_failed hhandle hsource, hnodes,
        hfetched]
      exact ⟨rfl, rfl⟩
  | fetched hhandle houtcome hproperties _ _ ihbelow ih =>
      rename_i hops call o objectId outcome properties objects below fetches parts nodes _ _
      obtain ⟨hparts, hfetchedBelow⟩ := ihbelow (hagrees.mono fun x hx =>
        List.mem_cons_of_mem _ (List.mem_append_left _ hx))
      obtain ⟨hnodes, hfetched⟩ := ih (hagrees.mono fun x hx =>
        List.mem_cons_of_mem _ (List.mem_append_right _ hx))
      have hsource := (hagrees _ List.mem_cons_self _ houtcome).symm.trans hproperties
      rw [List.map_cons, List.map_cons, List.map_append, List.flatMap_cons,
        ofObject_fetched hhandle hsource, hnodes, hfetched, hparts, hfetchedBelow]
      constructor
      · have hentries : ((valued properties).map Prod.fst).zip
            (((valued properties).map Prod.snd).map fun o =>
              (Expansion.ofObject source hops o).node) =
            ((valued properties).map fun p => (p.1, Expansion.ofObject source hops p.2)).map
              fun e => (e.1, e.2.node) := by
          rw [List.map_map, List.map_map, List.zip_map']
          rfl
        rw [hentries]
        rfl
      · rw [Expansion.ofEntries, List.flatMap_map, List.flatMap_map]
        rfl

/-- The lines from the outcomes are those from the source. -/
theorem LinesOf.eq_printed {frame : Value} {lines : List String}
    (h : LinesOf outcome? hops frame fetches lines) (hagrees : Agrees outcome? source fetches) :
    lines = (Printed.ofFrame source hops frame).lines ∧
      fetches.map Prod.snd = (Printed.ofFrame source hops frame).fetched := by
  unfold LinesOf at h
  unfold Printed.ofFrame
  generalize Printout.ofFrame frame = printout at h ⊢
  cases printout with
  | lines ls =>
      obtain ⟨rfl, rfl⟩ := h
      exact ⟨rfl, rfl⟩
  | call kind args =>
      obtain ⟨nodes, hexpanded, rfl⟩ := h
      obtain ⟨hnodes, hfetched⟩ := hexpanded.eq_ofObject hagrees
      rw [hnodes, hfetched]
      simp [List.map_map, List.flatMap_map, Function.comp_def]

end ConsoleTap.Session
