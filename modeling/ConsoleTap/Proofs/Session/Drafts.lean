import ConsoleTap.Session.Draft
import Mathlib.Data.List.Nodup
import Mathlib.Data.List.Perm.Basic

/-!
# What drafts stand for

The trees of a frame are determined by the outcomes of the calls that fetch for it:
`Expanded` builds them from the outcomes alone, in the order of the trees, and lists
the calls with the handles that they fetch.  A draft is such a tree with some
outcomes missing, and `Drafted` is the relation for drafts.  Putting an outcome in its
place keeps the relation and adds the calls that this begins; a draft with every part
finished is the tree.
-/

namespace ConsoleTap.Session

open ConsoleTap.Json ConsoleTap.Target ConsoleTap.Print
open ConsoleTap.Exchange (Outcome)

/-- The calls that fetch for some values, in the order of their trees, each with the handle
    that it fetches. -/
abbrev Fetches := List (Nat × String)

/-! ### Trees from outcomes -/

/-- The trees of remote objects with so many hops left, from the outcomes of calls. -/
inductive Expanded (outcome? : Nat → Option Outcome) :
    Nat → List RemoteObject → Fetches → List Node → Prop where
  | nil {hops : Nat} : Expanded outcome? hops [] [] []
  | plain {hops : Nat} {o : RemoteObject} {objects : List RemoteObject} {fetches : Fetches}
      {nodes : List Node} (hplain : hops = 0 ∨ handle? o = none)
      (hrest : Expanded outcome? hops objects fetches nodes) :
      Expanded outcome? hops (o :: objects) fetches (unfetched o :: nodes)
  | failed {hops call : Nat} {o : RemoteObject} {objectId : String} {outcome : Outcome}
      {cause : Fault} {objects : List RemoteObject} {fetches : Fetches} {nodes : List Node}
      (hhandle : handle? o = some objectId) (houtcome : outcome? call = some outcome)
      (hcause : fetchedProperties outcome = .error cause)
      (hrest : Expanded outcome? (hops + 1) objects fetches nodes) :
      Expanded outcome? (hops + 1) (o :: objects) ((call, objectId) :: fetches)
        (.text (failureText cause) :: nodes)
  | fetched {hops call : Nat} {o : RemoteObject} {objectId : String} {outcome : Outcome}
      {properties : List PropertyDescriptor} {objects : List RemoteObject}
      {below fetches : Fetches} {parts nodes : List Node}
      (hhandle : handle? o = some objectId) (houtcome : outcome? call = some outcome)
      (hproperties : fetchedProperties outcome = .ok properties)
      (hbelow : Expanded outcome? hops ((valued properties).map Prod.snd) below parts)
      (hrest : Expanded outcome? (hops + 1) objects fetches nodes) :
      Expanded outcome? (hops + 1) (o :: objects) ((call, objectId) :: (below ++ fetches))
        (.mapping o.className (((valued properties).map Prod.fst).zip parts) :: nodes)

/-- The lines of a frame, from the outcomes of calls. -/
def LinesOf (outcome? : Nat → Option Outcome) (hops : Nat) (frame : Value) (fetches : Fetches)
    (lines : List String) : Prop :=
  match Printout.ofFrame frame with
  | .lines ls => fetches = [] ∧ lines = ls
  | .call kind args =>
      ∃ nodes, Expanded outcome? hops args fetches nodes ∧
        lines = callLines kind (nodes.map Rendered.ofNode)

/-! ### Drafts -/

/-- The drafts of remote objects with so many hops left, where some outcomes are put in their
    places and others are waited for. -/
inductive Drafted (outcome? : Nat → Option Outcome) :
    Nat → List RemoteObject → Fetches → List Draft → Prop where
  | nil {hops : Nat} : Drafted outcome? hops [] [] []
  | plain {hops : Nat} {o : RemoteObject} {objects : List RemoteObject} {fetches : Fetches}
      {drafts : List Draft} (hplain : hops = 0 ∨ handle? o = none)
      (hrest : Drafted outcome? hops objects fetches drafts) :
      Drafted outcome? hops (o :: objects) fetches (.finished (unfetched o) :: drafts)
  | fetching {hops call : Nat} {o : RemoteObject} {objectId : String}
      {objects : List RemoteObject} {fetches : Fetches} {drafts : List Draft}
      (hhandle : handle? o = some objectId)
      (hrest : Drafted outcome? (hops + 1) objects fetches drafts) :
      Drafted outcome? (hops + 1) (o :: objects) ((call, objectId) :: fetches)
        (.fetching call objectId o.className hops :: drafts)
  | failed {hops call : Nat} {o : RemoteObject} {objectId : String} {outcome : Outcome}
      {cause : Fault} {objects : List RemoteObject} {fetches : Fetches} {drafts : List Draft}
      (hhandle : handle? o = some objectId) (houtcome : outcome? call = some outcome)
      (hcause : fetchedProperties outcome = .error cause)
      (hrest : Drafted outcome? (hops + 1) objects fetches drafts) :
      Drafted outcome? (hops + 1) (o :: objects) ((call, objectId) :: fetches)
        (.finished (.text (failureText cause)) :: drafts)
  | fetched {hops call : Nat} {o : RemoteObject} {objectId : String} {outcome : Outcome}
      {properties : List PropertyDescriptor} {objects : List RemoteObject}
      {below fetches : Fetches} {parts drafts : List Draft}
      (hhandle : handle? o = some objectId) (houtcome : outcome? call = some outcome)
      (hproperties : fetchedProperties outcome = .ok properties)
      (hbelow : Drafted outcome? hops ((valued properties).map Prod.snd) below parts)
      (hrest : Drafted outcome? (hops + 1) objects fetches drafts) :
      Drafted outcome? (hops + 1) (o :: objects) ((call, objectId) :: (below ++ fetches))
        (.mapping o.className (((valued properties).map Prod.fst).zip parts) :: drafts)

/-- The job of a frame in the making. -/
def JobOf (outcome? : Nat → Option Outcome) (hops : Nat) (frame : Value) (fetches : Fetches)
    (job : Job) : Prop :=
  match Printout.ofFrame frame with
  | .lines ls => fetches = [] ∧ job = .lines ls
  | .call kind args =>
      ∃ drafts, Drafted outcome? hops args fetches drafts ∧ job = .call kind drafts

variable {outcome? outcome?' : Nat → Option Outcome} {hops n next : Nat}
  {objects : List RemoteObject} {fetches : Fetches} {drafts : List Draft} {part : Draft}

/-! ### Entries with their names -/

theorem entries?_zip {names : List String} {parts : List Draft}
    (hlength : names.length = parts.length) :
    Draft.entries? (names.zip parts) = (parts.mapM Draft.node?).map names.zip := by
  induction names generalizing parts with
  | nil =>
      obtain rfl := List.eq_nil_of_length_eq_zero hlength.symm
      rfl
  | cons name names ih =>
      cases parts with
      | nil => simp at hlength
      | cons d parts =>
          simp only [List.length_cons, Nat.add_right_cancel_iff] at hlength
          rw [List.zip_cons_cons, Draft.entries?, ih hlength, List.mapM_cons]
          cases d.node? with
          | none => rfl
          | some node => cases parts.mapM Draft.node? <;> rfl

theorem entriesFetch?_zip {names : List String} {parts : List Draft}
    (hlength : names.length = parts.length) :
    Draft.entriesFetch? n (names.zip parts) = parts.findSome? (Draft.fetch? n) := by
  induction names generalizing parts with
  | nil =>
      obtain rfl := List.eq_nil_of_length_eq_zero hlength.symm
      rfl
  | cons name names ih =>
      cases parts with
      | nil => simp at hlength
      | cons d parts =>
          simp only [List.length_cons, Nat.add_right_cancel_iff] at hlength
          rw [List.zip_cons_cons, Draft.entriesFetch?, ih hlength, List.findSome?_cons]
          cases d.fetch? n <;> rfl

theorem entriesFill_zip (names : List String) (parts : List Draft) :
    Draft.entriesFill n part (names.zip parts) = names.zip (parts.map (Draft.fill n part)) := by
  induction names generalizing parts with
  | nil => rfl
  | cons name names ih =>
      cases parts with
      | nil => rfl
      | cons d parts =>
          rw [List.zip_cons_cons, Draft.entriesFill, ih, List.map_cons, List.zip_cons_cons]

/-! ### The relation for drafts -/

theorem Drafted.length_eq (h : Drafted outcome? hops objects fetches drafts) :
    objects.length = drafts.length := by
  induction h <;> simp_all

theorem Drafted.length_names {properties : List PropertyDescriptor}
    (h : Drafted outcome? hops ((valued properties).map Prod.snd) fetches drafts) :
    ((valued properties).map Prod.fst).length = drafts.length := by
  rw [← h.length_eq, List.length_map, List.length_map]

theorem Drafted.mono (h : Drafted outcome? hops objects fetches drafts)
    (hkept : ∀ n o, outcome? n = some o → outcome?' n = some o) :
    Drafted outcome?' hops objects fetches drafts := by
  induction h with
  | nil => exact .nil
  | plain hplain _ ih => exact .plain hplain ih
  | fetching hhandle _ ih => exact .fetching hhandle ih
  | failed hhandle houtcome hcause _ ih => exact .failed hhandle (hkept _ _ houtcome) hcause ih
  | fetched hhandle houtcome hproperties _ _ ihbelow ih =>
      exact .fetched hhandle (hkept _ _ houtcome) hproperties ihbelow ih

theorem Expanded.mono {nodes : List Node} (h : Expanded outcome? hops objects fetches nodes)
    (hkept : ∀ n o, outcome? n = some o → outcome?' n = some o) :
    Expanded outcome?' hops objects fetches nodes := by
  induction h with
  | nil => exact .nil
  | plain hplain _ ih => exact .plain hplain ih
  | failed hhandle houtcome hcause _ ih => exact .failed hhandle (hkept _ _ houtcome) hcause ih
  | fetched hhandle houtcome hproperties _ _ ihbelow ih =>
      exact .fetched hhandle (hkept _ _ houtcome) hproperties ihbelow ih

/-- Drafts with every part finished are the trees. -/
theorem Drafted.expanded (h : Drafted outcome? hops objects fetches drafts) {nodes : List Node}
    (hnodes : drafts.mapM Draft.node? = some nodes) :
    Expanded outcome? hops objects fetches nodes := by
  induction h generalizing nodes with
  | nil =>
      obtain rfl := Option.some.inj hnodes
      exact .nil
  | plain hplain _ ih =>
      simp only [List.mapM_cons, Draft.node?, Option.pure_def, Option.bind_eq_bind,
        Option.bind_some, Option.bind_eq_some_iff, Option.some.injEq] at hnodes
      obtain ⟨rest, hrest, rfl⟩ := hnodes
      exact .plain hplain (ih hrest)
  | fetching hhandle _ ih => simp [Draft.node?] at hnodes
  | failed hhandle houtcome hcause _ ih =>
      simp only [List.mapM_cons, Draft.node?, Option.pure_def, Option.bind_eq_bind,
        Option.bind_some, Option.bind_eq_some_iff, Option.some.injEq] at hnodes
      obtain ⟨rest, hrest, rfl⟩ := hnodes
      exact .failed hhandle houtcome hcause (ih hrest)
  | fetched hhandle houtcome hproperties hbelow _ ihbelow ih =>
      simp only [List.mapM_cons, Draft.node?, entries?_zip hbelow.length_names, Option.pure_def,
        Option.bind_eq_bind, Option.bind_eq_some_iff, Option.map_eq_some_iff,
        Option.some.injEq] at hnodes
      obtain ⟨_, ⟨_, ⟨parts, hparts, rfl⟩, rfl⟩, rest, hrest, rfl⟩ := hnodes
      exact .fetched hhandle houtcome hproperties (ihbelow hparts) (ih hrest)

theorem Drafted.fetch?_eq_none (h : Drafted outcome? hops objects fetches drafts)
    (hn : n ∉ fetches.map Prod.fst) : drafts.findSome? (Draft.fetch? n) = none := by
  induction h with
  | nil => rfl
  | plain hplain _ ih => simpa [Draft.fetch?] using ih hn
  | fetching hhandle _ ih =>
      simp only [List.map_cons, List.mem_cons, not_or] at hn
      simpa [Draft.fetch?, Ne.symm hn.1] using ih hn.2
  | failed hhandle houtcome hcause _ ih =>
      simp only [List.map_cons, List.mem_cons, not_or] at hn
      simpa [Draft.fetch?] using ih hn.2
  | fetched hhandle houtcome hproperties hbelow _ ihbelow ih =>
      simp only [List.map_cons, List.map_append, List.mem_cons, List.mem_append, not_or] at hn
      rw [List.findSome?_cons, Draft.fetch?, entriesFetch?_zip hbelow.length_names,
        ihbelow hn.2.1, ih hn.2.2]

theorem Drafted.finished (h : Drafted outcome? hops objects fetches drafts)
    (hnone : ∀ n, ∀ d ∈ drafts, d.fetch? n = none) :
    ∃ nodes, drafts.mapM Draft.node? = some nodes := by
  induction h with
  | nil => exact ⟨[], rfl⟩
  | plain hplain _ ih =>
      rename_i o _ _ _ _
      obtain ⟨nodes, hnodes⟩ := ih fun n d hd => hnone n d (List.mem_cons_of_mem _ hd)
      exact ⟨unfetched o :: nodes, by simp [Draft.node?, hnodes]⟩
  | fetching hhandle _ ih =>
      rename_i call _ _ _ _ _ _
      have hcall := hnone call _ List.mem_cons_self
      simp [Draft.fetch?] at hcall
  | failed hhandle houtcome hcause _ ih =>
      rename_i cause _ _ _ _
      obtain ⟨nodes, hnodes⟩ := ih fun n d hd => hnone n d (List.mem_cons_of_mem _ hd)
      exact ⟨.text (failureText cause) :: nodes, by simp [Draft.node?, hnodes]⟩
  | fetched hhandle houtcome hproperties hbelow _ ihbelow ih =>
      rename_i o _ _ properties _ _ _ _ _ _
      obtain ⟨parts, hparts⟩ := ihbelow fun n d hd => by
        have hmapping := hnone n _ List.mem_cons_self
        rw [Draft.fetch?, entriesFetch?_zip hbelow.length_names,
          List.findSome?_eq_none_iff] at hmapping
        exact hmapping d hd
      obtain ⟨nodes, hnodes⟩ := ih fun n d hd => hnone n d (List.mem_cons_of_mem _ hd)
      exact ⟨.mapping o.className (((valued properties).map Prod.fst).zip parts) :: nodes, by
        simp [Draft.node?, entries?_zip hbelow.length_names, hparts, hnodes]⟩

theorem Drafted.fill_eq_self (h : Drafted outcome? hops objects fetches drafts)
    (hn : drafts.findSome? (Draft.fetch? n) = none) :
    drafts.map (Draft.fill n part) = drafts := by
  induction h with
  | nil => rfl
  | plain hplain _ ih =>
      rw [List.findSome?_cons, Draft.fetch?] at hn
      rw [List.map_cons, Draft.fill, ih hn]
  | fetching hhandle _ ih =>
      rename_i call _ _ _ _ _ _
      rw [List.findSome?_cons, Draft.fetch?] at hn
      by_cases hcall : call = n
      · simp [hcall] at hn
      · rw [if_neg hcall] at hn
        rw [List.map_cons, Draft.fill, if_neg hcall, ih hn]
  | failed hhandle houtcome hcause _ ih =>
      rw [List.findSome?_cons, Draft.fetch?] at hn
      rw [List.map_cons, Draft.fill, ih hn]
  | fetched hhandle houtcome hproperties hbelow _ ihbelow ih =>
      rw [List.findSome?_cons, Draft.fetch?, entriesFetch?_zip hbelow.length_names] at hn
      split at hn
      · cases hn
      · rename_i hnone
        rw [List.map_cons, Draft.fill, entriesFill_zip, ihbelow hnone, ih hn]

/-! ### New drafts -/

/-- The calls of that many fetches in a row, the first of that number. -/
def fetchesFrom (next : Nat) (handles : List String) : Fetches :=
  (List.range' next handles.length).zip handles

@[simp] theorem fetchesFrom_nil (next : Nat) : fetchesFrom next [] = [] := rfl

theorem fetchesFrom_cons (next : Nat) (objectId : String) (handles : List String) :
    fetchesFrom next (objectId :: handles) =
      (next, objectId) :: fetchesFrom (next + 1) handles := rfl

theorem map_fst_fetchesFrom (next : Nat) (handles : List String) :
    (fetchesFrom next handles).map Prod.fst = List.range' next handles.length :=
  List.map_fst_zip (by simp)

/-- Drafts that were just made wait for the calls that are begun for them. -/
theorem drafted_ofObjects (outcome? : Nat → Option Outcome) (hops next : Nat)
    (objects : List RemoteObject) :
    Drafted outcome? hops objects
      (fetchesFrom next (Draft.ofObjects hops next objects).2)
      (Draft.ofObjects hops next objects).1 := by
  induction objects generalizing next with
  | nil => exact .nil
  | cons o objects ih =>
      cases hops with
      | zero =>
          have hobject : Draft.ofObject 0 next o = (.finished (unfetched o), none) := rfl
          simp only [Draft.ofObjects, hobject]
          exact .plain (Or.inl rfl) (ih next)
      | succ hops =>
          cases hhandle : handle? o with
          | none =>
              have hobject :
                  Draft.ofObject (hops + 1) next o = (.finished (unfetched o), none) := by
                simp [Draft.ofObject, hhandle]
              simp only [Draft.ofObjects, hobject]
              exact .plain (Or.inr hhandle) (ih next)
          | some objectId =>
              have hobject : Draft.ofObject (hops + 1) next o =
                  (.fetching next objectId o.className hops, some objectId) := by
                simp [Draft.ofObject, hhandle]
              simp only [Draft.ofObjects, hobject, fetchesFrom_cons]
              exact .fetching hhandle (ih (next + 1))

/-! ### Outcomes in their places -/

/-- An outcome in its place gives drafts for the same values, with the calls added that it
    begins. -/
theorem Drafted.grow (h : Drafted outcome? hops objects fetches drafts)
    (hnodup : (fetches.map Prod.fst).Nodup) {fetch : Fetch} {outcome : Outcome}
    (hfetch : drafts.findSome? (Draft.fetch? n) = some fetch)
    (houtcome : outcome? n = some outcome) :
    ∃ fetches', Drafted outcome? hops objects fetches'
        (drafts.map (Draft.fill n (fetch.grow next outcome).part)) ∧
      fetches'.Perm (fetches ++ fetchesFrom next (fetch.grow next outcome).handles) := by
  induction h with
  | nil => simp at hfetch
  | plain hplain _ ih =>
      rw [List.findSome?_cons, Draft.fetch?] at hfetch
      obtain ⟨fetches', hdrafted, hperm⟩ := ih hnodup hfetch
      exact ⟨fetches', .plain hplain hdrafted, hperm⟩
  | failed hhandle houtcome' hcause _ ih =>
      rw [List.findSome?_cons, Draft.fetch?] at hfetch
      simp only [List.map_cons, List.nodup_cons] at hnodup
      obtain ⟨fetches', hdrafted, hperm⟩ := ih hnodup.2 hfetch
      exact ⟨_, .failed hhandle houtcome' hcause hdrafted, hperm.cons _⟩
  | fetching hhandle hrest ih =>
      rename_i hops call o objectId objects fetches drafts
      simp only [List.map_cons, List.nodup_cons] at hnodup
      rw [List.findSome?_cons, Draft.fetch?] at hfetch
      by_cases hcall : call = n
      · -- this is the place: the others do not wait for the call
        subst hcall
        rw [if_pos rfl] at hfetch
        obtain rfl := Option.some.inj hfetch
        rw [List.map_cons, Draft.fill, if_pos rfl,
          hrest.fill_eq_self (hrest.fetch?_eq_none hnodup.1)]
        cases hproperties : fetchedProperties outcome with
        | error cause =>
            simp only [Fetch.grow, hproperties, fetchesFrom_nil, List.append_nil]
            exact ⟨_, .failed hhandle houtcome hproperties hrest, List.Perm.refl _⟩
        | ok properties =>
            simp only [Fetch.grow, hproperties]
            refine ⟨_, .fetched hhandle houtcome hproperties
              (drafted_ofObjects outcome? hops next _) hrest, ?_⟩
            exact (List.perm_append_comm).cons _
      · rw [if_neg hcall] at hfetch
        obtain ⟨fetches', hdrafted, hperm⟩ := ih hnodup.2 hfetch
        rw [List.map_cons, Draft.fill, if_neg hcall]
        exact ⟨_, .fetching hhandle hdrafted, hperm.cons _⟩
  | fetched hhandle houtcome' hproperties hbelow hrest ihbelow ih =>
      rename_i hops call o objectId outcome' properties objects below fetches parts drafts
      simp only [List.map_cons, List.map_append, List.nodup_cons, List.nodup_append] at hnodup
      obtain ⟨-, hnodupBelow, hnodupRest, hdisjoint⟩ := hnodup
      rw [List.findSome?_cons, Draft.fetch?, entriesFetch?_zip hbelow.length_names] at hfetch
      rw [List.map_cons, Draft.fill, entriesFill_zip]
      cases hfind : parts.findSome? (Draft.fetch? n) with
      | some fetch' =>
          rw [hfind] at hfetch
          obtain rfl := Option.some.inj hfetch
          obtain ⟨below', hdrafted, hperm⟩ := ihbelow hnodupBelow hfind
          have hn : n ∉ fetches.map Prod.fst := by
            intro hmem
            by_cases hbelowmem : n ∈ below.map Prod.fst
            · exact hdisjoint n hbelowmem n hmem rfl
            · rw [hbelow.fetch?_eq_none hbelowmem] at hfind
              cases hfind
          rw [hrest.fill_eq_self (hrest.fetch?_eq_none hn)]
          refine ⟨_, .fetched hhandle houtcome' hproperties hdrafted hrest, ?_⟩
          apply List.Perm.cons _
          -- the new calls move past those of the other values
          generalize fetchesFrom next (fetch'.grow next outcome).handles = new at hperm ⊢
          have hpast : (below ++ new ++ fetches).Perm (below ++ fetches ++ new) := by
            rw [List.append_assoc, List.append_assoc]
            exact List.perm_append_comm.append_left _
          exact (hperm.append_right _).trans hpast
      | none =>
          rw [hfind] at hfetch
          obtain ⟨fetches', hdrafted, hperm⟩ := ih hnodupRest hfetch
          rw [hbelow.fill_eq_self hfind]
          refine ⟨_, .fetched hhandle houtcome' hproperties hbelow hdrafted, ?_⟩
          apply List.Perm.cons _
          have hall := hperm.append_left below
          rw [← List.append_assoc] at hall
          exact hall

end ConsoleTap.Session
