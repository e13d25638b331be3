import ConsoleTap.Proofs.Print.Expansion
import Mathlib.Data.List.Flatten
import Mathlib.Data.List.Nodup
import Mathlib.Data.List.Perm.Subperm

/-!
# The fetches of an expansion

The handles fetched for an object are those of the objects worth a fetch at the levels
below the number of hops, in the order of their places: an object before its parts, and
the parts one after the other.  Each fetch but the first is of a value in the reply to
the one above it.  Hops are taken off one by one and never more than there are, so 32
bits do for them.
-/

namespace ConsoleTap.Print

open ConsoleTap.Target

variable {source : PropertyLookup} {depth : Nat} {o x : RemoteObject} {place : List Nat}

/-- A fetch: the place of the object, and its handle. -/
structure Fetch where
  place : List Nat
  objectId : String

/-- A fetch for a part, seen from the object that it is a part of. -/
def Fetch.within (i : Nat) (f : Fetch) : Fetch := { f with place := i :: f.place }

/-- The fetches for an object: its own, and then those for its parts. -/
def fetchesWithin (source : PropertyLookup) : (depth : Nat) → RemoteObject → List Fetch
  | 0, _ => []
  | depth + 1, o =>
      match handle? o with
      | none => []
      | some objectId =>
          ⟨[], objectId⟩ ::
            (parts source o).zipIdx.flatMap fun p =>
              (fetchesWithin source depth p.1).map (Fetch.within p.2)

theorem fetchesWithin_of_none (h : handle? o = none) : fetchesWithin source depth o = [] := by
  cases depth with
  | zero => rfl
  | succ depth => rw [fetchesWithin, h]

theorem fetchesWithin_of_handle {objectId : String} (h : handle? o = some objectId) :
    fetchesWithin source (depth + 1) o =
      ⟨[], objectId⟩ ::
        (parts source o).zipIdx.flatMap fun p =>
          (fetchesWithin source depth p.1).map (Fetch.within p.2) := by
  rw [fetchesWithin, h]

/-- The handles fetched for an object are those of its fetches, in their order. -/
theorem fetched_eq (depth : Nat) (o : RemoteObject) :
    (Expansion.ofObject source depth o).fetched =
      (fetchesWithin source depth o).map Fetch.objectId := by
  induction depth generalizing o with
  | zero => rfl
  | succ depth ih =>
      cases hhandle : handle? o with
      | none => rw [ofObject_plain (Or.inr hhandle), fetchesWithin_of_none hhandle]; rfl
      | some objectId =>
          rw [fetchesWithin_of_handle hhandle, List.map_cons, List.map_flatMap]
          have hparts : ((parts source o).zipIdx.flatMap fun p =>
              ((fetchesWithin source depth p.1).map (Fetch.within p.2)).map Fetch.objectId) =
              (parts source o).flatMap fun x => (Expansion.ofObject source depth x).fetched := by
            conv_rhs => rw [← List.zipIdx_map_fst 0 (parts source o), List.flatMap_map]
            refine List.flatMap_congr fun p _ => ?_
            rw [ih, List.map_map]
            rfl
          rw [hparts]
          cases hsource : source objectId with
          | error fault => rw [ofObject_failed hhandle hsource, parts_of_failed hhandle hsource]; rfl
          | ok properties =>
              rw [ofObject_fetched hhandle hsource, parts_of_fetched hhandle hsource,
                Expansion.ofEntries, List.flatMap_map, List.flatMap_map]

theorem mem_fetchesWithin_nil {objectId : String} :
    ⟨[], objectId⟩ ∈ fetchesWithin source (depth + 1) o ↔ handle? o = some objectId := by
  cases hhandle : handle? o with
  | none => simp [fetchesWithin_of_none hhandle]
  | some own => simp [fetchesWithin_of_handle hhandle, Fetch.within, eq_comm]

/-- The fetches below an object are those of its parts. -/
theorem mem_fetchesWithin_cons {i : Nat} {objectId : String} :
    ⟨i :: place, objectId⟩ ∈ fetchesWithin source (depth + 1) o ↔
      ∃ part, (parts source o)[i]? = some part ∧
        ⟨place, objectId⟩ ∈ fetchesWithin source depth part := by
  cases hhandle : handle? o with
  | none => simp [fetchesWithin_of_none hhandle, parts_of_none hhandle]
  | some own =>
      have hplace : (⟨i :: place, objectId⟩ : Fetch) ≠ ⟨[], own⟩ := by simp
      rw [fetchesWithin_of_handle hhandle, List.mem_cons, or_iff_right hplace, List.mem_flatMap]
      constructor
      · rintro ⟨⟨part, j⟩, hpart, hf⟩
        obtain ⟨⟨inner, own⟩, hinner, hwithin⟩ := List.mem_map.mp hf
        simp only [Fetch.within, Fetch.mk.injEq, List.cons.injEq] at hwithin
        obtain ⟨⟨rfl, rfl⟩, rfl⟩ := hwithin
        exact ⟨part, List.mk_mem_zipIdx_iff_getElem?.mp hpart, hinner⟩
      · rintro ⟨part, hpart, hf⟩
        exact ⟨(part, i), List.mk_mem_zipIdx_iff_getElem?.mpr hpart,
          List.mem_map.mpr ⟨_, hf, rfl⟩⟩

/-- What is fetched: the objects worth a fetch at the levels below the number of hops. -/
theorem mem_fetchesWithin {f : Fetch} :
    f ∈ fetchesWithin source depth o ↔ f.place.length < depth ∧
      ∃ x, objectAt? source f.place o = some x ∧ handle? x = some f.objectId := by
  induction depth generalizing o f with
  | zero => simp [fetchesWithin]
  | succ depth ih =>
      obtain ⟨place, objectId⟩ := f
      cases place with
      | nil => simp [mem_fetchesWithin_nil, objectAt?]
      | cons i place =>
          rw [mem_fetchesWithin_cons]
          simp only [ih, objectAt?, List.length_cons, Nat.succ_lt_succ_iff, Option.bind_eq_some_iff]
          constructor
          · rintro ⟨part, hpart, hlt, x, hx, hid⟩
            exact ⟨hlt, x, ⟨part, hpart, hx⟩, hid⟩
          · rintro ⟨hlt, x, ⟨part, hpart, hx⟩, hid⟩
            exact ⟨part, hpart, hlt, x, hx, hid⟩

/-- The fetches come in the order of their places. -/
theorem pairwise_fetchesWithin (depth : Nat) (o : RemoteObject) :
    (fetchesWithin source depth o).Pairwise fun f g => List.Lex (· < ·) f.place g.place := by
  induction depth generalizing o with
  | zero => exact List.Pairwise.nil
  | succ depth ih =>
      cases hhandle : handle? o with
      | none => rw [fetchesWithin_of_none hhandle]; exact List.Pairwise.nil
      | some objectId =>
          rw [fetchesWithin_of_handle hhandle, List.pairwise_cons, List.pairwise_flatMap]
          refine ⟨?_, ?_, ?_⟩
          · intro f hf
            obtain ⟨p, -, hf⟩ := List.mem_flatMap.mp hf
            obtain ⟨inner, -, rfl⟩ := List.mem_map.mp hf
            exact List.Lex.nil
          · intro p _
            exact List.pairwise_map.mpr ((ih p.1).imp fun h => List.Lex.cons h)
          · -- of two parts, all fetches of the one with the smaller number come first
            have hnumbers : (parts source o).zipIdx.Pairwise fun p q => p.2 < q.2 := by
              rw [← List.pairwise_map (f := Prod.snd), List.zipIdx_map_snd]
              exact List.pairwise_lt_range'
            refine hnumbers.imp fun hlt f hf g hg => ?_
            obtain ⟨f, -, rfl⟩ := List.mem_map.mp hf
            obtain ⟨g, -, rfl⟩ := List.mem_map.mp hg
            exact List.Lex.rel hlt

/-- Fetches below one another are at ever higher levels, so there are at most as many as hops. -/
theorem length_chain_le {chain : List Fetch} (hfetches : chain ⊆ fetchesWithin source depth o)
    (hchain : chain.Pairwise fun f g => f.place <+: g.place ∧ f.place ≠ g.place) :
    chain.length ≤ depth := by
  have hlevels : (chain.map fun f => f.place.length).Nodup := by
    refine List.pairwise_map.mpr (hchain.imp fun {f g} h hlength => ?_)
    exact h.2 (h.1.eq_of_length hlength)
  have hbelow : (chain.map fun f => f.place.length) ⊆ List.range depth := by
    intro level hlevel
    obtain ⟨f, hf, rfl⟩ := List.mem_map.mp hlevel
    exact List.mem_range.mpr (mem_fetchesWithin.mp (hfetches hf)).1
  simpa using (List.subperm_of_subset hlevels hbelow).length_le

/-- Nothing is fetched at or below an object that is not worth a fetch. -/
theorem not_fetched_below {f : Fetch} (hx : objectAt? source place o = some x)
    (hnone : handle? x = none) (hf : f ∈ fetchesWithin source depth o) : ¬ place <+: f.place := by
  rintro ⟨below, hbelow⟩
  obtain ⟨-, y, hy, hid⟩ := mem_fetchesWithin.mp hf
  rw [← hbelow, objectAt?_append, hx, Option.bind_some] at hy
  cases below with
  | nil =>
      obtain rfl := Option.some.inj hy
      cases hnone.symm.trans hid
  | cons i below => cases (objectAt?_of_no_parts (parts_of_none hnone)).symm.trans hy

/-- A fetch below another one is of a value in the reply to that one. -/
theorem fetched_of_reply {i : Nat} {objectId : String}
    (hf : ⟨place ++ [i], objectId⟩ ∈ fetchesWithin source depth o) :
    ∃ outer properties p x, ⟨place, outer⟩ ∈ fetchesWithin source depth o ∧
      source outer = .ok properties ∧ (carriers properties)[i]? = some p ∧ p.value = some x ∧
      x.objectId = some objectId := by
  obtain ⟨hlt, x, hx, hid⟩ := mem_fetchesWithin.mp hf
  rw [List.length_append, List.length_singleton] at hlt
  rw [objectAt?_append, Option.bind_eq_some_iff] at hx
  obtain ⟨y, hy, hx⟩ := hx
  rw [objectAt?, Option.bind_eq_some_iff] at hx
  obtain ⟨part, hpart, hx⟩ := hx
  obtain rfl := Option.some.inj hx
  obtain ⟨outer, properties, name, hhandle, hsource, hvalued⟩ := reply_of_part hpart
  have houter : (⟨place, outer⟩ : Fetch) ∈ fetchesWithin source depth o :=
    mem_fetchesWithin.mpr ⟨Nat.lt_of_succ_lt hlt, y, hy, hhandle⟩
  obtain ⟨p, hp, -, hvalue⟩ := getElem?_valued.mp hvalued
  exact ⟨outer, properties, p, part, houter, hsource, hp, hvalue,
    (handle?_eq_some_iff.mp hid).2.1⟩

/-! ### Hops in 32 bits -/

theorem toNat_sub_one {hops : UInt32} (h : hops ≠ 0) : (hops - 1).toNat + 1 = hops.toNat := by
  have hpositive : hops.toNat ≠ 0 := fun hzero => h (UInt32.toNat_inj.mp hzero)
  have hle : (1 : UInt32) ≤ hops := UInt32.le_iff_toNat_le.mpr (Nat.one_le_iff_ne_zero.mpr hpositive)
  rw [UInt32.toNat_sub_of_le _ _ hle]
  exact Nat.sub_add_cancel (Nat.one_le_iff_ne_zero.mpr hpositive)

/-- The expansion of an object with the hops counted in 32 bits; there is none if one is taken off
    where none is left. -/
def Expansion.checked (source : PropertyLookup) (hops : UInt32) (o : RemoteObject) :
    Option Expansion :=
  match handle? o with
  | none => some ⟨unfetched o, []⟩
  | some objectId =>
      if 0 < hops then
        match source objectId with
        | .error fault => some ⟨.text (failureText fault), [objectId]⟩
        | .ok properties =>
            ((valued properties).mapM fun p =>
              if hops = 0 then none
              else (Expansion.checked source (hops - 1) p.2).map fun e => (p.1, e)).map
              (.ofEntries o.className objectId)
      else some ⟨unfetched o, []⟩
termination_by hops.toNat
decreasing_by
  rename_i hzero
  exact Nat.lt_of_succ_le (Nat.le_of_eq (toNat_sub_one hzero))

/-- No hop is ever taken off where none is left. -/
theorem checked_eq (hops : UInt32) (o : RemoteObject) :
    Expansion.checked source hops o = some (Expansion.ofObject source hops.toNat o) := by
  induction hdepth : hops.toNat generalizing hops o with
  | zero =>
      obtain rfl : hops = 0 := UInt32.toNat_inj.mp hdepth
      rw [Expansion.checked, ofObject_plain (Or.inl rfl)]
      cases handle? o <;> rfl
  | succ depth ih =>
      have hne : hops ≠ 0 := by
        rintro rfl
        cases hdepth
      have hpositive : 0 < hops := UInt32.lt_iff_toNat_lt.mpr (hdepth ▸ Nat.succ_pos depth)
      have hfewer : (hops - 1).toNat = depth := Nat.succ.inj ((toNat_sub_one hne).trans hdepth)
      rw [Expansion.checked]
      cases hhandle : handle? o with
      | none => rw [ofObject_plain (Or.inr hhandle)]
      | some objectId =>
          simp only [hpositive, if_true]
          cases hsource : source objectId with
          | error fault => rw [ofObject_failed hhandle hsource]
          | ok properties =>
              simp only [hne, if_false, ih _ _ hfewer, Option.map_some]
              rw [ofObject_fetched hhandle hsource]
              have hentries := List.mapM_pure (m := Option) (l := valued properties)
                (f := fun p => (p.1, Expansion.ofObject source depth p.2))
              simp only [Option.pure_def] at hentries
              rw [hentries]
              rfl

/-! ### The fetches of an object -/

/-- The handles fetched for an object are, in depth-first order, exactly those of the objects of
    type `object` without value and preview at the levels below the number of hops.  So a chain of
    fetches below one another has at most as many as there are hops, and without hops there is
    none; nothing is fetched at or below an object that has a value, a preview or another type; a
    fetch below another one is of the value of a descriptor in the reply to that one, in its order
    among those that carry one, which an accessor does not; and counting the hops down in 32 bits
    never goes below zero. -/
theorem fetched_depth_first (source : PropertyLookup) (depth : Nat) (o : RemoteObject) :
    (Expansion.ofObject source depth o).fetched =
      (fetchesWithin source depth o).map Fetch.objectId ∧
    ((fetchesWithin source depth o).Pairwise fun f g => List.Lex (· < ·) f.place g.place) ∧
    (∀ f, f ∈ fetchesWithin source depth o ↔ f.place.length < depth ∧
      ∃ x, objectAt? source f.place o = some x ∧ x.kind = some "object" ∧
        x.objectId = some f.objectId ∧ x.value = none ∧ x.preview = none) ∧
    (∀ chain, chain ⊆ fetchesWithin source depth o →
      (chain.Pairwise fun f g => f.place <+: g.place ∧ f.place ≠ g.place) →
      chain.length ≤ depth) ∧
    (Expansion.ofObject source 0 o).fetched = [] ∧
    (∀ place x, objectAt? source place o = some x →
      (x.value ≠ none ∨ x.preview ≠ none ∨ x.kind ≠ some "object") →
      ∀ f ∈ fetchesWithin source depth o, ¬ place <+: f.place) ∧
    (∀ place i objectId, ⟨place ++ [i], objectId⟩ ∈ fetchesWithin source depth o →
      ∃ outer properties p x, ⟨place, outer⟩ ∈ fetchesWithin source depth o ∧
        source outer = .ok properties ∧ p ∈ properties ∧ p.value = some x ∧
        (carriers properties)[i]? = some p ∧ x.objectId = some objectId) ∧
    ∀ hops : UInt32,
      Expansion.checked source hops o = some (Expansion.ofObject source hops.toNat o) := by
  refine ⟨fetched_eq depth o, pairwise_fetchesWithin depth o, fun f => ?_,
    fun chain => length_chain_le, rfl, ?_, ?_, fun hops => checked_eq hops o⟩
  · rw [mem_fetchesWithin]
    simp only [handle?_eq_some_iff]
  · intro place x hx hplain f hf
    exact not_fetched_below hx (handle?_eq_none hplain) hf
  · intro place i objectId hf
    obtain ⟨outer, properties, p, x, houter, hsource, hp, hx, hid⟩ := fetched_of_reply hf
    have hmem : p ∈ properties := List.mem_of_mem_filter (List.mem_of_getElem? hp)
    exact ⟨outer, properties, p, x, houter, hsource, hmem, hx, hp, hid⟩

/-- An object that has itself as a property, next to an accessor and to an object that cannot be
    fetched. -/
def ringed : RemoteObject :=
  { kind := some "object", description := some "Ring", objectId := some "ring" }

def ringLookup : PropertyLookup := fun objectId =>
  if objectId = "ring" then
    .ok [⟨"self", some ringed⟩, ⟨"size", none⟩,
      ⟨"lost", some { kind := some "object", objectId := some "lost" }⟩]
  else .error (.timeout "Runtime.getProperties")

example : (Expansion.ofObject ringLookup 2 ringed).fetched = ["ring", "ring", "lost"] := rfl

end ConsoleTap.Print
