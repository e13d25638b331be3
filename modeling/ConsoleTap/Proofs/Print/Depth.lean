import ConsoleTap.Proofs.Print.Fetches

/-!
# Expansions with more or fewer hops

What stands at a place of a tree is the expansion of the object there, with the hops that
are left at its level.  So with one hop fewer the tree is the same but for what was made
from the fetches at the last level, where the descriptions of the objects stand instead;
and the fetches are the same but for those at the last level.
-/

namespace ConsoleTap.Print

open ConsoleTap.Target

variable {source : PropertyLookup} {depth : Nat} {o x : RemoteObject} {objectId : String}

/-! ### Places in a tree -/

/-- The part of a tree at a place; the parts of a mapping are numbered as they come. -/
def Node.at? : (place : List Nat) → Node → Option Node
  | [], node => some node
  | i :: place, .mapping _ entries => entries[i]?.bind fun e => Node.at? place e.2
  | _ :: _, _ => none

mutual

/-- The tree with new parts at some of its places.  Class names, the names of entries and their
    order stay. -/
def Node.graft : Node → (new? : List Nat → Option Node) → Node
  | .inline v, new? => (new? []).getD (.inline v)
  | .text s, new? => (new? []).getD (.text s)
  | .truncated, new? => (new? []).getD .truncated
  | .mapping className entries, new? =>
      (new? []).getD (.mapping className (graftEntries entries 0 new?))

def graftEntries : List (String × Node) → (i : Nat) → (new? : List Nat → Option Node) →
    List (String × Node)
  | [], _, _ => []
  | (name, node) :: rest, i, new? =>
      (name, node.graft fun place => new? (i :: place)) :: graftEntries rest (i + 1) new?

end

variable {new? : List Nat → Option Node} {node : Node}

theorem graft_of_root (h : new? [] = some node) (old : Node) : old.graft new? = node := by
  cases old <;> rw [Node.graft, h] <;> rfl

theorem graft_mapping (h : new? [] = none) (className : Option String)
    (entries : List (String × Node)) :
    (Node.mapping className entries).graft new? =
      .mapping className (graftEntries entries 0 new?) := by
  rw [Node.graft, h]
  rfl

/-- Entries change one by one, each by what is new below its own number. -/
theorem graftEntries_map {α : Type} (name : α → String) (old new : α → Node) {l : List α} {i : Nat}
    (h : ∀ j a, l[j]? = some a → (old a).graft (fun place => new? ((i + j) :: place)) = new a) :
    graftEntries (l.map fun a => (name a, old a)) i new? = l.map fun a => (name a, new a) := by
  induction l generalizing i with
  | nil => rfl
  | cons a rest ih =>
      have hhead := h 0 a rfl
      rw [Nat.add_zero] at hhead
      have hrest := ih (i := i + 1) fun j b hb => by
        rw [Nat.add_assoc, Nat.add_comm 1 j]
        exact h (j + 1) b hb
      rw [List.map_cons, List.map_cons, graftEntries, hhead, hrest]

/-- The mapping of a fetched object changes part by part. -/
theorem graft_fetched {properties : List PropertyDescriptor} (hhandle : handle? o = some objectId)
    (hproperties : source objectId = .ok properties) (hroot : new? [] = none)
    (className : Option String) (old new : RemoteObject → Node)
    (hparts : ∀ i x, (parts source o)[i]? = some x →
      (old x).graft (fun place => new? (i :: place)) = new x) :
    (Node.mapping className ((valued properties).map fun p => (p.1, old p.2))).graft new? =
      .mapping className ((valued properties).map fun p => (p.1, new p.2)) := by
  rw [graft_mapping hroot]
  refine congrArg (Node.mapping className) (graftEntries_map Prod.fst _ _ fun i p hp => ?_)
  rw [Nat.zero_add]
  refine hparts i p.2 ?_
  rw [parts_of_fetched hhandle hproperties, List.getElem?_map, hp]
  rfl

mutual

/-- A tree in which nothing is new stays as it is. -/
theorem graft_of_none (node : Node) (new? : List Nat → Option Node)
    (hnone : ∀ place, new? place = none) : node.graft new? = node := by
  cases node with
  | inline v => rw [Node.graft, hnone]; rfl
  | text s => rw [Node.graft, hnone]; rfl
  | truncated => rw [Node.graft, hnone]; rfl
  | mapping className entries =>
      rw [graft_mapping (hnone []), graftEntries_of_none entries 0 new? hnone]

theorem graftEntries_of_none (entries : List (String × Node)) (i : Nat)
    (new? : List Nat → Option Node) (hnone : ∀ place, new? place = none) :
    graftEntries entries i new? = entries := by
  cases entries with
  | nil => rfl
  | cons e rest =>
      obtain ⟨name, node⟩ := e
      rw [graftEntries, graft_of_none node _ fun place => hnone _,
        graftEntries_of_none rest (i + 1) new? hnone]

end

/-! ### The tree with one hop fewer -/

/-- At a place that the fetches reach stands the expansion of the object there, with the hops that
    are left. -/
theorem ofObject_at? {place : List Nat} (hx : objectAt? source place o = some x)
    (hlevel : place.length ≤ depth) :
    (Expansion.ofObject source depth o).node.at? place =
      some (Expansion.ofObject source (depth - place.length) x).node := by
  induction place generalizing depth o with
  | nil =>
      obtain rfl := Option.some.inj hx
      rfl
  | cons i place ih =>
      rw [objectAt?, Option.bind_eq_some_iff] at hx
      obtain ⟨part, hpart, hx⟩ := hx
      obtain ⟨objectId, properties, name, hhandle, hsource, hvalued⟩ := reply_of_part hpart
      cases depth with
      | zero => cases hlevel
      | succ depth =>
          rw [node_fetched hhandle hsource, Node.at?, List.getElem?_map, hvalued]
          simpa using ih hx (Nat.le_of_succ_le_succ hlevel)

/-- What stands at the places of the fetches at a level if there are no hops for them: the
    descriptions of the objects. -/
def descriptionAt? (source : PropertyLookup) (level : Nat) (o : RemoteObject) (place : List Nat) :
    Option Node :=
  if place.length = level then
    (objectAt? source place o).bind fun x =>
      (handle? x).map fun _ => .text (x.description.getD unknownObjectText)
  else none

theorem descriptionAt?_of_no_parts (h : parts source o = []) (place : List Nat) :
    descriptionAt? source (depth + 1) o place = none := by
  rw [descriptionAt?]
  split
  · rename_i hlevel
    cases place with
    | nil => cases hlevel
    | cons i place => rw [objectAt?_of_no_parts h]; rfl
  · rfl

theorem descriptionAt?_cons {i : Nat} (h : (parts source o)[i]? = some x) (place : List Nat) :
    descriptionAt? source (depth + 1) o (i :: place) = descriptionAt? source depth x place := by
  simp only [descriptionAt?, objectAt?, h, List.length_cons, Nat.succ_inj, Option.bind_some]

theorem node_eq_graft (depth : Nat) (o : RemoteObject) :
    (Expansion.ofObject source depth o).node =
      (Expansion.ofObject source (depth + 1) o).node.graft (descriptionAt? source depth o) := by
  induction depth generalizing o with
  | zero =>
      cases hhandle : handle? o with
      | none =>
          rw [ofObject_plain (Or.inl rfl), ofObject_plain (Or.inr hhandle), graft_of_none]
          intro place
          cases place with
          | nil => simp [descriptionAt?, objectAt?, hhandle]
          | cons i place => simp [descriptionAt?]
      | some objectId =>
          have hroot : descriptionAt? source 0 o [] =
              some (.text (o.description.getD unknownObjectText)) := by
            simp [descriptionAt?, objectAt?, hhandle]
          rw [ofObject_plain (Or.inl rfl), graft_of_root hroot, unfetched_of_handle hhandle]
  | succ depth ih =>
      cases hhandle : handle? o with
      | none =>
          rw [ofObject_plain (Or.inr hhandle), ofObject_plain (Or.inr hhandle), graft_of_none]
          exact descriptionAt?_of_no_parts (parts_of_none hhandle)
      | some objectId =>
          cases hsource : source objectId with
          | error fault =>
              rw [ofObject_failed hhandle hsource, ofObject_failed hhandle hsource, graft_of_none]
              exact descriptionAt?_of_no_parts (parts_of_failed hhandle hsource)
          | ok properties =>
              rw [node_fetched hhandle hsource, node_fetched hhandle hsource]
              have hroot : descriptionAt? source (depth + 1) o [] = none := by
                simp [descriptionAt?]
              refine (graft_fetched hhandle hsource hroot _
                (fun x => (Expansion.ofObject source (depth + 1) x).node)
                (fun x => (Expansion.ofObject source depth x).node) fun i x hpart => ?_).symm
              rw [funext (descriptionAt?_cons hpart)]
              exact (ih x).symm

/-! ### The fetches with fewer hops -/

/-- With fewer hops the same is fetched, in the same order, as far as there are hops. -/
theorem fetchesWithin_eq_filter (depth more : Nat) (o : RemoteObject) :
    fetchesWithin source depth o =
      (fetchesWithin source (depth + more) o).filter fun f => f.place.length < depth := by
  induction depth generalizing o with
  | zero => simp [fetchesWithin]
  | succ depth ih =>
      cases hhandle : handle? o with
      | none => rw [fetchesWithin_of_none hhandle, fetchesWithin_of_none hhandle]; rfl
      | some objectId =>
          rw [Nat.succ_add, fetchesWithin_of_handle hhandle, fetchesWithin_of_handle hhandle,
            List.filter_cons_of_pos (by simp), List.filter_flatMap]
          refine congrArg _ (List.flatMap_congr fun p _ => ?_)
          rw [ih, List.filter_map]
          refine congrArg _ (List.filter_congr fun f _ => ?_)
          simp [Fetch.within]

/-! ### Depth -/

/-- The places where a description takes the place of a node: those of the fetches at the level,
    where with one hop more the object is expanded with a single hop. -/
theorem descriptionAt?_eq_some_iff {place : List Nat} {node : Node} :
    descriptionAt? source depth o place = some node ↔
      ∃ objectId x, ⟨place, objectId⟩ ∈ fetchesWithin source (depth + 1) o ∧
        place.length = depth ∧ objectAt? source place o = some x ∧
        (Expansion.ofObject source (depth + 1) o).node.at? place =
          some (Expansion.ofObject source 1 x).node ∧
        node = .text (x.description.getD "[Object]") := by
  constructor
  · intro h
    rw [descriptionAt?] at h
    split at h
    · rename_i hlevel
      obtain ⟨x, hx, h⟩ := Option.bind_eq_some_iff.mp h
      obtain ⟨objectId, hid, rfl⟩ := Option.map_eq_some_iff.mp h
      have hlt : place.length < depth + 1 := hlevel ▸ Nat.lt_succ_self _
      have hnode := ofObject_at? hx (Nat.le_of_lt hlt)
      rw [hlevel, Nat.add_sub_cancel_left] at hnode
      exact ⟨objectId, x, mem_fetchesWithin.mpr ⟨hlt, x, hx, hid⟩, hlevel, hx, hnode, rfl⟩
    · cases h
  · rintro ⟨objectId, x, hf, hlevel, hx, -, rfl⟩
    obtain ⟨-, y, hy, hid⟩ := mem_fetchesWithin.mp hf
    obtain rfl := Option.some.inj (hx.symm.trans hy)
    rw [descriptionAt?, if_pos hlevel, hx, Option.bind_some, hid]
    rfl

/-- With one hop fewer the tree is the same but for the nodes made from the fetches at the last
    level, mappings and failures alike: the description of the object takes the place of each, or
    `[Object]` if it has none.  So the fetches are some of those with more hops, in the same order,
    and the trees are equal if there is no fetch at the last level. -/
theorem depth_only_cuts (source : PropertyLookup) (depth : Nat) (o : RemoteObject) :
    (Expansion.ofObject source depth o).node =
      (Expansion.ofObject source (depth + 1) o).node.graft (descriptionAt? source depth o) ∧
    (∀ place node, descriptionAt? source depth o place = some node ↔
      ∃ objectId x, ⟨place, objectId⟩ ∈ fetchesWithin source (depth + 1) o ∧
        place.length = depth ∧ objectAt? source place o = some x ∧
        (Expansion.ofObject source (depth + 1) o).node.at? place =
          some (Expansion.ofObject source 1 x).node ∧
        node = .text (x.description.getD "[Object]")) ∧
    (∀ more, ((Expansion.ofObject source depth o).fetched).Sublist
      (Expansion.ofObject source (depth + more) o).fetched) ∧
    ((∀ f ∈ fetchesWithin source (depth + 1) o, f.place.length ≠ depth) →
      (Expansion.ofObject source depth o).node =
        (Expansion.ofObject source (depth + 1) o).node) := by
  refine ⟨node_eq_graft depth o, fun place node => descriptionAt?_eq_some_iff, fun more => ?_,
    fun hnone => ?_⟩
  · rw [fetched_eq, fetched_eq, fetchesWithin_eq_filter depth more]
    exact List.filter_sublist.map _
  · rw [node_eq_graft, graft_of_none]
    intro place
    by_contra hplace
    obtain ⟨node, hnode⟩ := Option.ne_none_iff_exists'.mp hplace
    obtain ⟨objectId, x, hf, hlevel, -⟩ := descriptionAt?_eq_some_iff.mp hnode
    exact hnone _ hf hlevel

/-- A tree without hops for the ring itself, and one in which the ring is shown once. -/
example :
    (Expansion.ofObject ringLookup 0 ringed).node = .text "Ring" ∧
    (Expansion.ofObject ringLookup 1 ringed).node =
      .mapping none [("self", .text "Ring"), ("lost", .text "[Object]")] := ⟨rfl, rfl⟩

end ConsoleTap.Print
