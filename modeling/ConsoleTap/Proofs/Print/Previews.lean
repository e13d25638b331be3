import ConsoleTap.Proofs.Print.Depth
import ConsoleTap.Proofs.Print.Mappings

/-!
# Previews in print

A preview lists some of an object's properties, and the mark for omitted ones stands behind
them if there are more.  In print the mark is a member like the others, with a name that a
property may have as well.  So it is always there, but it keeps its place at the end only
if nothing is listed behind a property of its name, and it stands behind all the listed
properties exactly if no two of them have one name and none has that of the mark.
-/

namespace ConsoleTap.Print

open ConsoleTap.Json ConsoleTap.Target

variable {o : RemoteObject} {p q : ObjectPreview} {property : PropertyPreview} {place : List Nat}

/-! ### Listed properties -/

theorem listedEntries_eq_map (properties : List PropertyPreview) :
    listedEntries properties = properties.map listedEntry := by
  induction properties with
  | nil => rfl
  | cons property rest ih => rw [listedEntries, ih, List.map_cons]

theorem listedEntry_name (property : PropertyPreview) :
    (listedEntry property).1 = property.name := by
  obtain ⟨name, kind, value, valuePreview, subtype⟩ := property
  cases value <;> rfl

theorem listedEntry_of_preview (hvalue : property.value = none)
    (hpreview : property.valuePreview = some p) :
    listedEntry property = (property.name, Node.ofPreview none p) := by
  obtain ⟨name, kind, value, valuePreview, subtype⟩ := property
  obtain rfl : value = none := hvalue
  obtain rfl : valuePreview = some p := hpreview
  rfl

theorem ofPreview_eq_mapping (className : Option String) (p : ObjectPreview) :
    Node.ofPreview className p =
      .mapping className (p.properties.map listedEntry ++
        if p.overflow then [(omissionName, .truncated)] else []) := by
  obtain ⟨kind, subtype, description, overflow, properties⟩ := p
  rw [Node.ofPreview, listedEntries_eq_map]

/-! ### Previews of previews -/

/-- The preview that is shown at a place below another one: the preview of a listed property's
    value, unless the value itself is listed. -/
def shownPreview? : (place : List Nat) → ObjectPreview → Option ObjectPreview
  | [], p => some p
  | i :: place, p =>
      p.properties[i]?.bind fun property =>
        match property.value with
        | some _ => none
        | none => property.valuePreview.bind (shownPreview? place)

theorem at?_ofPreview (className : Option String) (hshown : shownPreview? place p = some q) :
    ∃ shownClass, (Node.ofPreview className p).at? place = some (Node.ofPreview shownClass q) := by
  induction place generalizing className p with
  | nil =>
      obtain rfl := Option.some.inj hshown
      exact ⟨className, rfl⟩
  | cons i place ih =>
      rw [shownPreview?, Option.bind_eq_some_iff] at hshown
      obtain ⟨property, hproperty, hshown⟩ := hshown
      cases hvalue : property.value with
      | some value =>
          rw [hvalue] at hshown
          cases hshown
      | none =>
          rw [hvalue, Option.bind_eq_some_iff] at hshown
          obtain ⟨inner, hinner, hshown⟩ := hshown
          obtain ⟨shownClass, hat⟩ := ih none hshown
          have hlt : i < (p.properties.map listedEntry).length := by
            rw [List.length_map]
            exact (List.getElem?_eq_some_iff.mp hproperty).1
          refine ⟨shownClass, ?_⟩
          rw [ofPreview_eq_mapping, Node.at?, List.getElem?_append_left hlt, List.getElem?_map,
            hproperty, Option.map_some, listedEntry_of_preview hvalue hinner]
          exact hat

/-- An object with a preview is shown by it, whatever the source and the number of hops. -/
theorem ofObject_of_preview (source : PropertyLookup) (depth : Nat)
    (hkind : o.kind = some "object") (hvalue : o.value = none) (hpreview : o.preview = some p) :
    (Expansion.ofObject source depth o).node = Node.ofPreview o.className p := by
  have hnone : handle? o = none := handle?_eq_none (Or.inr (Or.inl (by simp [hpreview])))
  rw [ofObject_plain (Or.inr hnone)]
  simp [unfetched, hvalue, RemoteObject.isObject, hkind, hpreview]

/-! ### The mark for omitted properties -/

/-- The members written for the properties that a preview lists. -/
def listedMembers (properties : List PropertyPreview) : List (String × Value) :=
  properties.map fun property => (property.name, (listedEntry property).2.toJson)

theorem names_listedMembers (properties : List PropertyPreview) :
    (listedMembers properties).map Prod.fst = properties.map PropertyPreview.name := by
  rw [listedMembers, List.map_map]
  rfl

theorem toJson_of_overflow (className : Option String) (hoverflow : q.overflow = true) :
    (Node.ofPreview className q).toJson =
      .object (Members.ofWritten
        (listedMembers q.properties ++ [(omissionName, .string omissionText)])) := by
  rw [ofPreview_eq_mapping, toJson_mapping, hoverflow, if_pos rfl, List.map_append, List.map_map,
    listedMembers]
  simp [Function.comp_def, listedEntry_name, Node.toJson]

theorem names_markedMembers (properties : List PropertyPreview) (mark : Value) :
    (listedMembers properties ++ [(omissionName, mark)]).map Prod.fst =
      properties.map PropertyPreview.name ++ ["..."] := by
  rw [List.map_append, names_listedMembers]
  rfl

/-- The mark is written last, so its member has its value. -/
theorem get?_mark (properties : List PropertyPreview) (mark : Value) :
    Members.get? (Members.ofWritten (listedMembers properties ++ [(omissionName, mark)])) "..." =
      some mark := by
  refine Members.get?_ofWritten_of_last (i := (listedMembers properties).length) ?_ ?_
  · rw [List.getElem?_append_right (Nat.le_refl _), Nat.sub_self]
    rfl
  · rw [names_markedMembers, List.drop_eq_nil_of_le (by simp [listedMembers])]
    exact List.not_mem_nil

theorem get?_listed {i : Nat} (mark : Value) {properties : List PropertyPreview}
    (hi : properties[i]? = some property)
    (hlast : property.name ∉ (properties.map PropertyPreview.name).drop (i + 1))
    (hname : property.name ≠ "...") :
    Members.get? (Members.ofWritten (listedMembers properties ++ [(omissionName, mark)]))
      property.name = some (listedEntry property).2.toJson := by
  have hlt : i < properties.length := (List.getElem?_eq_some_iff.mp hi).1
  refine Members.get?_ofWritten_of_last (i := i) ?_ ?_
  · rw [List.getElem?_append_left (by simpa [listedMembers] using hlt), listedMembers,
      List.getElem?_map, hi]
    rfl
  · have hlength : i + 1 ≤ (properties.map PropertyPreview.name).length := by
      rw [List.length_map]
      exact hlt
    rw [names_markedMembers, List.drop_append_of_le_length hlength, List.mem_append, not_or]
    exact ⟨hlast, by simpa using hname⟩

/-- A preview that omits properties, wherever it is shown, is printed as a JSON object in which the
    mark is always there.  Each name has one member, at the place of the first property of that
    name, and a property that no later one of its name follows is shown with the printed form of
    its value.  The mark is the last member exactly if every property listed after one of the
    mark's name has that name or one that was there before; and it stands behind all the listed
    properties in their order exactly if their names differ from each other and from that of the
    mark. -/
theorem truncation_in_print (source : PropertyLookup) (depth : Nat)
    (hkind : o.kind = some "object") (hvalue : o.value = none) (hpreview : o.preview = some p)
    (hshown : shownPreview? place p = some q) (hoverflow : q.overflow = true) :
    ∃ node ms, (Expansion.ofObject source depth o).node.at? place = some node ∧
      node.toJson = .object ms ∧
      Rendered.ofNode (Expansion.ofObject source depth o).node =
        ⟨classLine o.className ++ (Expansion.ofObject source depth o).node.toJson.indented, true⟩ ∧
      Members.get? ms "..." = some (.string "(truncated)") ∧
      ms.map Prod.fst = (q.properties.map PropertyPreview.name ++ ["..."]).eraseDups ∧
      (∀ i property, q.properties[i]? = some property →
        property.name ∉ (q.properties.map PropertyPreview.name).drop (i + 1) →
        property.name ≠ "..." →
        Members.get? ms property.name = some (listedEntry property).2.toJson) ∧
      (ms.getLast? = some ("...", .string "(truncated)") ↔
        ∀ before after, q.properties.map PropertyPreview.name = before ++ "..." :: after →
          after ⊆ "..." :: before) ∧
      (ms = q.properties.map (fun property =>
          (property.name, (listedEntry property).2.toJson)) ++ [("...", .string "(truncated)")] ↔
        (q.properties.map PropertyPreview.name).Nodup ∧
          "..." ∉ q.properties.map PropertyPreview.name) := by
  obtain ⟨shownClass, hat⟩ := at?_ofPreview o.className hshown
  rw [ofObject_of_preview source depth hkind hvalue hpreview]
  have hmark := get?_mark q.properties (.string omissionText)
  refine ⟨_, _, hat, toJson_of_overflow shownClass hoverflow, ?_, hmark, ?_, ?_, ?_, ?_⟩
  · rw [ofPreview_eq_mapping, ofNode_mapping]
  · rw [Members.names_ofWritten, names_markedMembers]
  · exact fun i property => get?_listed (.string omissionText)
  · refine (Members.getLast?_eq_some_iff (Members.nodup_names_ofWritten _) hmark).trans ?_
    rw [Members.names_ofWritten, names_markedMembers]
    exact Members.getLast?_eraseDups_snoc
  · refine Members.ofWritten_eq_self_iff.trans ?_
    rw [names_markedMembers, List.nodup_append]
    simp

/-- A state of which some properties are omitted, with one of the mark's name among those listed. -/
def partialState : ObjectPreview :=
  { overflow := true,
    properties := [{ name := "...", value := some "1" }, { name := "size" },
      { name := "size", value := some "2" }] }

def storePreview : ObjectPreview :=
  { properties := [{ name := "id", value := some "7" },
      { name := "state", valuePreview := some partialState }] }

/-- An object with that state. -/
def store : RemoteObject :=
  { kind := some "object", className := some "Store", objectId := some "store",
    preview := some storePreview }

theorem truncation_in_print_nested :
    store.kind = some "object" ∧ store.value = none ∧
    store.preview = some storePreview ∧ shownPreview? [1] storePreview = some partialState ∧
    partialState.overflow = true ∧
    ∃ node ms, (Expansion.ofObject taggedLookup 1 store).node.at? [1] = some node ∧
      node.toJson = .object ms ∧ ms.map Prod.fst = ["...", "size"] ∧
      Members.get? ms "..." = some (.string "(truncated)") ∧
      Members.get? ms "size" = some (.string "2") ∧
      ms.getLast? ≠ some ("...", .string "(truncated)") := by
  have hkind : store.kind = some "object" := rfl
  have hshown : shownPreview? [1] storePreview = some partialState := rfl
  obtain ⟨node, ms, hat, hjson, -, hmark, hnames, hlisted, hlast, -⟩ :=
    truncation_in_print taggedLookup 1 hkind rfl rfl hshown rfl
  refine ⟨hkind, rfl, rfl, hshown, rfl, node, ms, hat, hjson, hnames.trans (by decide), hmark,
    hlisted 2 _ rfl (by decide) (by decide), fun h => ?_⟩
  have hsubset := hlast.mp h [] ["size", "size"] rfl
  exact absurd hsubset (by decide)

/-- An object with a preview that omits properties and lists one of the mark's name. -/
def marked : RemoteObject :=
  { kind := some "object",
    preview := some { overflow := true, properties := [{ name := "...", value := some "1" },
      { name := "a", value := some "2" }] } }

/-- The mark takes the place of a listed property of its name, and is not the last member then. -/
theorem mark_displaced :
    (¬ ∀ (source : PropertyLookup) (depth : Nat) (o : RemoteObject) (p : ObjectPreview),
      o.kind = some "object" → o.value = none → o.preview = some p → p.overflow = true →
        ∃ ms, (Expansion.ofObject source depth o).node.toJson = .object ms ∧
          ms.getLast? = some ("...", .string "(truncated)")) ∧
    (Expansion.ofObject taggedLookup 0 marked).node.toJson =
      .object [("...", .string "(truncated)"), ("a", .string "2")] := by
  have hjson : (Expansion.ofObject taggedLookup 0 marked).node.toJson =
      .object [("...", .string "(truncated)"), ("a", .string "2")] := by
    decide
  refine ⟨fun h => ?_, hjson⟩
  obtain ⟨ms, hms, hlast⟩ := h taggedLookup 0 marked _ rfl rfl rfl rfl
  obtain rfl := Value.object.inj (hms.symm.trans hjson)
  exact absurd hlast (by decide)

end ConsoleTap.Print
