import ConsoleTap.Print.Rendered
import ConsoleTap.Proofs.Json.Members
import ConsoleTap.Proofs.Print.Answers

/-!
# Mappings in print

A mapping is printed as a JSON object with one member for each name among its entries, at
the place of the first entry of that name and with the printed form of the last one.  So
every entry is seen exactly if no two have the same name.  For the mapping of a fetched
object this says which of its properties are seen: of properties with the same name, such
as those without any, all but the last one vanish.
-/

namespace ConsoleTap.Print

open ConsoleTap.Json ConsoleTap.Target

variable {answers : Answers} {o : RemoteObject} {objectId : String}
  {properties : List PropertyDescriptor}

theorem entriesToJson_eq_map (entries : List (String × Node)) :
    entriesToJson entries = entries.map fun e => (e.1, e.2.toJson) := by
  induction entries with
  | nil => rfl
  | cons e rest ih =>
      obtain ⟨name, node⟩ := e
      rw [entriesToJson, ih, List.map_cons]

theorem toJson_mapping (className : Option String) (entries : List (String × Node)) :
    (Node.mapping className entries).toJson =
      .object (Members.ofWritten (entries.map fun e => (e.1, e.2.toJson))) := by
  rw [Node.toJson, entriesToJson_eq_map]

/-- The line above the text of a mapping: the class, if it is worth naming. -/
def classLine : Option String → String
  | none => ""
  | some className => if isWorthNaming className then "[" ++ className ++ "]\n" else ""

/-- A mapping is a block: its JSON object, below the line of its class. -/
theorem ofNode_mapping (className : Option String) (entries : List (String × Node)) :
    Rendered.ofNode (.mapping className entries) =
      ⟨classLine className ++ (Node.mapping className entries).toJson.indented, true⟩ := by
  cases className with
  | none => rw [Rendered.ofNode, classLine, String.empty_append]
  | some className =>
      rw [Rendered.ofNode, classLine]
      split
      · rfl
      · rw [String.empty_append]

/-! ### The properties of a fetched object -/

/-- The members written for the properties of a fetched object that have a value, each with the
    printed form of its own value. -/
def propertyMembers (answers : Answers) (depth : Nat) (properties : List PropertyDescriptor) :
    List (String × Value) :=
  (valued properties).mapIdx fun i p => (p.1, (Node.ofAnswers (answers.within i) depth p.2).toJson)

theorem getElem?_propertyMembers {i : Nat} {name : String} {value : RemoteObject}
    (answers : Answers) (depth : Nat) (hi : (valued properties)[i]? = some (name, value)) :
    (propertyMembers answers depth properties)[i]? =
      some (name, (Node.ofAnswers (answers.within i) depth value).toJson) := by
  rw [propertyMembers, List.getElem?_mapIdx, hi]
  rfl

theorem names_propertyMembers (answers : Answers) (depth : Nat)
    (properties : List PropertyDescriptor) :
    (propertyMembers answers depth properties).map Prod.fst = (valued properties).map Prod.fst := by
  refine List.ext_getElem? fun i => ?_
  rw [propertyMembers, List.getElem?_map, List.getElem?_map, List.getElem?_mapIdx, Option.map_map]
  rfl

theorem toJson_fetched (depth : Nat) (hhandle : handle? o = some objectId)
    (hproperties : answers [] objectId = .ok properties) :
    (Node.ofAnswers answers (depth + 1) o).toJson =
      .object (Members.ofWritten (propertyMembers answers depth properties)) := by
  have hmembers : ((valued properties).mapIdx fun i p =>
      (p.1, Node.ofAnswers (answers.within i) depth p.2)).map (fun e => (e.1, e.2.toJson)) =
        propertyMembers answers depth properties := by
    refine List.ext_getElem? fun i => ?_
    rw [propertyMembers, List.getElem?_map, List.getElem?_mapIdx, List.getElem?_mapIdx,
      Option.map_map]
    rfl
  rw [ofAnswers_fetched hhandle hproperties, toJson_mapping, hmembers]

/-- A fetched object is printed as a JSON object with one member for each name among the properties
    that have a value, in the order in which the names come first in the reply.  A property that no
    later one of its name follows is shown with the printed form of its own value.  So the members
    are those of all properties with a value, in the order of the reply, exactly if no two of them
    have the same name. -/
theorem fetched_in_print (answers : Answers) (depth : Nat) (hhandle : handle? o = some objectId)
    (hproperties : answers [] objectId = .ok properties) :
    ∃ ms, (Node.ofAnswers answers (depth + 1) o).toJson = .object ms ∧
      Rendered.ofNode (Node.ofAnswers answers (depth + 1) o) =
        ⟨classLine o.className ++ (Value.object ms).indented, true⟩ ∧
      ms.map Prod.fst = ((valued properties).map Prod.fst).eraseDups ∧
      (∀ i name value, (valued properties)[i]? = some (name, value) →
        name ∉ ((valued properties).map Prod.fst).drop (i + 1) →
        Members.get? ms name = some (Node.ofAnswers (answers.within i) depth value).toJson) ∧
      (ms = (valued properties).mapIdx (fun i p =>
          (p.1, (Node.ofAnswers (answers.within i) depth p.2).toJson)) ↔
        ((valued properties).map Prod.fst).Nodup) ∧
      ∀ source, Node.ofAnswers (fun _ => source) (depth + 1) o =
        (Expansion.ofObject source (depth + 1) o).node := by
  have hjson := toJson_fetched depth hhandle hproperties
  refine ⟨_, hjson, ?_, ?_, ?_, ?_, fun source => ofAnswers_const source (depth + 1) o⟩
  · rw [← hjson, ofAnswers_fetched hhandle hproperties, ofNode_mapping]
  · rw [Members.names_ofWritten, names_propertyMembers]
  · intro i name value hi hlast
    refine Members.get?_ofWritten_of_last (getElem?_propertyMembers answers depth hi) ?_
    rw [names_propertyMembers]
    exact hlast
  · rw [← names_propertyMembers answers depth properties]
    exact Members.ofWritten_eq_self_iff

/-- An object with two symbols of the same description, an accessor, and an object that cannot be
    fetched. -/
def tagged : RemoteObject :=
  { kind := some "object", className := some "Tagged", objectId := some "tagged" }

def taggedProperties : List PropertyDescriptor :=
  [⟨"Symbol(tag)", some { kind := some "number", value := some (.integer 1) }⟩,
    ⟨"size", none⟩,
    ⟨"owner", some { kind := some "object", objectId := some "owner" }⟩,
    ⟨"Symbol(tag)", some { kind := some "number", value := some (.integer 2) }⟩]

def taggedLookup : PropertyLookup := fun objectId =>
  if objectId = "tagged" then .ok taggedProperties
  else .error (.timeout "Runtime.getProperties")

theorem fetched_in_print_tagged :
    handle? tagged = some "tagged" ∧ taggedLookup "tagged" = .ok taggedProperties ∧
    ∃ ms, (Expansion.ofObject taggedLookup 2 tagged).node.toJson = .object ms ∧
      ms.map Prod.fst = ["Symbol(tag)", "owner"] ∧
      Members.get? ms "Symbol(tag)" = some (.integer 2) ∧
      Members.get? ms "owner" = some (.string "[Object: timeout]") := by
  have hhandle : handle? tagged = some "tagged" := rfl
  have hproperties : taggedLookup "tagged" = .ok taggedProperties := rfl
  obtain ⟨ms, hjson, -, hnames, hshown, -, hsource⟩ :=
    fetched_in_print (fun _ => taggedLookup) 1 hhandle hproperties
  exact ⟨hhandle, hproperties, ms, hsource taggedLookup ▸ hjson, hnames.trans (by decide),
    hshown 2 "Symbol(tag)" _ rfl (by decide), hshown 1 "owner" _ rfl (by decide)⟩

/-- Of two properties with the same name the first one vanishes. -/
theorem property_overwritten :
    (¬ ∀ (source : PropertyLookup) (depth : Nat) (o : RemoteObject) (objectId : String)
      (properties : List PropertyDescriptor), handle? o = some objectId →
        source objectId = .ok properties →
        ∃ ms, (Expansion.ofObject source (depth + 1) o).node.toJson = .object ms ∧
          ms.length = (valued properties).length) ∧
    (Expansion.ofObject taggedLookup 2 tagged).node.toJson =
      .object [("Symbol(tag)", .integer 2), ("owner", .string "[Object: timeout]")] := by
  have hjson : (Expansion.ofObject taggedLookup 2 tagged).node.toJson =
      .object [("Symbol(tag)", .integer 2), ("owner", .string "[Object: timeout]")] := by
    decide
  refine ⟨fun h => ?_, hjson⟩
  obtain ⟨ms, hms, hlength⟩ := h taggedLookup 1 tagged "tagged" taggedProperties rfl rfl
  obtain rfl := Value.object.inj (hms.symm.trans hjson)
  cases hlength

end ConsoleTap.Print
