import ConsoleTap.Print.Expansion

/-!
# The objects of an expansion

One object is expanded in one of three ways: it is shown as it is, its fetch fails, or
its parts are expanded in turn.  The parts are numbered as they come in the reply, and
the numbers on the way to an object are its place; its level is the length of the place.
The objects that can be met are found by place, whatever the number of hops.
-/

namespace ConsoleTap.Print

open ConsoleTap.Json ConsoleTap.Target

variable {source : PropertyLookup} {hops i : Nat} {o x : RemoteObject} {objectId name : String}
  {properties : List PropertyDescriptor} {fault : Fault} {place : List Nat}

/-! ### One object -/

/-- The objects worth a fetch: of type `object`, with a handle, and sent neither with their value
    nor with a preview. -/
theorem handle?_eq_some_iff :
    handle? o = some objectId ↔
      o.kind = some "object" ∧ o.objectId = some objectId ∧ o.value = none ∧ o.preview = none := by
  rw [handle?]
  split
  · rename_i h
    simp only [Bool.and_eq_true, RemoteObject.isObject, beq_iff_eq, Option.isNone_iff_eq_none] at h
    obtain ⟨⟨hvalue, hkind⟩, hpreview⟩ := h
    exact ⟨fun hid => ⟨hkind, hid, hvalue, hpreview⟩, fun hid => hid.2.1⟩
  · rename_i h
    constructor
    · intro hid
      cases hid
    · rintro ⟨hkind, -, hvalue, hpreview⟩
      exact absurd (by simp [RemoteObject.isObject, hkind, hvalue, hpreview]) h

theorem handle?_eq_none (h : o.value ≠ none ∨ o.preview ≠ none ∨ o.kind ≠ some "object") :
    handle? o = none := by
  cases hhandle : handle? o with
  | none => rfl
  | some objectId =>
      obtain ⟨hkind, -, hvalue, hpreview⟩ := handle?_eq_some_iff.mp hhandle
      rcases h with h | h | h
      · exact absurd hvalue h
      · exact absurd hpreview h
      · exact absurd hkind h

/-- An object that is worth a fetch is shown by its description if it is not fetched. -/
theorem unfetched_of_handle (h : handle? o = some objectId) :
    unfetched o = .text (o.description.getD unknownObjectText) := by
  obtain ⟨hkind, -, hvalue, hpreview⟩ := handle?_eq_some_iff.mp h
  simp [unfetched, RemoteObject.isObject, hkind, hvalue, hpreview]

theorem ofObject_plain (hplain : hops = 0 ∨ handle? o = none) :
    Expansion.ofObject source hops o = ⟨unfetched o, []⟩ := by
  cases hops with
  | zero => rfl
  | succ hops =>
      rcases hplain with hzero | hnone
      · cases hzero
      · rw [Expansion.ofObject, hnone]

theorem ofObject_failed (hhandle : handle? o = some objectId)
    (hfault : source objectId = .error fault) :
    Expansion.ofObject source (hops + 1) o = ⟨.text (failureText fault), [objectId]⟩ := by
  rw [Expansion.ofObject, hhandle]
  simp only [hfault]

theorem ofObject_fetched (hhandle : handle? o = some objectId)
    (hproperties : source objectId = .ok properties) :
    Expansion.ofObject source (hops + 1) o =
      .ofEntries o.className objectId
        ((valued properties).map fun p => (p.1, Expansion.ofObject source hops p.2)) := by
  rw [Expansion.ofObject, hhandle]
  simp only [hproperties]

theorem node_fetched (hhandle : handle? o = some objectId)
    (hproperties : source objectId = .ok properties) :
    (Expansion.ofObject source (hops + 1) o).node =
      .mapping o.className
        ((valued properties).map fun p => (p.1, (Expansion.ofObject source hops p.2).node)) := by
  rw [ofObject_fetched hhandle hproperties, Expansion.ofEntries, List.map_map]
  rfl

/-! ### Parts and places -/

/-- The descriptors in a reply that carry a value, in their order; an accessor carries none. -/
def carriers (properties : List PropertyDescriptor) : List PropertyDescriptor :=
  properties.filter fun p => p.value.isSome

theorem map_snd_valued (properties : List PropertyDescriptor) :
    (valued properties).map Prod.snd = properties.filterMap PropertyDescriptor.value := by
  rw [valued, List.map_filterMap]
  congr 1
  funext p
  cases p.value <;> rfl

/-- What is expanded of a reply are the values of those descriptors, under their names. -/
theorem getElem?_valued : (valued properties)[i]? = some (name, x) ↔
    ∃ p, (carriers properties)[i]? = some p ∧ p.name = name ∧ p.value = some x := by
  induction properties generalizing i with
  | nil => simp [valued, carriers]
  | cons p rest ih =>
      cases hvalue : p.value with
      | none =>
          have hskip : carriers (p :: rest) = carriers rest :=
            List.filter_cons_of_neg (by simp [hvalue])
          have hnone : valued (p :: rest) = valued rest :=
            List.filterMap_cons_none (by rw [hvalue]; rfl)
          rw [hskip, hnone]
          exact ih
      | some v =>
          have hkeep : carriers (p :: rest) = p :: carriers rest :=
            List.filter_cons_of_pos (by simp [hvalue])
          have hsome : valued (p :: rest) = (p.name, v) :: valued rest :=
            List.filterMap_cons_some (by rw [hvalue]; rfl)
          rw [hkeep, hsome]
          cases i with
          | zero => simp [hvalue]
          | succ i => exact ih

/-- The values that the reply to the fetch of an object brings, in the order of its descriptors;
    there are none if the object is not worth a fetch or the fetch fails. -/
def parts (source : PropertyLookup) (o : RemoteObject) : List RemoteObject :=
  match handle? o with
  | none => []
  | some objectId =>
      match source objectId with
      | .error _ => []
      | .ok properties => properties.filterMap PropertyDescriptor.value

theorem parts_of_none (h : handle? o = none) : parts source o = [] := by
  rw [parts, h]

theorem parts_of_failed (hhandle : handle? o = some objectId)
    (hfault : source objectId = .error fault) : parts source o = [] := by
  simp only [parts, hhandle, hfault]

theorem parts_of_fetched (hhandle : handle? o = some objectId)
    (hproperties : source objectId = .ok properties) :
    parts source o = (valued properties).map Prod.snd := by
  simp only [parts, hhandle, hproperties, map_snd_valued]

/-- A part of an object is the value of a property in the reply to its fetch. -/
theorem reply_of_part (h : (parts source o)[i]? = some x) :
    ∃ objectId properties name, handle? o = some objectId ∧ source objectId = .ok properties ∧
      (valued properties)[i]? = some (name, x) := by
  cases hhandle : handle? o with
  | none => rw [parts_of_none hhandle] at h; cases h
  | some objectId =>
      cases hsource : source objectId with
      | error fault => rw [parts_of_failed hhandle hsource] at h; cases h
      | ok properties =>
          rw [parts_of_fetched hhandle hsource, List.getElem?_map, Option.map_eq_some_iff] at h
          obtain ⟨⟨name, part⟩, hvalued, rfl⟩ := h
          exact ⟨objectId, properties, name, rfl, hsource, hvalued⟩

/-- The object at a place below an object, if fetches lead there. -/
def objectAt? (source : PropertyLookup) : (place : List Nat) → RemoteObject → Option RemoteObject
  | [], o => some o
  | i :: place, o => (parts source o)[i]?.bind (objectAt? source place)

theorem objectAt?_of_no_parts (h : parts source o = []) :
    objectAt? source (i :: place) o = none := by
  rw [objectAt?, h]
  rfl

theorem objectAt?_append (place below : List Nat) (o : RemoteObject) :
    objectAt? source (place ++ below) o = (objectAt? source place o).bind (objectAt? source below) := by
  induction place generalizing o with
  | nil => rfl
  | cons i place ih =>
      rw [List.cons_append, objectAt?, objectAt?, Option.bind_assoc]
      exact congrArg _ (funext ih)

end ConsoleTap.Print
