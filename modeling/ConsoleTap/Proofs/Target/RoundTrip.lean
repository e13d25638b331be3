import ConsoleTap.Proofs.Target.Forms

/-!
# Writing a remote object and reading it back

Each record is written as an object with one member for each field that is present, in the
order of the schema.  So reading it back is one step for each field: `Stores` says from what to
what a stretch of members leads, and the stretches of the fields are put together.  A field
that is left out leaves the default, which is its absence again; an inline value is written
whenever it is present, so `null` comes back as `null`.
-/

namespace ConsoleTap.Json.Schema

variable {R α : Type} {schema : Schema R} {r r' r'' : R} {ms ms' : Members}

/-- Reading these members leads from one record to another. -/
def Stores (schema : Schema R) (ms : Members) (r r' : R) : Prop :=
  ms.foldlM schema.storeMember r = .ok r'

theorem Stores.append (h : schema.Stores ms r r') (h' : schema.Stores ms' r' r'') :
    schema.Stores (ms ++ ms') r r'' := by
  rw [Stores, List.foldlM_append, h]
  exact h'

theorem stores_member (schema : Schema R) (name : String) (r : R) {read : Value → Reading α}
    {put : R → α → R} (hfield : schema.field? name = some (field name read put)) {v : Value} {x : α}
    (hread : read v = .ok x) : schema.Stores [(name, v)] r (put r x) := by
  rw [Stores, List.foldlM_cons, storeMember_of_some hfield]
  change ((read v).map (put r) >>= fun r => .ok r) = _
  rw [hread]
  rfl

end ConsoleTap.Json.Schema

namespace ConsoleTap.Target

open ConsoleTap.Json

section Fields

variable {R α : Type} (schema : Schema R) (name : String) (r : R)

/-- A field that is left out when absent. -/
theorem stores_optionalMember {read : Value → Reading (Option α)} {put : R → Option α → R}
    (hfield : schema.field? name = some (field name read put)) (habsent : put r none = r)
    (write : α → Value) (hread : ∀ x, read (write x) = .ok (some x)) (x? : Option α) :
    schema.Stores (optionalMember name (x?.map write)) r (put r x?) := by
  cases x? with
  | none => exact congrArg Except.ok habsent.symm
  | some x => exact schema.stores_member name r hfield (hread x)

theorem stores_textMember {put : R → Option String → R}
    (hfield : schema.field? name = some (field name (readOption readString) put))
    (habsent : put r none = r) (s : Option String) :
    schema.Stores (textMember name s) r (put r s) :=
  stores_optionalMember schema name r hfield habsent .string (fun _ => rfl) s

end Fields

/-! ### Previews -/

theorem read_present {α : Type} {read : Value → Reading α} {v : Value} {x : α}
    (hread : read v = .ok x) (hnull : v ≠ .null) : readOption read v = .ok (some x) := by
  rw [readOption_of_ne_null hnull, hread]
  rfl

theorem ObjectPreview.toJson_ne_null (p : ObjectPreview) : p.toJson ≠ .null := by
  cases p
  nofun

mutual

theorem read_objectPreview : (p : ObjectPreview) → readPreview p.toJson = .ok p
  | ⟨kind, subtype, description, overflow, properties⟩ => by
      let schema := ObjectPreview.schema readPropertyPreview
      have hlist : readList readPropertyPreview (.array (propertiesToJson properties)) =
        .ok properties := read_properties properties
      -- what has been read so far grows by one field with each stretch
      have hkind := stores_textMember schema "type" {} rfl rfl kind
      have hsubtype := stores_textMember schema "subtype" { kind } rfl rfl subtype
      have hdescription :=
        stores_textMember schema "description" { kind, subtype } rfl rfl description
      have hoverflow := schema.stores_member "overflow" { kind, subtype, description } rfl
        (show readBool (.bool overflow) = .ok overflow from rfl)
      have hproperties :=
        schema.stores_member "properties" { kind, subtype, description, overflow } rfl hlist
      rw [readPreview_eq, ObjectPreview.toJson]
      exact ((hkind.append hsubtype).append hdescription).append (hoverflow.append hproperties)

theorem read_propertyPreview : (p : PropertyPreview) → readPropertyPreview p.toJson = .ok p
  | ⟨name, kind, value, valuePreview, subtype⟩ => by
      let schema := PropertyPreview.schema readPreview
      have hname := schema.stores_member "name" {} rfl
        (show readString (.string name) = .ok name from rfl)
      have hkind := stores_textMember schema "type" { name } rfl rfl kind
      have hvalue := stores_textMember schema "value" { name, kind } rfl rfl value
      have hpreview := stores_valuePreview name kind value valuePreview
      have hsubtype :=
        stores_textMember schema "subtype" { name, kind, value, valuePreview } rfl rfl subtype
      rw [readPropertyPreview, PropertyPreview.toJson]
      exact (((hname.append hkind).append hvalue).append hpreview).append hsubtype

theorem read_properties : (ps : List PropertyPreview) →
    (propertiesToJson ps).mapM readPropertyPreview = .ok ps
  | [] => rfl
  | p :: rest => by
      rw [propertiesToJson, List.mapM_cons, read_propertyPreview p, read_properties rest]
      rfl

theorem stores_valuePreview (name : String) (kind value : Option String) :
    (p? : Option ObjectPreview) →
    (PropertyPreview.schema readPreview).Stores (valuePreviewMember p?) { name, kind, value }
      { name, kind, value, valuePreview := p? }
  | none => by
      rw [valuePreviewMember]
      rfl
  | some p => by
      have hread := read_present (read_objectPreview p) p.toJson_ne_null
      rw [valuePreviewMember]
      exact (PropertyPreview.schema readPreview).stores_member "valuePreview" _ rfl hread

end

/-! ### Objects -/

theorem read_remoteObject (o : RemoteObject) : readRemoteObject o.toJson = .ok o := by
  obtain ⟨kind, subtype, className, value, description, objectId, preview⟩ := o
  let schema := RemoteObject.schema
  have hkind := stores_textMember schema "type" {} rfl rfl kind
  have hsubtype := stores_textMember schema "subtype" { kind } rfl rfl subtype
  have hclass := stores_textMember schema "className" { kind, subtype } rfl rfl className
  have hvalue := stores_optionalMember schema "value" { kind, subtype, className } rfl rfl
    id (fun _ => rfl) value
  have hdescription := stores_textMember schema "description" { kind, subtype, className, value }
    rfl rfl description
  have hobjectId := stores_textMember schema "objectId"
    { kind, subtype, className, value, description } rfl rfl objectId
  have hpreview := stores_optionalMember schema "preview"
    { kind, subtype, className, value, description, objectId } rfl rfl
    ObjectPreview.toJson (fun p => read_present (read_objectPreview p) p.toJson_ne_null) preview
  rw [Option.map_id_apply] at hvalue
  exact (((((hkind.append hsubtype).append hclass).append hvalue).append hdescription).append
    hobjectId).append hpreview

theorem get?_optionalMember_self (name : String) (v? : Option Value) :
    Members.get? (optionalMember name v?) name = v? := by
  cases v? with
  | none => rfl
  | some v => rw [optionalMember, Members.get?, if_pos rfl]

theorem get?_optionalMember_ne {name other : String} (h : name ≠ other) (v? : Option Value) :
    Members.get? (optionalMember name v?) other = none := by
  cases v? with
  | none => rfl
  | some v =>
      rw [optionalMember, Members.get?, if_neg h]
      rfl

/-- The written object has an inline value exactly if the object has one, and it is the same. -/
theorem get?_value_toJson (o : RemoteObject) : o.toJson.get? "value" = o.value := by
  change Members.get? _ "value" = o.value
  simp only [textMember, Members.get?_append, get?_optionalMember_self, ne_eq,
    get?_optionalMember_ne, String.reduceEq, not_false_eq_true, Option.none_or, Option.or_none]

/-- A remote object is read back from what it is written as, however deep its previews are and
    whatever its inline value is; an absent value stays apart from `null`.  So whatever was read
    from either form of a record is written the same from then on. -/
theorem remoteObject_reads_back :
    (∀ o, readRemoteObject o.toJson = .ok o) ∧
    (∀ o : RemoteObject, o.toJson.get? "value" = o.value) ∧
    ∀ v o, readRemoteObject v = .ok o →
      ∃ o', readRemoteObject o.toJson = .ok o' ∧ o'.toJson = o.toJson :=
  ⟨read_remoteObject, get?_value_toJson, fun _ o _ => ⟨o, read_remoteObject o, rfl⟩⟩

/-- The positional form of an object with the value `null` and a preview within a preview. -/
def positionalObject : Value :=
  let inner : Value := .array [.string "array", .null, .null, .bool false]
  let property : Value := .array [.string "p", .null, .null, inner]
  .array [.string "object", .null, .null, .null, .null, .string "7",
    .array [.null, .null, .string "Object", .bool true, .array [property]]]

theorem remoteObject_reads_back_positional :
    ∃ o, readRemoteObject positionalObject = .ok o ∧ o.value = some .null ∧
      o.toJson ≠ positionalObject ∧ o.toJson.get? "value" = some .null ∧
      ∃ o', readRemoteObject o.toJson = .ok o' ∧ o'.toJson = o.toJson := by
  obtain ⟨-, hvalue, hread⟩ := remoteObject_reads_back
  exact ⟨_, rfl, rfl, nofun, hvalue _, hread positionalObject _ rfl⟩

end ConsoleTap.Target
