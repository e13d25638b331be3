import ConsoleTap.Proofs.Json.Records
import ConsoleTap.Target.Message

/-!
# The forms of what a target sends

The parameters of an event are a record, whose fields are texts, flags, integers, lists and
further records, down to the previews of objects, which nest.  Which fields a record has, and
of which form each of them is, is a table: `RecordKind.fields`.  `Fits` says of a value that
it has a form, without saying how it is read.  The two are brought together by `Form.read`,
the reader of a form, and by `Form.read_ok_iff`: a reader accepts exactly what fits.

A preview is read with a bound on its depth, taken from the value.  The bound never bites:
`readPreview_eq` is the equation without it.
-/

namespace ConsoleTap.Target

open ConsoleTap.Json

/-! ### Previews without a bound -/

theorem readProperty_congr {preview preview' : Value → Reading ObjectPreview} {v : Value}
    (h : ∀ w : Value, w.depth < v.depth → preview w = preview' w) :
    (PropertyPreview.schema preview).read v = (PropertyPreview.schema preview').read v := by
  refine Schema.read_congr rfl rfl ?_
  refine .cons ⟨rfl, rfl, fun _ _ => rfl⟩ (.cons ⟨rfl, rfl, fun _ _ => rfl⟩
    (.cons ⟨rfl, rfl, fun _ _ => rfl⟩ (.cons ⟨rfl, rfl, fun w hw => ?_⟩
      (.cons ⟨rfl, rfl, fun _ _ => rfl⟩ .nil))))
  have hread : readOption preview w = readOption preview' w := readOption_congr fun _ => h w hw
  funext r
  simp only [field, hread]

theorem readList_congr {property property' : Value → Reading PropertyPreview} {v : Value}
    (h : ∀ w : Value, w.depth < v.depth → property w = property' w) :
    readList property v = readList property' v := by
  cases v with
  | array items => exact mapM_congr fun w hw => h w (depth_lt_of_mem_items hw)
  | _ => rfl

theorem readPreview_congr {property property' : Value → Reading PropertyPreview} {v : Value}
    (h : ∀ w : Value, w.depth < v.depth → property w = property' w) :
    (ObjectPreview.schema property).read v = (ObjectPreview.schema property').read v := by
  refine Schema.read_congr rfl rfl ?_
  refine .cons ⟨rfl, rfl, fun _ _ => rfl⟩ (.cons ⟨rfl, rfl, fun _ _ => rfl⟩
    (.cons ⟨rfl, rfl, fun _ _ => rfl⟩ (.cons ⟨rfl, rfl, fun _ _ => rfl⟩
      (.cons ⟨rfl, rfl, fun w hw => ?_⟩ .nil))))
  have hread : readList property w = readList property' w :=
    readList_congr fun u hu => h u (Nat.lt_trans hu hw)
  funext r
  simp only [field, hread]

/-- Every bound from the depth of the value on will do. -/
theorem readPreviewWithin_eq {depth : Nat} {v : Value} (h : v.depth ≤ depth) :
    readPreviewWithin depth v = readPreview v := by
  induction hv : v.depth using Nat.strongRecOn generalizing depth v with
  | ind n ih =>
      subst hv
      rw [readPreview]
      cases depth with
      | zero => rw [Nat.le_zero.mp h]
      | succ depth =>
          cases hdepth : v.depth with
          | zero =>
              -- a value without parts is no record, whatever the bound
              cases v with
              | array items => simp [Value.depth] at hdepth
              | object members => simp [Value.depth] at hdepth
              | _ => rfl
          | succ bound =>
              rw [hdepth] at h
              refine readPreview_congr fun w hw => readProperty_congr fun u hu => ?_
              rw [ih u.depth (Nat.lt_trans hu hw) (by omega) rfl,
                ih u.depth (Nat.lt_trans hu hw) (by omega) rfl]

theorem readPreview_eq (v : Value) :
    readPreview v = (ObjectPreview.schema readPropertyPreview).read v := by
  rw [← readPreviewWithin_eq (Nat.le_succ v.depth)]
  refine readPreview_congr fun w hw => readProperty_congr fun u hu => ?_
  exact readPreviewWithin_eq (Nat.le_of_lt (Nat.lt_trans hu hw))

/-! ### Forms -/

/-- The records that occur in the parameters of events. -/
inductive RecordKind where
  | remoteObject
  | objectPreview
  | propertyPreview
  | exceptionDetails
  | exceptionThrown
  | consoleCall
  | logEntry
  | logEntryAdded
deriving DecidableEq, Repr

/-- What a value may have to look like. -/
inductive Form where
  | text
  | flag
  /-- An integer of the signed 64-bit range. -/
  | whole
  | anything
  /-- Something of that form, or `null`. -/
  | optional (part : Form)
  | list (item : Form)
  | record (kind : RecordKind)
deriving DecidableEq, Repr

/-- The fields of each record with their forms, in the order of the positional form. -/
def RecordKind.fields : RecordKind → List (String × Form)
  | .remoteObject =>
      [("type", .optional .text), ("subtype", .optional .text), ("className", .optional .text),
        ("value", .anything), ("description", .optional .text), ("objectId", .optional .text),
        ("preview", .optional (.record .objectPreview))]
  | .objectPreview =>
      [("type", .optional .text), ("subtype", .optional .text), ("description", .optional .text),
        ("overflow", .flag), ("properties", .list (.record .propertyPreview))]
  | .propertyPreview =>
      [("name", .text), ("type", .optional .text), ("value", .optional .text),
        ("valuePreview", .optional (.record .objectPreview)), ("subtype", .optional .text)]
  | .exceptionDetails =>
      [("text", .optional .text), ("exception", .optional (.record .remoteObject)),
        ("url", .optional .text), ("lineNumber", .optional .whole),
        ("columnNumber", .optional .whole)]
  | .exceptionThrown => [("exceptionDetails", .record .exceptionDetails)]
  | .consoleCall => [("type", .text), ("args", .list (.record .remoteObject))]
  | .logEntry => [("level", .text), ("text", .text), ("source", .optional .text)]
  | .logEntryAdded => [("entry", .record .logEntry)]

/-- A value has a form.  A record is an object whose members of the fields' names have the fields'
    forms, or an array with at most as many items as there are fields, each of the form of the field
    at its place.  Fields may be missing, and members of other names may be there. -/
inductive Fits : Form → Value → Prop where
  | text (s : String) : Fits .text (.string s)
  | flag (b : Bool) : Fits .flag (.bool b)
  | whole {n : Int} (hrange : Is64Bit n) : Fits .whole (.integer n)
  | anything (v : Value) : Fits .anything v
  | absent (part : Form) : Fits (.optional part) .null
  | optional {part : Form} {v : Value} (h : Fits part v) : Fits (.optional part) v
  | list {item : Form} {items : List Value} (h : ∀ v ∈ items, Fits item v) :
      Fits (.list item) (.array items)
  | members {kind : RecordKind} {ms : Members}
      (h : ∀ name form v, (name, form) ∈ kind.fields → (name, v) ∈ ms → Fits form v) :
      Fits (.record kind) (.object ms)
  | items {kind : RecordKind} {items : List Value} (hlength : items.length ≤ kind.fields.length)
      (h : ∀ (i : Nat) name form v, kind.fields[i]? = some (name, form) → items[i]? = some v →
        Fits form v) : Fits (.record kind) (.array items)

/-! ### The readers of forms -/

/-- What a record is read into. -/
abbrev RecordKind.Content : RecordKind → Type
  | .remoteObject => RemoteObject
  | .objectPreview => ObjectPreview
  | .propertyPreview => PropertyPreview
  | .exceptionDetails => ExceptionDetails
  | .exceptionThrown => ExceptionThrown
  | .consoleCall => ConsoleCall
  | .logEntry => LogEntry
  | .logEntryAdded => LogEntryAdded

/-- What a value of a form is read into. -/
abbrev Form.Content : Form → Type
  | .text => String
  | .flag => Bool
  | .whole => Int
  | .anything => Option Value
  | .optional part => Option part.Content
  | .list item => List item.Content
  | .record kind => kind.Content

def RecordKind.schema : (kind : RecordKind) → Schema kind.Content
  | .remoteObject => RemoteObject.schema
  | .objectPreview => ObjectPreview.schema readPropertyPreview
  | .propertyPreview => PropertyPreview.schema readPreview
  | .exceptionDetails => ExceptionDetails.schema
  | .exceptionThrown => ExceptionThrown.schema
  | .consoleCall => ConsoleCall.schema
  | .logEntry => LogEntry.schema
  | .logEntryAdded => LogEntryAdded.schema

/-- The reader of a record, as the program has it. -/
def RecordKind.read : (kind : RecordKind) → Value → Reading kind.Content
  | .remoteObject => readRemoteObject
  | .objectPreview => readPreview
  | .propertyPreview => readPropertyPreview
  | .exceptionDetails => readExceptionDetails
  | .exceptionThrown => readExceptionThrown
  | .consoleCall => readConsoleCall
  | .logEntry => readLogEntry
  | .logEntryAdded => readLogEntryAdded

def Form.read : (form : Form) → Value → Reading form.Content
  | .text => readString
  | .flag => readBool
  | .whole => readInteger
  | .anything => readAny
  | .optional part => readOption part.read
  | .list item => readList item.read
  | .record kind => kind.read

theorem RecordKind.read_eq (kind : RecordKind) (v : Value) : kind.read v = kind.schema.read v := by
  cases kind with
  | objectPreview => exact readPreview_eq v
  | _ => rfl

/-- The field has that name, may be missing, and is read by the reader of that form. -/
structure HasForm {R : Type} (entry : String × Form) (f : Json.Field R) : Prop where
  name : f.name = entry.1
  optional : f.required = false
  store : ∃ put : R → entry.2.Content → R, ∀ v r, f.store v r = (entry.2.read v).map (put r)

theorem hasForm_field {R : Type} (name : String) (form : Form) (put : R → form.Content → R) :
    HasForm (name, form) (field name form.read put) :=
  ⟨rfl, rfl, put, fun _ _ => rfl⟩

/-- The readers of records follow the table. -/
theorem RecordKind.hasForms (kind : RecordKind) :
    List.Forall₂ HasForm kind.fields kind.schema.fields := by
  cases kind <;>
    repeat first | exact .nil | refine .cons (hasForm_field _ _ _) ?_

theorem RecordKind.lawful (kind : RecordKind) : kind.schema.Lawful := by
  constructor
  · cases kind <;> decide
  · cases kind <;>
      simp [RecordKind.schema, RemoteObject.schema, ObjectPreview.schema, PropertyPreview.schema,
        ExceptionDetails.schema, ExceptionThrown.schema, ConsoleCall.schema, LogEntry.schema,
        LogEntryAdded.schema, Json.Field.commute_field]

theorem RecordKind.nodup_names (kind : RecordKind) : (kind.fields.map Prod.fst).Nodup := by
  cases kind <;> decide

section

variable {R : Type} {f : Json.Field R} {entry : String × Form} {v : Value} {r r' : R}
  {cause : Mismatch}

theorem HasForm.store_ok (h : HasForm entry f) {x : entry.2.Content}
    (hread : entry.2.read v = .ok x) (r : R) : ∃ r', f.store v r = .ok r' := by
  obtain ⟨put, hput⟩ := h.store
  exact ⟨put r x, by rw [hput, hread]; rfl⟩

theorem HasForm.read_ok (h : HasForm entry f) (hstore : f.store v r = .ok r') :
    ∃ x, entry.2.read v = .ok x := by
  obtain ⟨put, hput⟩ := h.store
  rw [hput, map_eq_ok_iff] at hstore
  obtain ⟨x, hx, -⟩ := hstore
  exact ⟨x, hx⟩

theorem HasForm.read_error (h : HasForm entry f) (hstore : f.store v r = .error cause) :
    entry.2.read v = .error cause := by
  obtain ⟨put, hput⟩ := h.store
  rwa [hput, map_eq_error_iff] at hstore

theorem names_of_hasForms {entries : List (String × Form)} {fields : List (Json.Field R)}
    (h : List.Forall₂ HasForm entries fields) :
    fields.map Json.Field.name = entries.map Prod.fst := by
  induction h with
  | nil => rfl
  | cons hentry _ ih => rw [List.map_cons, List.map_cons, hentry.name, ih]

end

variable {kind : RecordKind} {name : String} {form : Form} {v : Value} {cause : Mismatch}

theorem RecordKind.field?_eq_none_iff :
    kind.schema.field? name = none ↔ name ∉ kind.fields.map Prod.fst := by
  rw [Schema.field?_eq_none_iff, names_of_hasForms kind.hasForms]

/-- What a record reads a member by is the field of its name in the table. -/
theorem RecordKind.exists_form {f : Json.Field kind.Content} (h : f ∈ kind.schema.fields) :
    ∃ form, (f.name, form) ∈ kind.fields ∧ HasForm (f.name, form) f := by
  have hforms := kind.hasForms
  generalize kind.schema.fields = fields, kind.fields = entries at h hforms
  induction hforms with
  | nil => cases h
  | @cons entry g entries fields hentry _ ih =>
      rcases List.mem_cons.mp h with rfl | h
      · obtain ⟨name, form⟩ := entry
        rw [hentry.name]
        exact ⟨form, List.mem_cons_self, hentry⟩
      · obtain ⟨form, hmem, hform⟩ := ih h
        exact ⟨form, List.mem_cons_of_mem _ hmem, hform⟩

theorem RecordKind.form_unique {form' : Form} (h : (name, form) ∈ kind.fields)
    (h' : (name, form') ∈ kind.fields) : form = form' :=
  (Prod.mk.inj (List.inj_on_of_nodup_map kind.nodup_names h h' rfl)).2

theorem RecordKind.exists_field_at {i : Nat} {entry : String × Form}
    (h : kind.fields[i]? = some entry) :
    ∃ f, kind.schema.fields[i]? = some f ∧ HasForm entry f := by
  have hforms := kind.hasForms
  generalize kind.schema.fields = fields, kind.fields = entries at h hforms
  induction hforms generalizing i with
  | nil => cases h
  | @cons entry' g _ _ hentry _ ih =>
      cases i with
      | zero =>
          obtain rfl := Option.some.inj h
          exact ⟨g, rfl, hentry⟩
      | succ i => exact ih h

theorem RecordKind.exists_form_at {i : Nat} {f : Json.Field kind.Content}
    (h : kind.schema.fields[i]? = some f) :
    ∃ entry, kind.fields[i]? = some entry ∧ HasForm entry f := by
  have hlt := (List.getElem?_eq_some_iff.mp h).1
  rw [← kind.hasForms.length_eq] at hlt
  obtain ⟨g, hg, hform⟩ := RecordKind.exists_field_at (List.getElem?_eq_getElem hlt)
  obtain rfl := Option.some.inj (h.symm.trans hg)
  exact ⟨_, List.getElem?_eq_getElem hlt, hform⟩

/-! ### What is read fits -/

/-- Induction along the readers: every form may be assumed of the parts of a value, and the form
    inside an optional one of the value itself. -/
theorem Form.read_induction {P : Form → Value → Prop}
    (h : ∀ form v, (∀ form' w, Value.depth w < v.depth → P form' w) →
      (∀ part, form = .optional part → P part v) → P form v)
    (form : Form) (v : Value) : P form v := by
  induction hv : v.depth using Nat.strongRecOn generalizing form v with
  | ind n ih =>
      subst hv
      have hparts : ∀ form' w, Value.depth w < v.depth → P form' w :=
        fun form' w hw => ih w.depth hw form' w rfl
      induction form with
      | optional part ihPart =>
          refine h _ _ hparts fun part' hpart => ?_
          obtain rfl := Form.optional.inj hpart
          exact ihPart
      | _ => exact h _ _ hparts nofun

theorem fits_of_read (form : Form) (v : Value) (h : ∃ x, form.read v = .ok x) : Fits form v := by
  induction form, v using Form.read_induction with
  | h form v ihParts ihPart =>
      obtain ⟨x, hx⟩ := h
      cases form with
      | text =>
          obtain rfl := readString_ok_iff.mp hx
          exact .text x
      | flag =>
          cases v with
          | bool b => exact .flag b
          | _ => cases hx
      | whole =>
          obtain ⟨rfl, hrange⟩ := readInteger_ok_iff.mp hx
          exact .whole hrange
      | anything => exact .anything v
      | optional part =>
          by_cases hnull : v = .null
          · rw [hnull]
            exact .absent part
          · rw [Form.read, readOption_of_ne_null hnull, map_eq_ok_iff] at hx
            obtain ⟨y, hy, -⟩ := hx
            exact .optional (ihPart part rfl ⟨y, hy⟩)
      | list item =>
          cases v with
          | array items =>
              have hitems := mapM_eq_ok_iff.mp ⟨x, hx⟩
              exact .list fun w hw => ihParts item w (depth_lt_of_mem_items hw) (hitems w hw)
          | _ => cases hx
      | record kind =>
          rw [Form.read, kind.read_eq] at hx
          cases v with
          | object ms =>
              refine .members fun name form w hform hw => ?_
              obtain ⟨r₁, r₂, hstore⟩ := Schema.stored_of_members hx hw
              cases hfield : kind.schema.field? name with
              | none =>
                  exact absurd (List.mem_map_of_mem hform) (RecordKind.field?_eq_none_iff.mp hfield)
              | some f =>
                  rw [Schema.storeMember_of_some hfield] at hstore
                  obtain ⟨hf, rfl⟩ := Schema.field?_eq_some hfield
                  obtain ⟨form', hform', hhas⟩ := RecordKind.exists_form hf
                  obtain rfl := RecordKind.form_unique hform hform'
                  exact ihParts form w (depth_lt_of_mem_members hw) (hhas.read_ok hstore)
          | array items =>
              refine .items ?_ fun i name form w hform hw => ?_
              · rw [kind.hasForms.length_eq]
                exact Schema.length_le_of_storeItems hx
              · obtain ⟨f, hf, hhas⟩ := RecordKind.exists_field_at hform
                obtain ⟨r₁, r₂, hstore⟩ := Schema.stored_of_items hx hf hw
                exact ihParts form w (depth_lt_of_mem_items (List.mem_of_getElem? hw))
                  (hhas.read_ok hstore)
          | _ => cases hx

/-! ### What fits is read -/

theorem read_of_fits (h : Fits form v) : ∃ x, form.read v = .ok x := by
  induction h with
  | text s => exact ⟨s, rfl⟩
  | flag b => exact ⟨b, rfl⟩
  | @whole n hrange => exact ⟨n, readInteger_ok_iff.mpr ⟨rfl, hrange⟩⟩
  | anything v => exact ⟨some v, rfl⟩
  | absent part => exact ⟨none, rfl⟩
  | @optional part v _ ih =>
      obtain ⟨x, hx⟩ := ih
      by_cases hnull : v = .null
      · rw [hnull]
        exact ⟨none, rfl⟩
      · refine ⟨some x, ?_⟩
        rw [Form.read, readOption_of_ne_null hnull, hx]
        rfl
  | list _ ih => exact mapM_eq_ok_iff.mpr ih
  | @members kind ms _ ih =>
      rw [Form.read, kind.read_eq]
      refine Schema.storeMembers_from_ok _ fun m hm r => ?_
      obtain ⟨name, v⟩ := m
      cases hfield : kind.schema.field? name with
      | none => exact ⟨r, Schema.storeMember_of_none hfield v r⟩
      | some f =>
          rw [Schema.storeMember_of_some hfield]
          obtain ⟨hf, rfl⟩ := Schema.field?_eq_some hfield
          obtain ⟨form, hform, hhas⟩ := RecordKind.exists_form hf
          obtain ⟨x, hx⟩ := ih f.name form v hform hm
          exact hhas.store_ok hx r
  | @items kind items hlength _ ih =>
      rw [Form.read, kind.read_eq]
      refine Schema.storeItems_ok _ ?_ ?_ ?_
      · intro f hf
        obtain ⟨form, -, hhas⟩ := RecordKind.exists_form hf
        exact hhas.optional
      · rwa [← kind.hasForms.length_eq]
      · intro i f v hf hv r
        obtain ⟨⟨name, form⟩, hentry, hhas⟩ := RecordKind.exists_form_at hf
        obtain ⟨x, hx⟩ := ih i name form v hentry hv
        exact hhas.store_ok hx r

/-- A reader accepts exactly the values of its form. -/
theorem Form.read_ok_iff (form : Form) (v : Value) : (∃ x, form.read v = .ok x) ↔ Fits form v :=
  ⟨fits_of_read form v, read_of_fits⟩

end ConsoleTap.Target
