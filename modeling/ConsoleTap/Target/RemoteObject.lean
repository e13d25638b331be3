import ConsoleTap.Json.Record

/-!
# Remote objects

What a debug target says about a value: a type, a class name, an inline value, a
description, a handle under which its properties can be asked for, and a preview
that lists some of them.  Previews nest, through the value previews of their
properties.

Each record is read by its schema and written with its fields in the same order,
absent fields left out.  An inline value of `null` is a value; only a missing
member means that there is none.

The records have the program's names: `RemoteObject`, `ObjectPreview`,
`PropertyPreview` and `PropertyDescriptor`.
-/

namespace ConsoleTap.Target

open ConsoleTap.Json

mutual

/-- A possibly truncated summary of an object's properties. -/
structure ObjectPreview where
  kind : Option String := none
  subtype : Option String := none
  description : Option String := none
  /-- Whether the object has more properties than are listed. -/
  overflow : Bool := false
  properties : List PropertyPreview := []

/-- One property of a preview; a property without a name is called `?`. -/
structure PropertyPreview where
  name : String := "?"
  kind : Option String := none
  value : Option String := none
  valuePreview : Option ObjectPreview := none
  subtype : Option String := none

end

deriving instance Repr, Inhabited for ObjectPreview

/-- A value of the debug target. -/
structure RemoteObject where
  kind : Option String := none
  subtype : Option String := none
  className : Option String := none
  /-- The value itself, where the target sent it; `null` is a value. -/
  value : Option Value := none
  description : Option String := none
  /-- The handle under which the target keeps the object. -/
  objectId : Option String := none
  preview : Option ObjectPreview := none
deriving Repr, Inhabited

/-- One own property of an object; an accessor carries no value. -/
structure PropertyDescriptor where
  name : String := "?"
  value : Option RemoteObject := none
deriving Repr, Inhabited

/-- Whether the target calls the value an object. -/
def RemoteObject.isObject (o : RemoteObject) : Bool := o.kind == some "object"

/-! ### Reading -/

/-- The fields of a preview, with a reader for the properties listed. -/
def ObjectPreview.schema (property : Value → Reading PropertyPreview) : Schema ObjectPreview where
  name := "ObjectPreview"
  defaults := {}
  fields :=
    [ field "type" (readOption readString) (fun p x => { p with kind := x }),
      field "subtype" (readOption readString) (fun p x => { p with subtype := x }),
      field "description" (readOption readString) (fun p x => { p with description := x }),
      field "overflow" readBool (fun p x => { p with overflow := x }),
      field "properties" (readList property) (fun p x => { p with properties := x }) ]

/-- The fields of a listed property, with a reader for the preview of its value. -/
def PropertyPreview.schema (preview : Value → Reading ObjectPreview) : Schema PropertyPreview where
  name := "PropertyPreview"
  defaults := {}
  fields :=
    [ field "name" readString (fun p x => { p with name := x }),
      field "type" (readOption readString) (fun p x => { p with kind := x }),
      field "value" (readOption readString) (fun p x => { p with value := x }),
      field "valuePreview" (readOption preview) (fun p x => { p with valuePreview := x }),
      field "subtype" (readOption readString) (fun p x => { p with subtype := x }) ]

/-- Reads a preview of a value that is at most `depth` arrays and objects deep. -/
def readPreviewWithin : (depth : Nat) → Value → Reading ObjectPreview
  | 0, v => .error (.shape v (.record "ObjectPreview"))
  | depth + 1, v =>
      (ObjectPreview.schema (PropertyPreview.schema (readPreviewWithin depth)).read).read v

def readPreview (v : Value) : Reading ObjectPreview := readPreviewWithin v.depth v

def readPropertyPreview (v : Value) : Reading PropertyPreview :=
  (PropertyPreview.schema readPreview).read v

def RemoteObject.schema : Schema RemoteObject where
  name := "RemoteObject"
  defaults := {}
  fields :=
    [ field "type" (readOption readString) (fun o x => { o with kind := x }),
      field "subtype" (readOption readString) (fun o x => { o with subtype := x }),
      field "className" (readOption readString) (fun o x => { o with className := x }),
      field "value" readAny (fun o x => { o with value := x }),
      field "description" (readOption readString) (fun o x => { o with description := x }),
      field "objectId" (readOption readString) (fun o x => { o with objectId := x }),
      field "preview" (readOption readPreview) (fun o x => { o with preview := x }) ]

def readRemoteObject (v : Value) : Reading RemoteObject := RemoteObject.schema.read v

def PropertyDescriptor.schema : Schema PropertyDescriptor where
  name := "PropertyDescriptor"
  defaults := {}
  fields :=
    [ field "name" readString (fun d x => { d with name := x }),
      field "value" (readOption readRemoteObject) (fun d x => { d with value := x }) ]

def readDescriptor (v : Value) : Reading PropertyDescriptor := PropertyDescriptor.schema.read v

/-! ### Writing -/

/-- The member for a field that is left out when absent. -/
def optionalMember (name : String) : Option Value → List (String × Value)
  | some v => [(name, v)]
  | none => []

/-- The member for a text field that is left out when absent. -/
def textMember (name : String) (s : Option String) : List (String × Value) :=
  optionalMember name (s.map .string)

mutual

def ObjectPreview.toJson : ObjectPreview → Value
  | ⟨kind, subtype, description, overflow, properties⟩ =>
      .object (textMember "type" kind ++ textMember "subtype" subtype ++
        textMember "description" description ++
        [("overflow", .bool overflow), ("properties", .array (propertiesToJson properties))])

def PropertyPreview.toJson : PropertyPreview → Value
  | ⟨name, kind, value, valuePreview, subtype⟩ =>
      .object ([("name", .string name)] ++ textMember "type" kind ++ textMember "value" value ++
        valuePreviewMember valuePreview ++ textMember "subtype" subtype)

def propertiesToJson : List PropertyPreview → List Value
  | [] => []
  | p :: rest => p.toJson :: propertiesToJson rest

def valuePreviewMember : Option ObjectPreview → List (String × Value)
  | none => []
  | some p => [("valuePreview", p.toJson)]

end

def RemoteObject.toJson (o : RemoteObject) : Value :=
  .object (textMember "type" o.kind ++ textMember "subtype" o.subtype ++
    textMember "className" o.className ++ optionalMember "value" o.value ++
    textMember "description" o.description ++ textMember "objectId" o.objectId ++
    optionalMember "preview" (o.preview.map ObjectPreview.toJson))

end ConsoleTap.Target
