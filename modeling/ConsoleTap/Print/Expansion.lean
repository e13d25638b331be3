import ConsoleTap.Fault
import ConsoleTap.Print.Node
import ConsoleTap.Target.RemoteObject

/-!
# From remote objects to printable trees

`Expansion.ofObject` turns a remote object into a tree.  What the target sent with the
object is used as it is; an object known by its handle alone is expanded by
fetching its properties, one hop for each level of depth.  It never fails: a
fetch that failed leaves a text in its place.

Two functions decide about one object: `handle?` says whether its properties are
to be fetched if a hop is left, and `unfetched` gives the tree to show if they
are not.

`Expansion.ofObject` is `materialize` with its `fetch`; `Node.ofPreview` is
`preview_node` and `listedEntry` is `preview_value`.
-/

namespace ConsoleTap.Print

open ConsoleTap.Json ConsoleTap.Target

/-! ### Previews -/

mutual

/-- The tree of a preview: its listed properties, and the mark if some are
    missing. -/
def Node.ofPreview (className : Option String) : ObjectPreview → Node
  | ⟨_, _, _, overflow, properties⟩ =>
      .mapping className
        (listedEntries properties ++ if overflow then [(omissionName, .truncated)] else [])

def listedEntries : List PropertyPreview → List (String × Node)
  | [] => []
  | p :: rest => listedEntry p :: listedEntries rest

/-- The entry for one listed property: its value, else the preview of its value. -/
def listedEntry : PropertyPreview → String × Node
  | ⟨name, _, some value, _, _⟩ => (name, .text value)
  | ⟨name, _, none, valuePreview, _⟩ => (name, listedNode valuePreview)

def listedNode : Option ObjectPreview → Node
  | none => .text omissionName
  | some p => Node.ofPreview none p

end

/-! ### One object -/

/-- What is shown of an object of which nothing is known. -/
def unknownObjectText : String := "[Object]"

/-- The handle under which the properties of an object are fetched: only an
    object sent without value and without preview has use for it. -/
def handle? (o : RemoteObject) : Option String :=
  if o.value.isNone && o.isObject && o.preview.isNone then o.objectId else none

/-- The tree of an object whose properties are not fetched. -/
def unfetched (o : RemoteObject) : Node :=
  match o.value with
  | some v => .inline v
  | none =>
      if o.isObject then
        match o.preview with
        | some p => Node.ofPreview o.className p
        | none => .text (o.description.getD unknownObjectText)
      else
        match o.description with
        | some description => .text description
        | none =>
            if o.kind = some "undefined" then .text "undefined"
            else if o.kind = some "null" then .text "null"
            else .text o.toJson.compact

/-- The text in place of an object whose properties could not be fetched. -/
def failureText (fault : Fault) : String :=
  if fault.isTimeout then "[Object: timeout]" else "[Object: " ++ fault.message ++ "]"

/-- The properties that have a value, with their names. -/
def valued (properties : List PropertyDescriptor) : List (String × RemoteObject) :=
  properties.filterMap fun p => p.value.map fun v => (p.name, v)

/-! ### The whole tree -/

/-- Where properties come from: the own properties of the object under a handle. -/
abbrev PropertyLookup := String → Except Fault (List PropertyDescriptor)

/-- A tree, and the handles fetched for it in order. -/
structure Expansion where
  node : Node
  fetched : List String
deriving Repr, Inhabited

/-- The mapping of a fetched object, from its expanded properties. -/
def Expansion.ofEntries (className : Option String) (objectId : String)
    (entries : List (String × Expansion)) : Expansion :=
  ⟨.mapping className (entries.map fun e => (e.1, e.2.node)),
    objectId :: entries.flatMap fun e => e.2.fetched⟩

/-- The tree of a remote object, with at most `depth` fetches below one another. -/
def Expansion.ofObject (source : PropertyLookup) : (depth : Nat) → RemoteObject → Expansion
  | 0, o => ⟨unfetched o, []⟩
  | depth + 1, o =>
      match handle? o with
      | none => ⟨unfetched o, []⟩
      | some objectId =>
          match source objectId with
          | .error fault => ⟨.text (failureText fault), [objectId]⟩
          | .ok properties =>
              .ofEntries o.className objectId
                ((valued properties).map fun p => (p.1, ofObject source depth p.2))

end ConsoleTap.Print
