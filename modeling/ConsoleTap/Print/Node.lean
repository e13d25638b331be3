import ConsoleTap.Json.Value

/-!
# Printable trees

What is shown of a value: an inline JSON value, a text, a mapping with the class
of the object it was made from, or the mark that a preview listed only some of
the properties.  A tree has a JSON form; a mapping becomes an object with one
member for each name, in the order of the names' first appearance.

A tree is a `PrintableNode`, its JSON form that of `to_json`.
-/

namespace ConsoleTap.Print

open ConsoleTap.Json

/-- A printable tree. -/
inductive Node where
  /-- A value that the target sent as it is. -/
  | inline (value : Value)
  /-- A description, a literal, or the report of a failed fetch. -/
  | text (s : String)
  /-- The named parts of an object. -/
  | mapping (className : Option String) (entries : List (String × Node))
  /-- Some properties were left out. -/
  | truncated
deriving Repr, Inhabited

/-- The name of the entry that marks omitted properties, and the text of a listed
    property without a value. -/
def omissionName : String := "..."

/-- The text of the mark for omitted properties. -/
def omissionText : String := "(truncated)"

mutual

def Node.toJson : Node → Value
  | .inline v => v
  | .text s => .string s
  | .mapping _ entries => .object (Members.ofWritten (entriesToJson entries))
  | .truncated => .string omissionText

def entriesToJson : List (String × Node) → List (String × Value)
  | [] => []
  | (name, node) :: rest => (name, node.toJson) :: entriesToJson rest

end

end ConsoleTap.Print
