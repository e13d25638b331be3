import ConsoleTap.Json.Writer
import ConsoleTap.Print.Node

/-!
# Rendered values

A tree is shown either within a console line or as a block below it.  Objects,
arrays and mappings are blocks, in indented JSON; a mapping made from an object
of a class worth naming has the class in brackets above it.  Everything else is
a text within the line, strings without their quotes.

This is `render`, with `pretty` and `scalar_text`.
-/

namespace ConsoleTap.Print

open ConsoleTap.Json

/-- The text of a value, and whether it is a block. -/
structure Rendered where
  text : String
  isBlock : Bool
deriving DecidableEq, Repr, Inhabited

/-- Classes whose name says nothing. -/
def plainClasses : List String := ["Object", "Array"]

/-- Whether the class of an object is shown above it. -/
def isWorthNaming (className : String) : Bool :=
  className ≠ "" && !plainClasses.contains className

def inlineText : Value → String
  | .string s => s
  | v => v.compact

/-- The text of a tree, within the line or as a block. -/
def Rendered.ofNode (node : Node) : Rendered :=
  match node with
  | .inline (.object ms) => ⟨(Value.object ms).indented, true⟩
  | .inline (.array items) => ⟨(Value.array items).indented, true⟩
  | .inline v => ⟨inlineText v, false⟩
  | .text s => ⟨s, false⟩
  | .truncated => ⟨omissionText, false⟩
  | .mapping none _ => ⟨node.toJson.indented, true⟩
  | .mapping (some className) _ =>
      if isWorthNaming className then ⟨"[" ++ className ++ "]\n" ++ node.toJson.indented, true⟩
      else ⟨node.toJson.indented, true⟩

end ConsoleTap.Print
