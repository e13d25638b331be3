/-!
# Environments and references to them

An environment is a list of entries `NAME=value`.  A variable is looked up by the
text before the equals sign, in the first entry that has it; as only the entry as
a whole is a text, a name with an equals sign in it can be found too.  A variable
whose value is no text counts as not set, so it has no entry.

A text refers to variables by `${NAME}`.  The references of a text are found from
left to right, without overlap; a name is at least one character and holds no
closing brace, and what is not a reference stands for itself.

`expand` takes the references one after the other and puts the value in the place
of every occurrence of the reference in the text as it is by then, so a value
that looks like a reference is replaced in its turn if that reference comes later.

`expand` is `expand_env_vars`.
-/

namespace ConsoleTap

/-- The variables that are set to a text; one that is set to other bytes is missing here. -/
structure Environment where
  entries : List (String × String)
deriving DecidableEq, Repr, Inhabited

def Environment.get? (env : Environment) (name : String) : Option String :=
  let sought := name.toList ++ ['=']
  env.entries.findSome? fun (n, v) =>
    let entry := n.toList ++ '=' :: v.toList
    if sought.isPrefixOf entry then some (String.ofList (entry.drop sought.length)) else none

namespace Settings

/-! ### References -/

/-- The name of the reference that a text begins with. -/
def referenceName? : List Char → Option (List Char)
  | '$' :: '{' :: rest =>
      let name := rest.takeWhile (· ≠ '}')
      if name.isEmpty || name.length = rest.length then none else some name
  | _ => none

/-- A reference as it is written. -/
def written (name : List Char) : List Char := '$' :: '{' :: name ++ ['}']

/-- A part of a text: a reference, or a character that belongs to none. -/
inductive Piece where
  | plain (c : Char)
  | reference (name : List Char)
deriving DecidableEq, Repr, Inhabited

/-- The parts of a text behind so many characters. -/
def piecesBehind : (skipped : Nat) → List Char → List Piece
  | _, [] => []
  | skipped + 1, _ :: rest => piecesBehind skipped rest
  | 0, c :: rest =>
      match referenceName? (c :: rest) with
      | some name => .reference name :: piecesBehind (name.length + 2) rest
      | none => .plain c :: piecesBehind 0 rest

def pieces (s : List Char) : List Piece := piecesBehind 0 s

/-- The names that a text refers to, in order, each as often as it occurs. -/
def references (s : List Char) : List (List Char) :=
  (pieces s).filterMap fun
    | .reference name => some name
    | .plain _ => none

/-! ### Replacement -/

/-- Replaces the occurrences of a pattern behind so many characters. -/
def replaceBehind (pattern value : List Char) : (skipped : Nat) → List Char → List Char
  | _, [] => []
  | skipped + 1, _ :: rest => replaceBehind pattern value skipped rest
  | 0, c :: rest =>
      if pattern.isPrefixOf (c :: rest) then
        value ++ replaceBehind pattern value (pattern.length - 1) rest
      else c :: replaceBehind pattern value 0 rest

/-- Replaces every occurrence of a pattern, from left to right and without
    overlap. -/
def replaceAll (pattern value s : List Char) : List Char := replaceBehind pattern value 0 s

/-- Replaces the references to variables, or names the first variable in the way
    of that. -/
def expandNames (env : Environment) : List (List Char) → List Char → Except String (List Char)
  | [], s => .ok s
  | name :: names, s =>
      match env.get? (String.ofList name) with
      | some value => expandNames env names (replaceAll (written name) value.toList s)
      | none => .error (String.ofList name)

/-- A text with its references replaced. A variable that is not set is reported by
    its name, the first one first. -/
def expand (env : Environment) (text : String) : Except String String :=
  (expandNames env (references text.toList) text.toList).map String.ofList

end Settings
end ConsoleTap
