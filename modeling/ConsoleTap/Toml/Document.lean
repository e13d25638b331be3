import ConsoleTap.Toml.Lexis
import ConsoleTap.Toml.Moment
import ConsoleTap.Toml.Table

/-!
# TOML documents

A document is a sequence of lines: assignments, headers of tables, headers of
elements of arrays of tables.  `Document.read?` takes a text apart into these
statements and carries them out one after the other on the table of the whole
document.

Arrays and inline tables may stand inside one another up to `maxNesting` deep,
and a key has fewer than `maxKeyParts` parts.
-/

namespace ConsoleTap.Toml

/-- How many arrays and inline tables may stand inside one another. -/
def maxNesting : Nat := 79

/-- How many parts a key may have. -/
def maxKeyParts : Nat := 79

/-! ### Keys -/

/-- Whether a character may stand in a key without quotes. -/
def isBare (c : Char) : Bool := c.isAlphanum || c = '-' || c = '_'

def keyPart? (s : List Char) : Option (String × List Char) :=
  match s with
  | '"' :: rest => escapedString? rest
  | '\'' :: rest => literalString? rest
  | _ =>
      match s.takeWhile isBare with
      | [] => none
      | bare => some (String.ofList bare, s.dropWhile isBare)

/-- A key: the names on its way, and its last name. -/
structure Key where
  path : List String
  name : String
deriving DecidableEq, Repr, Inhabited

/-- Reads a key of at most that many parts, with the white space around it. -/
def keyWithin? : (parts : Nat) → List Char → Option (Key × List Char)
  | 0, _ => none
  | parts + 1, s =>
      match keyPart? (skipSpace s) with
      | none => none
      | some (name, rest) =>
          match skipSpace rest with
          | '.' :: rest =>
              (keyWithin? parts rest).map fun (key, rest) => ({ key with path := name :: key.path }, rest)
          | rest => some (⟨[], name⟩, rest)

def key? (s : List Char) : Option (Key × List Char) := keyWithin? maxKeyParts s

/-! ### Values -/

/-- Reads an assignment up to the end of its value, with a reader for the value. -/
def assignmentWith (item : List Char → Option (Value × List Char)) (s : List Char) :
    Option ((Key × Value) × List Char) := do
  let (key, s) ← key? s
  let s ← behind? '=' s
  let (v, rest) ← item (skipSpace s)
  return ((key, v), rest)

/-- Reads the items of an array, behind its bracket, in at most `fuel` rounds. -/
def itemsWith (item : List Char → Option (Value × List Char)) :
    (fuel : Nat) → (done : List Value) → List Char → Option (Value × List Char)
  | 0, _, _ => none
  | fuel + 1, done, s =>
      match skipGap false s with
      | ']' :: rest => some (.array done.reverse, rest)
      | s =>
          match item s with
          | none => none
          | some (v, rest) =>
              match skipGap false rest with
              | ',' :: rest => itemsWith item fuel (v :: done) rest
              | ']' :: rest => some (.array (v :: done).reverse, rest)
              | _ => none

/-- Reads the entries of an inline table, from the first one on, in at most `fuel`
    rounds. -/
def entriesWith (item : List Char → Option (Value × List Char)) :
    (fuel : Nat) → (done : Table) → List Char → Option (Value × List Char)
  | 0, _, _ => none
  | fuel + 1, done, s =>
      match assignmentWith item s with
      | none => none
      | some ((key, v), rest) =>
          match done.assign key.path key.name v with
          | none => none
          | some done =>
              match skipSpace rest with
              | ',' :: rest => entriesWith item fuel done rest
              | '}' :: rest => some (done.toValue, rest)
              | _ => none

def inlineTableWith (item : List Char → Option (Value × List Char)) (s : List Char) :
    Option (Value × List Char) :=
  match skipSpace s with
  | '}' :: rest => some (.table [], rest)
  | s => entriesWith item (s.length + 1) [] s

/-- Reads what begins with a digit or a sign. -/
def number? (s : List Char) : Option (Value × List Char) :=
  (moment? s).or ((decimalReal? s).or ((wordReal? s).or (integer? s)))

/-- Reads one value, with at most that many arrays and inline tables inside one
    another. -/
def value? (nesting : Nat) (s : List Char) : Option (Value × List Char) :=
  match s with
  | [] => none
  | c :: rest =>
      if c = '"' ∨ c = '\'' then (string? s).map fun (text, rest) => (.string text, rest)
      else if c = '[' then
        match nesting with
        | 0 => none
        | nesting + 1 => itemsWith (value? nesting) (rest.length + 1) [] rest
      else if c = '{' then
        match nesting with
        | 0 => none
        | nesting + 1 => inlineTableWith (value? nesting) rest
      else if c = '+' ∨ c = '-' ∨ Text.isDigit 10 c then number? s
      else
        match s with
        | 't' :: 'r' :: 'u' :: 'e' :: rest => some (.boolean true, rest)
        | 'f' :: 'a' :: 'l' :: 's' :: 'e' :: rest => some (.boolean false, rest)
        | _ => wordReal? s

/-! ### Statements -/

/-- A line of a document. -/
inductive Statement where
  | assignment (key : Key) (v : Value)
  | header (key : Key)
  | elementHeader (key : Key)
deriving Inhabited

/-- Reads a line that is neither blank nor a comment. -/
def statement? : List Char → Option (Statement × List Char)
  | '[' :: '[' :: rest => do
      let (key, rest) ← key? rest
      let rest ← (behind? ']' rest).bind (behind? ']')
      return (.elementHeader key, ← endOfLine? rest)
  | '[' :: rest => do
      let (key, rest) ← key? rest
      let rest ← behind? ']' rest
      return (.header key, ← endOfLine? rest)
  | s => do
      let ((key, v), rest) ← assignmentWith (value? maxNesting) s
      return (.assignment key v, ← endOfLine? rest)

/-- Reads the lines of a document, in at most `fuel` rounds. -/
def statements? : (fuel : Nat) → List Char → Option (List Statement)
  | 0, _ => none
  | fuel + 1, s =>
      match skipSpace s with
      | [] => some []
      | s =>
          match endOfLine? s with
          | some rest => statements? fuel rest
          | none =>
              match statement? s with
              | some (statement, rest) => (statements? fuel rest).map (statement :: ·)
              | none => none

/-! ### Documents -/

/-- A document in the making: the table of the whole, and the way to the table
    that assignments go to. -/
structure Document where
  root : Table := []
  place : List String := []
deriving Inhabited

namespace Document

def perform (d : Document) : Statement → Option Document
  | .assignment key v =>
      (d.root.change false (fun _ t => t.assign key.path key.name v) d.place .header).map
        fun root => { d with root := root }
  | .header key =>
      (d.root.openTable key.path key.name).map fun root => ⟨root, key.path ++ [key.name]⟩
  | .elementHeader key =>
      (d.root.openElement key.path key.name).map fun root => ⟨root, key.path ++ [key.name]⟩

/-- Reads a text as a document; a byte order mark in front is no part of it. -/
def read? (text : String) : Option Value := do
  let s :=
    match text.toList with
    | '\uFEFF' :: rest => rest
    | s => s
  let lines ← statements? (s.length + 1) s
  let d ← lines.foldlM perform {}
  return d.root.toValue

end Document
end ConsoleTap.Toml
