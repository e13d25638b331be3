import ConsoleTap.Json.Numeral

/-!
# Reading JSON

`readAll` accepts exactly one value with white space around it.  Every reader here
consumes characters from a list and hands back the rest; loops are bounded by
the length of the text, which every round shortens, and nesting by
`maxNesting`, so a deeply nested text is refused rather than followed.
-/

namespace ConsoleTap.Json

/-- How many arrays and objects may stand inside one another. -/
def maxNesting : Nat := 127

def isSpace (c : Char) : Bool := c = ' ' || c = '\n' || c = '\t' || c = '\r'

def skipSpace (s : List Char) : List Char := s.dropWhile isSpace

/-- Reads the rest of a literal word. -/
def word (v : Value) : (expected s : List Char) → Except Stop (Value × List Char)
  | [], s => .ok (v, s)
  | _ :: _, [] => .error (stopBehind .endInValue [])
  | e :: expected, c :: s =>
      if c = e then word v expected s
      else .error ⟨.wordExpected, c :: s, 1⟩

/-! ### Strings -/

/-- The character that a one-letter escape stands for. -/
def escapeLetter? : Char → Option Char
  | '"' => some '"'
  | '\\' => some '\\'
  | '/' => some '/'
  | 'b' => some '\x08'
  | 'f' => some '\x0c'
  | 'n' => some '\n'
  | 'r' => some '\r'
  | 't' => some '\t'
  | _ => none

def hexUnit (s : List Char) : Except Stop (Nat × List Char) :=
  let refused : Except Stop (Nat × List Char) :=
    if byteLength s < 4 then .error (stopBehind .endInString [])
    else .error ⟨.escapeInvalid, s, 4⟩
  match s with
  | a :: b :: c :: d :: rest =>
      match Text.natural? 16 [a, b, c, d] with
      | some unit => .ok (unit, rest)
      | none => refused
  | _ => refused

/-- Whether a 16-bit unit opens a pair. -/
def opensPair (n : Nat) : Bool := 0xD800 ≤ n && n ≤ 0xDBFF

def closesPair (n : Nat) : Bool := 0xDC00 ≤ n && n ≤ 0xDFFF

/-- Reads a unicode escape, behind its letter: one unit, or the two units of a
    pair. A unit of a pair that stands alone is refused. -/
def unicodeEscape (s : List Char) : Except Stop (Char × List Char) := do
  let (first, rest) ← hexUnit s
  if closesPair first then .error (stopBehind .loneSurrogate rest)
  else if !opensPair first then return (Char.ofNat first, rest)
  else
    match rest with
    | [] => .error (stopBehind .endInString [])
    | '\\' :: [] => .error (stopBehind .endInString [])
    | '\\' :: 'u' :: rest => do
        let (second, rest) ← hexUnit rest
        if closesPair second then
          return (Char.ofNat ((first - 0xD800) * 0x400 + (second - 0xDC00) + 0x10000), rest)
        else .error (stopBehind .loneSurrogate rest)
    | '\\' :: rest => .error (stopAt .escapeUnfinished rest)
    | rest => .error (stopAt .escapeUnfinished rest)

/-- Reads a string, behind its opening quote, in at most `fuel` rounds. -/
def stringBody : (fuel : Nat) → (done : List Char) → List Char → Except Stop (String × List Char)
  | 0, _, s => .error (stopBehind .endInString s)
  | _ + 1, _, [] => .error (stopBehind .endInString [])
  | fuel + 1, done, c :: rest =>
      if c = '"' then .ok (String.ofList done.reverse, rest)
      else if c = '\\' then
        match rest with
        | [] => .error (stopBehind .endInString [])
        | e :: rest =>
            match escapeLetter? e with
            | some x => stringBody fuel (x :: done) rest
            | none =>
                if e = 'u' then do
                  let (x, rest) ← unicodeEscape rest
                  stringBody fuel (x :: done) rest
                else .error ⟨.escapeInvalid, e :: rest, 1⟩
      else if c.toNat < 0x20 then .error (stopBehind .controlCharacter rest)
      else stringBody fuel (c :: done) rest

def stringAfterQuote (s : List Char) : Except Stop (String × List Char) :=
  stringBody (s.length + 1) [] s

/-! ### Arrays and objects -/

/-- Reads the items of an array, from the first one on, with a reader for one. -/
def itemsWith (item : List Char → Except Stop (Value × List Char)) :
    (fuel : Nat) → (done : List Value) → List Char → Except Stop (List Value × List Char)
  | 0, _, s => .error (stopBehind .endInList s)
  | fuel + 1, done, s => do
      let (v, rest) ← item s
      match skipSpace rest with
      | [] => .error (stopAt .endInList [])
      | c :: rest =>
          if c = ']' then return ((v :: done).reverse, rest)
          else if c = ',' then
            match skipSpace rest with
            | [] => .error (stopAt .endInValue [])
            | ']' :: rest => .error (stopAt .commaTrailing (']' :: rest))
            | s => itemsWith item fuel (v :: done) s
          else .error (stopAt .listCommaOrEndExpected (c :: rest))

def arrayBody (item : List Char → Except Stop (Value × List Char)) (s : List Char) :
    Except Stop (Value × List Char) :=
  match skipSpace s with
  | [] => .error (stopAt .endInList [])
  | ']' :: rest => .ok (.array [], rest)
  | s => do
      let (items, rest) ← itemsWith item (s.length + 1) [] s
      return (.array items, rest)

def memberWith (item : List Char → Except Stop (Value × List Char)) (s : List Char) :
    Except Stop ((String × Value) × List Char) :=
  match s with
  | '"' :: rest => do
      let (name, rest) ← stringAfterQuote rest
      match skipSpace rest with
      | [] => .error (stopAt .endInObject [])
      | ':' :: rest => do
          let (v, rest) ← item rest
          return ((name, v), rest)
      | rest => .error (stopAt .colonExpected rest)
  | s => .error (stopAt .keyNotString s)

def membersWith (item : List Char → Except Stop (Value × List Char)) :
    (fuel : Nat) → (done : List (String × Value)) → List Char →
    Except Stop (List (String × Value) × List Char)
  | 0, _, s => .error (stopBehind .endInObject s)
  | fuel + 1, done, s => do
      let (m, rest) ← memberWith item s
      match skipSpace rest with
      | [] => .error (stopAt .endInObject [])
      | c :: rest =>
          if c = '}' then return ((m :: done).reverse, rest)
          else if c = ',' then
            match skipSpace rest with
            | [] => .error (stopAt .endInValue [])
            | '}' :: rest => .error (stopAt .commaTrailing ('}' :: rest))
            | s => membersWith item fuel (m :: done) s
          else .error (stopAt .objectCommaOrEndExpected (c :: rest))

def objectBody (item : List Char → Except Stop (Value × List Char)) (s : List Char) :
    Except Stop (Value × List Char) :=
  match skipSpace s with
  | [] => .error (stopAt .endInObject [])
  | '}' :: rest => .ok (.object [], rest)
  | s => do
      let (written, rest) ← membersWith item (s.length + 1) [] s
      return (.object (Members.ofWritten written), rest)

/-! ### Values and texts -/

/-- Reads one value, with at most that many arrays and objects inside one another. -/
def value (nesting : Nat) (s : List Char) : Except Stop (Value × List Char) :=
  match skipSpace s with
  | [] => .error (stopAt .endInValue [])
  | c :: rest =>
      if c = 'n' then word .null ['u', 'l', 'l'] rest
      else if c = 't' then word (.bool true) ['r', 'u', 'e'] rest
      else if c = 'f' then word (.bool false) ['a', 'l', 's', 'e'] rest
      else if c = '-' then numeral true rest
      else if isDigit c then numeral false (c :: rest)
      else if c = '"' then do
        let (s, rest) ← stringAfterQuote rest
        return (.string s, rest)
      else if c = '[' then
        match nesting with
        | 0 => .error (stopAt .nestingTooDeep (c :: rest))
        | nesting + 1 => arrayBody (value nesting) rest
      else if c = '{' then
        match nesting with
        | 0 => .error (stopAt .nestingTooDeep (c :: rest))
        | nesting + 1 => objectBody (value nesting) rest
      else .error (stopAt .valueExpected (c :: rest))

def readAll (s : List Char) : Except Stop Value := do
  let (v, rest) ← value maxNesting s
  match skipSpace rest with
  | [] => return v
  | rest => .error (stopAt .charactersTrailing rest)

/-- Reads a text as one value, if it is one. -/
def read? (text : String) : Option Value := (readAll text.toList).toOption

end ConsoleTap.Json
