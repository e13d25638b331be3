/-!
# Where and why reading stops

A JSON text that is refused is refused at one place for one reason.  Readers
report the reason with the text still unread, and `Stop.placeIn` turns that into a
line and a column: columns count bytes of the text's encoding, and some reasons
point at the byte before the unread text, some at the first byte of it.
-/

namespace ConsoleTap.Json

/-- Why a text is no JSON value. -/
inductive StopReason where
  | endInList
  | endInObject
  | endInString
  | endInValue
  | colonExpected
  | listCommaOrEndExpected
  | objectCommaOrEndExpected
  | wordExpected
  | valueExpected
  | escapeInvalid
  | numberInvalid
  | numberOutOfRange
  | controlCharacter
  | keyNotString
  | loneSurrogate
  | commaTrailing
  | charactersTrailing
  | escapeUnfinished
  | nestingTooDeep
deriving DecidableEq, Repr, Inhabited

def StopReason.message : StopReason → String
  | .endInList => "EOF while parsing a list"
  | .endInObject => "EOF while parsing an object"
  | .endInString => "EOF while parsing a string"
  | .endInValue => "EOF while parsing a value"
  | .colonExpected => "expected `:`"
  | .listCommaOrEndExpected => "expected `,` or `]`"
  | .objectCommaOrEndExpected => "expected `,` or `\x7d`"
  | .wordExpected => "expected ident"
  | .valueExpected => "expected value"
  | .escapeInvalid => "invalid escape"
  | .numberInvalid => "invalid number"
  | .numberOutOfRange => "number out of range"
  | .controlCharacter => "control character (\\u0000-\\u001F) found while parsing a string"
  | .keyNotString => "key must be a string"
  | .loneSurrogate => "lone leading surrogate in hex escape"
  | .commaTrailing => "trailing comma"
  | .charactersTrailing => "trailing characters"
  | .escapeUnfinished => "unexpected end of hex escape"
  | .nestingTooDeep => "recursion limit exceeded"

/-- A reader gave up: the text it had not read, and how many bytes of that text
    it had looked at when it did. -/
structure Stop where
  reason : StopReason
  unread : List Char
  ahead : Nat
deriving DecidableEq, Repr, Inhabited

/-- Stops behind the last character read. -/
def stopBehind (reason : StopReason) (unread : List Char) : Stop := ⟨reason, unread, 0⟩

/-- Stops at the first unread character. -/
def stopAt (reason : StopReason) (unread : List Char) : Stop := ⟨reason, unread, 1⟩

def byteLength (s : List Char) : Nat := s.foldr (fun c n => c.utf8Size + n) 0

/-- A place in a text: lines count from one, columns in bytes from the start of
    the line. -/
structure Place where
  line : Nat
  column : Nat
deriving DecidableEq, Repr, Inhabited

/-- The place reached from `place` by moving over that many bytes of a text. -/
def Place.advance (place : Place) : List Char → Nat → Place
  | [], _ => place
  | c :: rest, bytes =>
      if bytes < c.utf8Size then { place with column := place.column + bytes }
      else if c = '\n' then Place.advance ⟨place.line + 1, 0⟩ rest (bytes - 1)
      else Place.advance { place with column := place.column + c.utf8Size } rest (bytes - c.utf8Size)

def Stop.placeIn (stop : Stop) (whole : List Char) : Place :=
  Place.advance ⟨1, 0⟩ whole (byteLength whole - byteLength stop.unread + stop.ahead)

end ConsoleTap.Json
