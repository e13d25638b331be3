import ConsoleTap.Text.Digits

/-!
# Blanks, comments and strings in TOML

Every reader here takes characters from the front of a text and hands back the
rest, or answers `none` where the text is not TOML.  A line ends with a line
feed, with a carriage return before it or not; a carriage return alone ends
nothing and is allowed nowhere.
-/

namespace ConsoleTap.Toml

/-! ### Blanks and comments -/

/-- White space within a line. -/
def isSpace (c : Char) : Bool := c = ' ' || c = '\t'

def skipSpace (s : List Char) : List Char := s.dropWhile isSpace

/-- Whether a character may stand in a comment or, the delimiter of its string
    apart, in a string: anything but a control character other than the tab. -/
def isPlain (c : Char) : Bool := c = '\t' || (0x20 ≤ c.toNat && c.toNat ≠ 0x7F)

/-- The text behind a line break, if it begins with one. -/
def lineBreak? : List Char → Option (List Char)
  | '\n' :: rest => some rest
  | '\r' :: '\n' :: rest => some rest
  | _ => none

/-- The text behind the end of a line, which may have a comment on it. -/
def endOfLine? (s : List Char) : Option (List Char) :=
  let s :=
    match skipSpace s with
    | '#' :: rest => rest.dropWhile isPlain
    | s => s
  if s.isEmpty then some [] else lineBreak? s

def skipGap (inComment : Bool) : List Char → List Char
  | [] => []
  | '\n' :: rest => skipGap false rest
  | '\r' :: '\n' :: rest => skipGap false rest
  | '#' :: rest => skipGap true rest
  | c :: rest =>
      if isSpace c || (inComment && isPlain c) then skipGap inComment rest else c :: rest

def skipBlankLines : List Char → List Char
  | [] => []
  | '\n' :: rest => skipBlankLines rest
  | '\r' :: '\n' :: rest => skipBlankLines rest
  | c :: rest => if isSpace c then skipBlankLines rest else c :: rest

/-! ### Escapes -/

/-- The character with the code point that so many hexadecimal digits give. -/
def codePoint? (digits : Nat) (s : List Char) : Option (Char × List Char) :=
  let written := s.take digits
  if written.length < digits then none
  else
    match Text.natural? 16 written with
    | none => none
    | some n => if n.isValidChar then some (Char.ofNat n, s.drop digits) else none

def escape? : List Char → Option (Char × List Char)
  | 'b' :: rest => some ('\x08', rest)
  | 't' :: rest => some ('\t', rest)
  | 'n' :: rest => some ('\n', rest)
  | 'f' :: rest => some ('\x0c', rest)
  | 'r' :: rest => some ('\r', rest)
  | '"' :: rest => some ('"', rest)
  | '\\' :: rest => some ('\\', rest)
  | 'u' :: rest => codePoint? 4 rest
  | 'U' :: rest => codePoint? 8 rest
  | _ => none

/-! ### Strings on one line -/

/-- Reads a string with escapes, behind its quote, in at most `fuel` rounds. -/
def escapedBody : (fuel : Nat) → (done : List Char) → List Char → Option (String × List Char)
  | 0, _, _ => none
  | _ + 1, _, [] => none
  | fuel + 1, done, c :: rest =>
      if c = '"' then some (String.ofList done.reverse, rest)
      else if c = '\\' then
        match escape? rest with
        | some (x, rest) => escapedBody fuel (x :: done) rest
        | none => none
      else if isPlain c then escapedBody fuel (c :: done) rest
      else none

/-- Reads a string with escapes, behind its quote. -/
def escapedString? (s : List Char) : Option (String × List Char) := escapedBody (s.length + 1) [] s

/-- Reads a string without escapes, behind its quote. -/
def literalString? (s : List Char) : Option (String × List Char) :=
  match s.dropWhile fun c => isPlain c && c ≠ '\'' with
  | '\'' :: rest => some (String.ofList (s.takeWhile fun c => isPlain c && c ≠ '\''), rest)
  | _ => none

/-! ### Strings over several lines -/

/-- How a run of quotes reads in a string over several lines: as that many
    quotes of the text, and, if there are three more, as the end of the string.
    At most two quotes can stand before the end. -/
def quoteRun (quote : Char) (s : List Char) : Nat × Bool × List Char :=
  let n := (s.takeWhile (· = quote)).length
  if n < 3 then (n, false, s.drop n)
  else
    let inside := min (n - 3) 2
    (inside, true, s.drop (inside + 3))

/-- Reads a string over several lines, behind its three quotes, in at most `fuel`
    rounds. With escapes, a backslash at the end of a line joins it to the next
    text. -/
def longBody (quote : Char) (escapes : Bool) :
    (fuel : Nat) → (done : List Char) → List Char → Option (String × List Char)
  | 0, _, _ => none
  | _ + 1, _, [] => none
  | fuel + 1, done, c :: rest =>
      if c = quote then
        match quoteRun quote (c :: rest) with
        | (inside, true, rest) =>
            some (String.ofList (done.reverse ++ List.replicate inside quote), rest)
        | (inside, false, rest) =>
            longBody quote escapes fuel (List.replicate inside quote ++ done) rest
      else if escapes && c = '\\' then
        match lineBreak? (skipSpace rest) with
        | some rest => longBody quote escapes fuel done (skipBlankLines rest)
        | none =>
            match escape? rest with
            | some (x, rest) => longBody quote escapes fuel (x :: done) rest
            | none => none
      else if isPlain c then longBody quote escapes fuel (c :: done) rest
      else
        match lineBreak? (c :: rest) with
        | some rest => longBody quote escapes fuel ('\n' :: done) rest
        | none => none

/-- Reads a string over several lines, behind its three quotes. A line break right
    behind them is no part of it. -/
def longString? (quote : Char) (escapes : Bool) (s : List Char) : Option (String × List Char) :=
  let s := (lineBreak? s).getD s
  longBody quote escapes (s.length + 1) [] s

/-- Reads a string of any of the four forms. -/
def string? : List Char → Option (String × List Char)
  | '"' :: '"' :: '"' :: rest => longString? '"' true rest
  | '"' :: rest => escapedString? rest
  | '\'' :: '\'' :: '\'' :: rest => longString? '\'' false rest
  | '\'' :: rest => literalString? rest
  | _ => none

end ConsoleTap.Toml
