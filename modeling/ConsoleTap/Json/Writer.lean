import ConsoleTap.Json.Value
import ConsoleTap.Number.Shortest

/-!
# Writing JSON

Two written forms of a value: `compact`, without any space, for what is sent to
the target and for values inside a line; and `indented`, with one item or member a
line and two spaces of indentation for each level, for the blocks below a line.
Empty arrays and objects are written without a line break in both.

Floating-point numbers have the fewest digits that identify them and always show
that they are no integers, by a fraction or by an exponent.
-/

namespace ConsoleTap.Json

open ConsoleTap.Number (Binary64 Decimal)

/-! ### Numbers -/

/-- How a floating-point number is laid out. -/
structure RealStyle where
  /-- The least exponent of the leading digit that is written positionally. -/
  plainFrom : Int
  /-- The exponents of the leading digit from this one on have an exponent part. -/
  plainBelow : Int

/-- Numbers from `1e-5` up to `1e16` are written positionally. -/
def realStyle : RealStyle := ⟨-5, 16⟩

def natDigits (n : Nat) : List Char := Nat.toDigits 10 n

def integerText (n : Int) : List Char :=
  if n < 0 then '-' :: natDigits n.natAbs else natDigits n.natAbs

/-- A decimal in the given style; the exponent part always has a sign. -/
def RealStyle.layout (style : RealStyle) (d : Decimal) : List Char :=
  let digits := natDigits d.digits
  let lead : Int := digits.length + d.exponent - 1
  if d.digits = 0 then ['0', '.', '0']
  else if style.plainFrom ≤ lead ∧ lead < style.plainBelow then
    if 0 ≤ d.exponent then digits ++ List.replicate d.exponent.toNat '0' ++ ['.', '0']
    else if 0 ≤ lead then
      let whole := lead.toNat + 1
      digits.take whole ++ ['.'] ++ digits.drop whole
    else ['0', '.'] ++ List.replicate (-lead - 1).toNat '0' ++ digits
  else
    let fraction := digits.drop 1
    digits.take 1 ++ (if fraction.isEmpty then [] else '.' :: fraction) ++
      ['e', if lead < 0 then '-' else '+'] ++ natDigits lead.natAbs

/-- A floating-point number with its sign, the sign of zero included. -/
def realText (x : Binary64) : List Char :=
  (if x.negative then ['-'] else []) ++ realStyle.layout x.shortest

/-! ### Strings -/

/-- One hexadecimal digit, in lower case. -/
def hexChar (n : Nat) : Char := Nat.digitChar n

/-- A character inside a written string. Only the quote, the backslash and the
    control characters are escaped. -/
def stringChar (c : Char) : List Char :=
  match c with
  | '"' => ['\\', '"']
  | '\\' => ['\\', '\\']
  | '\x08' => ['\\', 'b']
  | '\x0c' => ['\\', 'f']
  | '\n' => ['\\', 'n']
  | '\r' => ['\\', 'r']
  | '\t' => ['\\', 't']
  | c =>
      if c.toNat < 0x20 then
        ['\\', 'u', '0', '0', hexChar (c.toNat / 16), hexChar (c.toNat % 16)]
      else [c]

def stringText (s : String) : List Char :=
  '"' :: s.toList.flatMap stringChar ++ ['"']

/-! ### Values -/

mutual

/-- The written form without spaces. -/
def compactChars : Value → List Char
  | .null => ['n', 'u', 'l', 'l']
  | .bool true => ['t', 'r', 'u', 'e']
  | .bool false => ['f', 'a', 'l', 's', 'e']
  | .integer n => integerText n
  | .real x => realText x
  | .string s => stringText s
  | .array items => '[' :: compactItems items ++ [']']
  | .object members => '{' :: compactMembers members ++ ['}']

def compactItems : List Value → List Char
  | [] => []
  | [v] => compactChars v
  | v :: rest => compactChars v ++ ',' :: compactItems rest

def compactMembers : List (String × Value) → List Char
  | [] => []
  | [(name, v)] => stringText name ++ ':' :: compactChars v
  | (name, v) :: rest => stringText name ++ ':' :: compactChars v ++ ',' :: compactMembers rest

end

/-- A new line, indented by that many levels. -/
def newLine (level : Nat) : List Char := '\n' :: List.replicate (2 * level) ' '

mutual

/-- The indented form of a value that starts at the given level. -/
def indentedChars (level : Nat) : Value → List Char
  | .null => ['n', 'u', 'l', 'l']
  | .bool true => ['t', 'r', 'u', 'e']
  | .bool false => ['f', 'a', 'l', 's', 'e']
  | .integer n => integerText n
  | .real x => realText x
  | .string s => stringText s
  | .array [] => ['[', ']']
  | .array items => '[' :: indentedItems (level + 1) items ++ newLine level ++ [']']
  | .object [] => ['{', '}']
  | .object members => '{' :: indentedMembers (level + 1) members ++ newLine level ++ ['}']

def indentedItems (level : Nat) : List Value → List Char
  | [] => []
  | [v] => newLine level ++ indentedChars level v
  | v :: rest => newLine level ++ indentedChars level v ++ ',' :: indentedItems level rest

def indentedMembers (level : Nat) : List (String × Value) → List Char
  | [] => []
  | [(name, v)] => newLine level ++ stringText name ++ ':' :: ' ' :: indentedChars level v
  | (name, v) :: rest =>
      newLine level ++ stringText name ++ ':' :: ' ' :: indentedChars level v ++
        ',' :: indentedMembers level rest

end

namespace Value

/-- The written form without spaces. -/
def compact (v : Value) : String := String.ofList (compactChars v)

def indented (v : Value) : String := String.ofList (indentedChars 0 v)

end Value
end ConsoleTap.Json
