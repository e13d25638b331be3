import ConsoleTap.Text.Digits
import ConsoleTap.Text.Lines

/-!
# IPv4 addresses

A host whose last part is a number is an IPv4 address, or wrong.  It has up to
four parts, each decimal, octal behind a zero, or hexadecimal behind `0x`; all
but the last are one byte, and the last fills the bytes that are left.
-/

namespace ConsoleTap.Url

/-- The number that a part stands for; nothing behind its mark is a zero. -/
def partNumber? (s : List Char) : Option Nat :=
  match s with
  | [] => none
  | '0' :: 'x' :: rest | '0' :: 'X' :: rest =>
      if rest.isEmpty then some 0 else Text.natural? 16 rest
  | '0' :: c :: rest => Text.natural? 8 (c :: rest)
  | s => Text.natural? 10 s

/-- The parts of a host, without the empty one behind a point at the end. -/
def hostParts (s : List Char) : List (List Char) :=
  let parts := Text.splitOn '.' s
  if parts.getLast? = some [] then parts.dropLast else parts

/-- Whether the last part of a host is a number. -/
def endsInNumber (s : List Char) : Bool :=
  match (hostParts s).getLast? with
  | none => false
  | some part => (!part.isEmpty && part.all (Text.isDigit 10)) || (partNumber? part).isSome

/-- The address from the numbers of its parts. -/
def joinParts? (numbers : List Nat) : Option Nat :=
  match numbers.getLast? with
  | none => none
  | some last =>
      let leading := numbers.dropLast
      if 4 < numbers.length ∨ leading.any (255 < ·) ∨
          Nat.pow 256 (4 - leading.length) ≤ last then none
      else some (Text.ofDigits 256 leading * Nat.pow 256 (4 - leading.length) + last)

def address4? (s : List Char) : Option Nat := ((hostParts s).mapM partNumber?).bind joinParts?

def address4Text (n : Nat) : String :=
  Text.joined "." ([3, 2, 1, 0].map fun i => toString (n / Nat.pow 256 i % 256))

end ConsoleTap.Url
