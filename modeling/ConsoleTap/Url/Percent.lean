import ConsoleTap.Text.Digits

/-!
# Percent-encoding

A character that may not stand in a part of a URL is written as its bytes, each
as a percent sign and two hexadecimal digits.  Which ASCII characters that
concerns depends on the part; control characters and all others beyond ASCII are
encoded everywhere.
-/

namespace ConsoleTap.Url

def bytes (s : List Char) : List UInt8 := (String.ofList s).toUTF8.toList

/-- A digit of upper-case hexadecimal. -/
def upperHex (n : Nat) : Char := (Nat.digitChar n).toUpper

/-- A byte behind a percent sign. -/
def encodeByte (b : UInt8) : List Char :=
  ['%', upperHex (b.toNat / 16), upperHex (b.toNat % 16)]

/-- Whether a character is encoded in every part. -/
def isAlwaysEncoded (c : Char) : Bool := c.toNat < 0x20 || 0x7F ≤ c.toNat

/-- A text with the characters of a set encoded. -/
def encode (set : List Char) (s : List Char) : List Char :=
  s.flatMap fun c =>
    if isAlwaysEncoded c || set.contains c then (bytes [c]).flatMap encodeByte else [c]

/-- The bytes of a text with its encoded bytes decoded. A percent sign without two
    digits behind it stands for itself. -/
def decode : List Char → List UInt8
  | '%' :: a :: b :: rest =>
      match Text.natural? 16 [a, b] with
      | some n => UInt8.ofNat n :: decode rest
      | none => bytes ['%'] ++ decode (a :: b :: rest)
  | c :: rest => bytes [c] ++ decode rest
  | [] => []

/-! ### The sets of the parts -/

def fragmentSet : List Char := [' ', '"', '<', '>', '\x60']

def querySet : List Char := [' ', '"', '#', '<', '>', '\'']

def pathSet : List Char := fragmentSet ++ ['#', '?', '\x7b', '\x7d']

def userSet : List Char := pathSet ++ ['/', ':', ';', '=', '@', '[', '\\', ']', '^', '|']

end ConsoleTap.Url
