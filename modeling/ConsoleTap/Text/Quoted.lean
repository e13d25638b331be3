import ConsoleTap.Text.Printable

/-!
# Quoted text

A text that a message quotes is put between double quotes, and whatever a reader
could not see or could mistake is written as an escape: the quote and the
backslash, the four characters with a letter of their own, and every
unprintable character by its code point in braces.
-/

namespace ConsoleTap.Text

/-- The digits of a natural in lower-case hexadecimal. -/
def hexDigits (n : Nat) : List Char := Nat.toDigits 16 n

/-- One character as it stands inside quotes. -/
def escaped (c : Char) : List Char :=
  match c with
  | '\x00' => ['\\', '0']
  | '\t' => ['\\', 't']
  | '\r' => ['\\', 'r']
  | '\n' => ['\\', 'n']
  | '\\' => ['\\', '\\']
  | '"' => ['\\', '"']
  | c => if isPrintable c then [c] else ['\\', 'u', '{'] ++ hexDigits c.toNat ++ ['}']

/-- A text between double quotes, with its escapes. -/
def quoted (s : String) : String :=
  String.ofList ('"' :: s.toList.flatMap escaped ++ ['"'])

end ConsoleTap.Text
