/-!
# Bytes of a text

A position in a text can be given by the bytes before it.  A text can be cut there only if a
character begins at that byte, or the text ends.
-/

namespace ConsoleTap.Text

/-- The bytes of a text. -/
def size : List Char → Nat
  | [] => 0
  | c :: rest => c.utf8Size + size rest

/-- A text without so many bytes at its front. -/
def dropBytes? : Nat → List Char → Option (List Char)
  | 0, s => some s
  | _ + 1, [] => none
  | n + 1, c :: rest => if c.utf8Size ≤ n + 1 then dropBytes? (n + 1 - c.utf8Size) rest else none

/-- So many bytes at the front of a text. -/
def takeBytes? : Nat → List Char → Option (List Char)
  | 0, _ => some []
  | _ + 1, [] => none
  | n + 1, c :: rest =>
      if c.utf8Size ≤ n + 1 then (takeBytes? (n + 1 - c.utf8Size) rest).map (c :: ·) else none

/-- The part of a text from one byte up to another. -/
def cut? (s : List Char) (i j : Nat) : Option (List Char) :=
  (dropBytes? i s).bind (takeBytes? (j - i))

end ConsoleTap.Text
