/-!
# Lines of a text

A text is the sequence of its lines, joined by line feeds; `splitOn` takes it
apart at any separator character and `List.intersperse` puts it together again.
A text without the separator is one line, and the empty text is one empty line.
-/

namespace ConsoleTap.Text

/-- The pieces of a text between the occurrences of a separator: always one more
    than there are separators. -/
def splitOn (sep : Char) : List Char → List (List Char)
  | [] => [[]]
  | c :: rest =>
      if c = sep then [] :: splitOn sep rest
      else
        match splitOn sep rest with
        | [] => [[c]]
        | piece :: pieces => (c :: piece) :: pieces

def lines (s : String) : List String := (splitOn '\n' s.toList).map String.ofList

/-- The texts with a separator between neighbours. -/
def joined (sep : String) : List String → String
  | [] => ""
  | [s] => s
  | s :: rest => s ++ sep ++ joined sep rest

/-- The texts one below the other, each ended by a line feed. -/
def ended (texts : List String) : String := String.join (texts.map fun s => s ++ "\n")

end ConsoleTap.Text
