import ConsoleTap.Text.Digits
import ConsoleTap.Text.Lines

/-!
# IPv6 addresses

An address is eight numbers of 16 bits.  Written, they are hexadecimal groups
between colons; two colons once stand for a run of at least one zero, and the
last two numbers may be written as an IPv4 address.  The text of an address has
two colons in the place of its first longest run of at least two zeros.
-/

namespace ConsoleTap.Url

/-- The pieces of a text before and behind its first double colon. -/
def splitAtGap? : List Char → Option (List Char × List Char)
  | ':' :: ':' :: rest => some ([], rest)
  | c :: rest => (splitAtGap? rest).map fun (before, behind) => (c :: before, behind)
  | [] => none

/-- The number of a group: one to four hexadecimal digits. -/
def group? (s : List Char) : Option (List Nat) :=
  if 4 < s.length then none else (Text.natural? 16 s).map fun n => [n]

/-- The number of one byte in decimal, without leading zeros. -/
def byte? (s : List Char) : Option Nat :=
  match s with
  | '0' :: _ :: _ => none
  | s => (Text.natural? 10 s).filter (· ≤ 255)

/-- The two numbers of an IPv4 address in four decimal parts. -/
def dotted? (s : List Char) : Option (List Nat) :=
  match (Text.splitOn '.' s).mapM byte? with
  | some [a, b, c, d] => some [a * 256 + b, c * 256 + d]
  | _ => none

/-- The numbers of groups between colons, of which the last one may be an IPv4
    address if it ends the address. -/
def groups? (endsAddress : Bool) (s : List Char) : Option (List Nat) :=
  if s.isEmpty then some []
  else
    let groups := Text.splitOn ':' s
    let last := groups.getLastD []
    match groups.dropLast.mapM group?,
      if endsAddress && last.contains '.' then dotted? last else group? last with
    | some numbers, some ending => some (numbers.flatten ++ ending)
    | _, _ => none

def address6? (s : List Char) : Option (List Nat) :=
  match splitAtGap? s with
  | none => (groups? true s).filter fun numbers => numbers.length = 8
  | some (before, behind) =>
      match groups? false before, groups? true behind with
      | some left, some right =>
          if left.length + right.length ≤ 7 then
            some (left ++ List.replicate (8 - left.length - right.length) 0 ++ right)
          else none
      | _, _ => none

/-! ### The text of an address -/

/-- The length of the run of zeros at the front. -/
def zeroRun (numbers : List Nat) : Nat := (numbers.takeWhile (· = 0)).length

/-- The first longest run of zeros: where it begins, and its length. -/
def longestRun (numbers : List Nat) : Nat × Nat :=
  (List.range numbers.length).foldl
    (fun best i =>
      let n := zeroRun (numbers.drop i)
      if best.2 < n then (i, n) else best)
    (0, 0)

/-- The groups of numbers between colons. -/
def groupsText (numbers : List Nat) : String :=
  Text.joined ":" (numbers.map fun n => String.ofList (Nat.toDigits 16 n))

def address6Text (numbers : List Nat) : String :=
  match longestRun numbers with
  | (i, n) =>
      if n < 2 then groupsText numbers
      else groupsText (numbers.take i) ++ "::" ++ groupsText (numbers.drop (i + n))

end ConsoleTap.Url
