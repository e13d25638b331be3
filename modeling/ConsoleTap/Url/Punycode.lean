import ConsoleTap.Text.Digits

/-!
# Punycode

Punycode writes a text in letters and digits of ASCII.  The ASCII characters of
the text come first, as they are; the others follow as differences, in the order
of their code points and, for one code point, of their places.  A difference is a
number in base 36 whose digits have thresholds of their own, which adapt to the
size of the differences so far.
-/

namespace ConsoleTap.Url.Punycode

/-! ### Parameters of the encoding -/

def base : Nat := 36
def minThreshold : Nat := 1
def maxThreshold : Nat := 26
def skew : Nat := 38
def damping : Nat := 700
def firstBias : Nat := 72
def firstCodePoint : Nat := 128

/-- The threshold of the digit at a position that counts in steps of the base. -/
def threshold (position bias : Nat) : Nat :=
  min maxThreshold (max minThreshold (position - bias))

/-- Shrinks a difference; answers what is left of it, and the positions passed. -/
def shrink (delta : Nat) : Nat × Nat :=
  if (base - minThreshold) * maxThreshold / 2 < delta then
    let (left, passed) := shrink (delta / (base - minThreshold))
    (left, passed + base)
  else (delta, 0)
termination_by delta
decreasing_by
  exact Nat.div_lt_self (by omega) (by decide)

/-- The bias behind a difference, given how many characters are written by then. -/
def adapt (delta count : Nat) (isFirst : Bool) : Nat :=
  let delta := if isFirst then delta / damping else delta / 2
  let (left, passed) := shrink (delta + delta / count)
  passed + base * left / (left + skew)

/-! ### Writing -/

def digitChar (d : Nat) : Char :=
  if d < 26 then Char.ofNat ('a'.toNat + d) else Char.ofNat ('0'.toNat + d - 26)

/-- The digits of a difference, in at most `fuel` digits. -/
def digitsOf (bias : Nat) : (fuel position delta : Nat) → List Char
  | 0, _, _ => []
  | fuel + 1, position, delta =>
      let t := threshold position bias
      if delta < t then [digitChar delta]
      else
        digitChar (t + (delta - t) % (base - t)) ::
          digitsOf bias fuel (position + base) ((delta - t) / (base - t))

/-- How far writing has got. -/
structure Progress where
  written : List Char
  bias : Nat
  delta : Nat
  count : Nat

/-- Passes one character while those of a code point are written. -/
def pass (codePoint basic : Nat) (p : Progress) (c : Char) : Progress :=
  if c.toNat < codePoint then { p with delta := p.delta + 1 }
  else if c.toNat = codePoint then
    { written := p.written ++ digitsOf p.bias (p.delta + 1) base p.delta
      bias := adapt p.delta (p.count + 1) (p.count = basic)
      delta := 0
      count := p.count + 1 }
  else p

/-- Writes the characters of the code points beyond ASCII, in their order. -/
def writeCodePoints (s : List Char) (basic : Nat) : List Nat → (least : Nat) → Progress → Progress
  | [], _, p => p
  | codePoint :: rest, least, p =>
      let p := { p with delta := p.delta + (codePoint - least) * (p.count + 1) }
      let p := s.foldl (pass codePoint basic) p
      writeCodePoints s basic rest (codePoint + 1) { p with delta := p.delta + 1 }

/-- The ASCII characters of a text. -/
def basicPart (s : List Char) : List Char := s.filter fun c => c.toNat < firstCodePoint

/-- The code points beyond ASCII of a text, ascending, each once. -/
def codePoints (s : List Char) : List Nat :=
  (((s.map Char.toNat).filter (firstCodePoint ≤ ·)).mergeSort).eraseReps

def encode (s : List Char) : List Char :=
  let basic := basicPart s
  let start : Progress := ⟨[], firstBias, 0, basic.length⟩
  let p := writeCodePoints s basic.length (codePoints s) firstCodePoint start
  basic ++ (if basic.isEmpty then [] else ['-']) ++ p.written

/-! ### Reading -/

def digitValue? (c : Char) : Option Nat :=
  (Text.digit? 36 c).map fun d => if d < 10 then d + 26 else d - 10

/-- Reads a difference: what it adds up to, and the rest. -/
def difference? (bias : Nat) : (position weight sum : Nat) → List Char → Option (Nat × List Char)
  | _, _, _, [] => none
  | position, weight, sum, c :: rest =>
      match digitValue? c with
      | none => none
      | some d =>
          let sum := sum + d * weight
          let t := threshold position bias
          if d < t then some (sum, rest)
          else difference? bias (position + base) (weight * (base - t)) sum rest

/-- Reads differences and puts their characters in their places, in at most `fuel`
    rounds. -/
def readDifferences : (fuel bias codePoint place : Nat) → (done : List Char) → List Char →
    Option (List Char)
  | _, _, _, _, done, [] => some done
  | 0, _, _, _, _, _ :: _ => none
  | fuel + 1, bias, codePoint, place, done, c :: rest =>
      match difference? bias base 1 place (c :: rest) with
      | none => none
      | some (sum, rest) =>
          let count := done.length + 1
          let codePoint := codePoint + sum / count
          let next := sum % count
          if codePoint.isValidChar then
            readDifferences fuel (adapt (sum - place) count (place = 0)) codePoint (next + 1)
              (done.take next ++ Char.ofNat codePoint :: done.drop next) rest
          else none

/-- The text that has a punycode. -/
def decode? (s : List Char) : Option (List Char) :=
  let differences := (s.reverse.takeWhile (· ≠ '-')).reverse
  let basic := s.take (s.length - differences.length - 1)
  readDifferences differences.length firstBias firstCodePoint 0 basic differences

end ConsoleTap.Url.Punycode
