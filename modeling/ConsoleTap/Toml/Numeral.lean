import ConsoleTap.Number.Binary64
import ConsoleTap.Text.Digits
import ConsoleTap.Toml.Value

/-!
# TOML numerals

An integer is decimal with an optional sign, or hexadecimal, octal or binary
behind `0x`, `0o` and `0b`; it fits 64 bits with a sign.  Single underscores may
stand between digits.  A decimal integer has no leading zeros, and what follows
it makes it a real: a fraction, an exponent, or both.
-/

namespace ConsoleTap.Toml

open ConsoleTap.Number (Binary64)

/-- Whether an integer fits 64 bits with a sign. -/
def fitsWord (n : Int) : Bool := decide (-Int.pow 2 63 ≤ n ∧ n < Int.pow 2 63)

/-! ### Digits -/

/-- Reads further digits, single underscores between them. -/
def moreDigits? (base : Nat) : List Char → Option (List Nat × List Char)
  | [] => some ([], [])
  | '_' :: c :: rest =>
      match Text.digit? base c with
      | some d => (moreDigits? base rest).map fun (ds, rest) => (d :: ds, rest)
      | none => none
  | c :: rest =>
      if c = '_' then none
      else
        match Text.digit? base c with
        | some d => (moreDigits? base rest).map fun (ds, rest) => (d :: ds, rest)
        | none => some ([], c :: rest)

/-- Reads at least one digit. -/
def digits? (base : Nat) : List Char → Option (List Nat × List Char)
  | [] => none
  | c :: rest =>
      match Text.digit? base c with
      | some d => (moreDigits? base rest).map fun (ds, rest) => (d :: ds, rest)
      | none => none

/-- Reads a sign, if there is one; answers whether it is a minus. -/
def sign : List Char → Bool × List Char
  | '-' :: rest => (true, rest)
  | '+' :: rest => (false, rest)
  | s => (false, s)

/-- The digits of a decimal integer without its sign: a zero alone, or digits that
    begin with another one. -/
def decimalDigits? : List Char → Option (List Nat × List Char)
  | '0' :: rest => some ([0], rest)
  | s => digits? 10 s

/-! ### Integers -/

/-- Reads an integer of a base, behind its mark. -/
def markedInteger? (base : Nat) (s : List Char) : Option (Value × List Char) :=
  match digits? base s with
  | none => none
  | some (ds, rest) =>
      let n : Int := Text.ofDigits base ds
      if fitsWord n then some (.integer n, rest) else none

def integer? : List Char → Option (Value × List Char)
  | '0' :: 'x' :: rest => markedInteger? 16 rest
  | '0' :: 'o' :: rest => markedInteger? 8 rest
  | '0' :: 'b' :: rest => markedInteger? 2 rest
  | s =>
      let (negative, unsigned) := sign s
      match decimalDigits? unsigned with
      | none => none
      | some (ds, rest) =>
          let magnitude : Int := Text.ofDigits 10 ds
          let n := if negative then -magnitude else magnitude
          if fitsWord n then some (.integer n, rest) else none

/-! ### Reals -/

/-- Reads a fraction with its point, if there is one. -/
def fraction? : List Char → Option (List Nat × List Char)
  | '.' :: rest => digits? 10 rest
  | s => some ([], s)

/-- Reads an exponent with its letter, if there is one. -/
def exponent? (s : List Char) : Option (Int × List Char) :=
  match s with
  | 'e' :: rest | 'E' :: rest =>
      let (negative, unsigned) := sign rest
      (digits? 10 unsigned).map fun (ds, rest) =>
        let magnitude : Int := Text.ofDigits 10 ds
        (if negative then -magnitude else magnitude, rest)
  | _ => some (0, s)

/-- Whether the number nearest to `digits * 10 ^ exponent` is finite. A number with
    more than 310 digits before the point is not, one with less than none is, and
    the others are computed. -/
def isFinite (digits : List Nat) (exponent : Int) : Bool :=
  let significand := Text.ofDigits 10 digits
  let whole : Int := (digits.dropWhile (· = 0)).length + exponent
  if significand = 0 ∨ whole < 0 then true
  else if 310 < whole then false
  else if 0 ≤ exponent then
    (Binary64.roundScaled false (significand * Nat.pow 10 exponent.toNat) 1 0).isSome
  else (Binary64.roundScaled false significand (Nat.pow 10 (-exponent).toNat) 0).isSome

/-- The characters of a text before one of its ends. -/
def before (s rest : List Char) : String := String.ofList (s.take (s.length - rest.length))

/-- Reads a real that is written with digits: a positive one must be finite. -/
def decimalReal? (s : List Char) : Option (Value × List Char) := do
  let (negative, unsigned) := sign s
  let (whole, behindWhole) ← decimalDigits? unsigned
  let (fraction, behindFraction) ← fraction? behindWhole
  let (exponent, rest) ← exponent? behindFraction
  if rest.length = behindWhole.length then none
  else if negative || isFinite (whole ++ fraction) (exponent - fraction.length) then
    return (.real (before s rest), rest)
  else none

/-- Reads a real that is written as a word. -/
def wordReal? (s : List Char) : Option (Value × List Char) :=
  match (sign s).2 with
  | 'i' :: 'n' :: 'f' :: rest => some (.real (before s rest), rest)
  | 'n' :: 'a' :: 'n' :: rest => some (.real (before s rest), rest)
  | _ => none

end ConsoleTap.Toml
