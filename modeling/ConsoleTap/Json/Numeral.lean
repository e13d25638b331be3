import ConsoleTap.Json.Stop
import ConsoleTap.Json.Value
import ConsoleTap.Text.Digits

/-!
# JSON numerals

A numeral with neither fraction nor exponent that fits 64 bits is an integer;
minus zero and every other numeral are floating-point.  The digits of those are
collected into a 64-bit significand, digits that no longer fit being dropped with
a correction of the exponent, and the significand is then scaled once by a power
of ten.  Significand, power and result are each rounded, so the last digit may
differ from the number nearest to the numeral: the rule is part of the format's
behaviour and is kept as it is.
-/

namespace ConsoleTap.Json

open ConsoleTap.Number (Binary64)

def isDigit (c : Char) : Bool := Text.isDigit 10 c

def maxSignificand : Nat := 1 <<< 64 - 1

/-- The greatest exponent that is still added up digit by digit. -/
def maxWrittenExponent : Nat := 1 <<< 31 - 1

/-- Appends digits to a number while it stays at most `limit`. Answers the number,
    how many digits went into it, and the text behind them. -/
def absorb (limit : Nat) : Nat → List Char → Nat × Nat × List Char
  | n, [] => (n, 0, [])
  | n, c :: rest =>
      match Text.digit? 10 c with
      | none => (n, 0, c :: rest)
      | some d =>
          if limit < n * 10 + d then (n, 0, c :: rest)
          else
            let (m, count, unread) := absorb limit (n * 10 + d) rest
            (m, count + 1, unread)

def startsWithDigit : List Char → Bool
  | [] => false
  | c :: _ => isDigit c

/-! ### Scaling by powers of ten -/

/-- The greatest power of ten that a number is multiplied or divided by at once. -/
def maxPower : Nat := 308

def powerOfTen (k : Nat) : Binary64 := (Binary64.ofNat? (Nat.pow 10 k)).getD (.zero false)

/-- Divides by `10 ^ k`, in steps of at most `10 ^ 308`, each rounded. -/
def divideByPower (x : Binary64) (k : Nat) : Binary64 :=
  if k ≤ maxPower then (x.div? (powerOfTen k)).getD (.zero x.negative)
  else if x.isZero then x
  else divideByPower ((x.div? (powerOfTen maxPower)).getD (.zero x.negative)) (k - maxPower)
termination_by k
decreasing_by simp only [maxPower] at *; omega

/-- The number that a significand and a power of ten stand for, or `none` when
    it is out of range. -/
def assemble? (negative : Bool) (significand : Nat) (exponent : Int) : Option Binary64 := do
  let x ← Binary64.ofNat? significand
  let y ←
    if exponent < 0 then some (divideByPower x exponent.natAbs)
    else if exponent.toNat ≤ maxPower then x.mul? (powerOfTen exponent.toNat)
    else if x.isZero then some x
    else none
  return { y with negative := negative }

/-! ### The parts of a numeral -/

def finishReal (negative : Bool) (significand : Nat) (exponent : Int) (unread : List Char) :
    Except Stop (Value × List Char) :=
  match assemble? negative significand exponent with
  | some x => .ok (.real x, unread)
  | none => .error (stopBehind .numberOutOfRange unread)

def exponentPart (negative : Bool) (significand : Nat) (start : Int) (s : List Char) :
    Except Stop (Value × List Char) :=
  let (down, s) : Bool × List Char :=
    match s with
    | '+' :: rest => (false, rest)
    | '-' :: rest => (true, rest)
    | _ => (false, s)
  match s with
  | [] => .error (stopBehind .endInValue [])
  | c :: _ =>
      if !isDigit c then .error (stopAt .numberInvalid s)
      else
        let (written, _, unread) := absorb maxWrittenExponent 0 s
        match unread with
        | d :: beyond =>
            if isDigit d then
              if significand ≠ 0 ∧ !down then .error (stopBehind .numberOutOfRange beyond)
              else .ok (.real (.zero negative), beyond.dropWhile isDigit)
            else finishReal negative significand (if down then start - written else start + written) unread
        | [] => finishReal negative significand (if down then start - written else start + written) unread

/-- Goes on behind the digits of a floating-point numeral, with an exponent or
    without. -/
def exponentOrEnd (negative : Bool) (significand : Nat) (exponent : Int) (s : List Char) :
    Except Stop (Value × List Char) :=
  match s with
  | 'e' :: rest | 'E' :: rest => exponentPart negative significand exponent rest
  | _ => finishReal negative significand exponent s

def fractionPart (negative : Bool) (significand : Nat) (start : Int) (s : List Char) :
    Except Stop (Value × List Char) :=
  let (significand, count, unread) := absorb maxSignificand significand s
  if startsWithDigit unread then
    exponentOrEnd negative significand (start - count) (unread.dropWhile isDigit)
  else if count = 0 then
    match unread with
    | [] => .error (stopAt .endInValue [])
    | _ => .error (stopAt .numberInvalid unread)
  else exponentOrEnd negative significand (start - count) unread

/-- Goes on behind the integral digits of a numeral. -/
def afterInteger (negative : Bool) (significand : Nat) (s : List Char) :
    Except Stop (Value × List Char) :=
  match s with
  | '.' :: rest => fractionPart negative significand 0 rest
  | 'e' :: rest | 'E' :: rest => exponentPart negative significand 0 rest
  | _ =>
      if !negative then .ok (.integer significand, s)
      else if significand = 0 ∨ 1 <<< 63 < significand then
        finishReal true significand 0 s
      else .ok (.integer (-(significand : Int)), s)

/-- Reads a numeral, behind its minus sign if it has one. -/
def numeral (negative : Bool) (s : List Char) : Except Stop (Value × List Char) :=
  match s with
  | [] => .error (stopBehind .endInValue [])
  | c :: rest =>
      if c = '0' then
        if startsWithDigit rest then .error (stopAt .numberInvalid rest)
        else afterInteger negative 0 rest
      else if !isDigit c then .error (stopAt .numberInvalid s)
      else
        let (significand, _, unread) := absorb maxSignificand 0 s
        if startsWithDigit unread then
          let dropped := unread.takeWhile isDigit
          match unread.dropWhile isDigit with
          | '.' :: more => fractionPart negative significand dropped.length more
          | more => exponentOrEnd negative significand dropped.length more
        else afterInteger negative significand unread

end ConsoleTap.Json
