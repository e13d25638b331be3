/-!
# Finite binary floating-point numbers

A finite number of the 64-bit binary format is kept as what it means: a sign, a
natural mantissa and an integer exponent.  All arithmetic here is exact
arithmetic on naturals followed by one rounding, to the nearest representable
number with ties to the even mantissa, so `roundScaled` is the whole of it and
products, quotients and decimal scalings are instances.

Numbers too large for the format have no value here: the operations answer
`none` where rounding overflows.  The reader of JSON numerals turns that into
its range error, so infinities never arise.
-/

namespace ConsoleTap.Number

/-- A finite number `± mantissa * 2 ^ exponent` of the 64-bit binary format. A
    mantissa below `2 ^ 52` occurs with the least exponent only, so each number
    has one representation; zero keeps its sign. -/
structure Binary64 where
  negative : Bool
  mantissa : Nat
  exponent : Int
deriving DecidableEq, Repr, Inhabited

namespace Binary64

def minExponent : Int := -1074

/-- The greatest exponent of a finite number of the format. -/
def maxExponent : Int := 971

def zero (negative : Bool) : Binary64 := ⟨negative, 0, minExponent⟩

def isZero (x : Binary64) : Bool := x.mantissa == 0

def negate (x : Binary64) : Binary64 := { x with negative := !x.negative }

/-! ### Rounding -/

/-- The quotient rounded to the nearest natural, a half going to the even
    neighbour. -/
def roundDiv (num den : Nat) : Nat :=
  let q := num / den
  let r := num % den
  if 2 * r < den then q
  else if den < 2 * r then q + 1
  else if q % 2 = 0 then q else q + 1

/-- `num / den * 2 ^ scale` as numerator and denominator in naturals. -/
def scaled (num den : Nat) (scale : Int) : Nat × Nat :=
  (num <<< scale.toNat, den <<< (-scale).toNat)

/-- The exponent at which the quotient of two positive naturals has a mantissa
    of exactly 53 bits. -/
def leadingExponent (num den : Nat) : Int :=
  let e : Int := (num.log2 : Int) - (den.log2 : Int) - 52
  let (n, d) := scaled num den (-e)
  if n / d < 1 <<< 52 then e - 1 else e

/-- The representable number nearest to `± num / den * 2 ^ scale`, or `none` when
    it is beyond the format's range. -/
def roundScaled (negative : Bool) (num den : Nat) (scale : Int) : Option Binary64 :=
  if num = 0 then some (zero negative)
  else
    let e := max (leadingExponent num den + scale) minExponent
    let (n, d) := scaled num den (scale - e)
    let m := roundDiv n d
    let (m, e) := if m = 1 <<< 53 then (1 <<< 52, e + 1) else (m, e)
    if maxExponent < e then none else some ⟨negative, m, e⟩

def ofNat? (n : Nat) : Option Binary64 := roundScaled false n 1 0

/-! ### Products and quotients -/

def mul? (x y : Binary64) : Option Binary64 :=
  roundScaled (x.negative != y.negative) (x.mantissa * y.mantissa) 1 (x.exponent + y.exponent)

/-- The rounded quotient; a zero divisor has no quotient. -/
def div? (x y : Binary64) : Option Binary64 :=
  if y.mantissa = 0 then none
  else roundScaled (x.negative != y.negative) x.mantissa y.mantissa (x.exponent - y.exponent)

end Binary64
end ConsoleTap.Number
