import ConsoleTap.Number.Binary64

/-!
# The fewest digits that identify a number

Every finite binary number owns an interval of reals that round to it.
`shortest` picks the decimal with the fewest digits inside that interval and,
of several with equally few, the one nearest to the number itself, an exact tie
going to the even last digit.  The search tries one grid of decimals after the
other, from one digit up to seventeen, and on each grid only the two neighbours
of the number: if any point of a grid lies in the interval, so does one of
those two.

How the digits are laid out is decided where text is written; this module knows
no notation.
-/

namespace ConsoleTap.Number

/-- The decimal `digits * 10 ^ exponent`. -/
structure Decimal where
  digits : Nat
  exponent : Int
deriving DecidableEq, Repr, Inhabited

/-- Compares `a * 10 ^ i` with `b * 2 ^ j`, exactly. -/
def compareScaled (a : Nat) (i : Int) (b : Nat) (j : Int) : Ordering :=
  compare ((a * Nat.pow 10 i.toNat) <<< (-j).toNat) ((b * Nat.pow 10 (-i).toNat) <<< j.toNat)

namespace Binary64

/-- Below a power of two the neighbours of a number stand half as far away. -/
def narrowBelow (x : Binary64) : Bool :=
  x.mantissa == 1 <<< 52 && decide (minExponent < x.exponent)

/-- Whether a decimal lies among the reals that round to the magnitude of the
    number. The ends of the interval belong to it when the mantissa is even. -/
def readsBack (x : Binary64) (d : Decimal) : Bool :=
  let low := if x.narrowBelow then 4 * x.mantissa - 1 else 4 * x.mantissa - 2
  let high := 4 * x.mantissa + 2
  let closed := x.mantissa % 2 == 0
  let below := compareScaled d.digits d.exponent low (x.exponent - 2)
  let above := compareScaled d.digits d.exponent high (x.exponent - 2)
  (below == .gt || (closed && below == .eq)) && (above == .lt || (closed && above == .eq))

/-- The least `k` of the range searched with the magnitude below `10 ^ k`. -/
def decimalScale (x : Binary64) : Int :=
  let start : Int := ((x.mantissa.log2 : Int) + x.exponent) * 30103 / 100000 - 1
  ((List.range 4).map (fun (i : Nat) => start + i)).find?
      (fun k => compareScaled 1 k x.mantissa x.exponent == .gt)
    |>.getD (start + 4)

/-- The natural part of `magnitude / 10 ^ grid`. -/
def floorAt (x : Binary64) (grid : Int) : Nat :=
  ((x.mantissa * Nat.pow 10 (-grid).toNat) <<< x.exponent.toNat) /
    (Nat.pow 10 grid.toNat <<< (-x.exponent).toNat)

/-- Of the number's two neighbours on a grid, the one to print, if any reads back. -/
def choose (x : Binary64) (grid : Int) : Option Decimal :=
  let low : Decimal := ⟨x.floorAt grid, grid⟩
  let high : Decimal := ⟨x.floorAt grid + 1, grid⟩
  match x.readsBack low, x.readsBack high with
  | true, false => some low
  | false, true => some high
  | false, false => none
  | true, true =>
      match compareScaled (2 * low.digits + 1) grid (2 * x.mantissa) x.exponent with
      | .lt => some high
      | .gt => some low
      | .eq => if low.digits % 2 = 0 then some low else some high

end Binary64

namespace Decimal

/-- Moves trailing zeros of the digits into the exponent, at most `fuel` of them. -/
def strip : Nat → Decimal → Decimal
  | 0, d => d
  | fuel + 1, d =>
      if d.digits % 10 = 0 ∧ d.digits ≠ 0 then strip fuel ⟨d.digits / 10, d.exponent + 1⟩ else d

end Decimal

/-- The decimal with the fewest digits that reads back to the magnitude of a
    number; zero is `0 * 10 ^ 0`. -/
def Binary64.shortest (x : Binary64) : Decimal :=
  if x.isZero then ⟨0, 0⟩
  else
    let k := x.decimalScale
    match (List.range 17).findSome? (fun (i : Nat) => x.choose (k - (i + 1 : Nat))) with
    | some d => d.strip 20
    | none => ⟨(x.mantissa * Nat.pow 5 (-x.exponent).toNat) <<< x.exponent.toNat, min x.exponent 0⟩

end ConsoleTap.Number
