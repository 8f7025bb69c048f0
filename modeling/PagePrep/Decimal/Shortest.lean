import PagePrep.Decimal.Binary64

/-!
# Shortest decimals

The decimal with the fewest digits that still rounds to a given binary number, and of those the
nearest one. The search tries one digit, two digits and so on; on each grid only the two
neighbours of the number can be the answer.
-/

set_option autoImplicit false

namespace PagePrep.Decimal

/-- The number `digits * 10 ^ exponent`. -/
structure Scientific where
  digits : Nat
  exponent : Int
  deriving DecidableEq, Repr

namespace Binary64

/-- Order of `a * 10 ^ i` and `b * 2 ^ j`. -/
def compareDecimal (a : Nat) (i : Int) (b : Nat) (j : Int) : Ordering :=
  compare (a * Nat.pow 10 i.toNat * Nat.pow 2 (-j).toNat)
    (b * Nat.pow 2 j.toNat * Nat.pow 10 (-i).toNat)

/-- Whether the number below is nearer than the number above. -/
def narrowBelow (x : Binary64) : Bool := x.mantissa == leastFull && x.exponent > leastExponent

/-- Whether `d` is among the decimals that round to `x`. -/
def isRoundingOf (x : Binary64) (d : Scientific) : Bool :=
  let low := if x.narrowBelow then 4 * x.mantissa - 1 else 4 * x.mantissa - 2
  let ends := x.mantissa % 2 == 0
  let below := compareDecimal d.digits d.exponent low (x.exponent - 2)
  let above := compareDecimal d.digits d.exponent (4 * x.mantissa + 2) (x.exponent - 2)
  (below == .gt || (ends && below == .eq)) && (above == .lt || (ends && above == .eq))

/-- Number of decimal digits; zero has none. -/
def digitCount (n : Nat) : Nat := if n = 0 then 0 else (Nat.toDigits 10 n).length

/-- The least `k` with `x < 10 ^ k`, for a number that is not zero. -/
def scale (x : Binary64) : Int :=
  let num := x.mantissa * Nat.pow 2 x.exponent.toNat
  let den := Nat.pow 2 (-x.exponent).toNat
  let guess : Int := (digitCount num : Int) - digitCount den
  if compareDecimal 1 guess x.mantissa x.exponent == .gt then guess else guess + 1

/-- The neighbour of `x` on the grid of `10 ^ k` that rounds to `x`; of two the nearer one, of two
equally near ones the even one. -/
def onGrid? (x : Binary64) (k : Int) : Option Scientific :=
  let num := x.mantissa * Nat.pow 2 x.exponent.toNat * Nat.pow 10 (-k).toNat
  let den := Nat.pow 2 (-x.exponent).toNat * Nat.pow 10 k.toNat
  let down := num / den
  let r := num % den
  let low : Scientific := ⟨down, k⟩
  let high : Scientific := ⟨down + 1, k⟩
  let upIsNearer := 2 * r > den || (2 * r == den && down % 2 == 1)
  match x.isRoundingOf low, x.isRoundingOf high with
  | true, true => some (if upIsNearer then high else low)
  | true, false => some low
  | false, true => some high
  | false, false => none

/-- The first hit with `n`, `n + 1`, ... digits, on at most `tries` grids. -/
def search (x : Binary64) (k : Int) (n : Nat) : Nat → Option Scientific
  | 0 => none
  | tries + 1 =>
    match x.onGrid? (k - n) with
    | some d => some d
    | none => search x k (n + 1) tries

/-- Trailing zeros moved to the exponent, at most `steps` of them. -/
def stripZeros (d : Scientific) : Nat → Scientific
  | 0 => d
  | steps + 1 =>
    if d.digits ≠ 0 && d.digits % 10 == 0 then
      stripZeros ⟨d.digits / 10, d.exponent + 1⟩ steps
    else d

/-- The shortest decimal of a number. -/
def shortest (x : Binary64) : Scientific :=
  if x.mantissa = 0 then ⟨0, 0⟩
  else
    match search x x.scale 1 17 with
    | some d => stripZeros d 20
    | none =>
      ⟨x.mantissa * Nat.pow 2 x.exponent.toNat * Nat.pow 5 (-x.exponent).toNat,
        min x.exponent 0⟩

end Binary64

end PagePrep.Decimal
