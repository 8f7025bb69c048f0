/-!
# Binary floating point

The finite non-negative numbers with a 53-bit mantissa, and quotients rounded to the nearest of
them. All arithmetic is exact on natural numbers until the one rounding at its end.
-/

set_option autoImplicit false

namespace PagePrep.Decimal

/-- The number `mantissa * 2 ^ exponent`. -/
structure Binary64 where
  mantissa : Nat
  exponent : Int
  deriving DecidableEq, Repr

namespace Binary64

/-- The least exponent. -/
def leastExponent : Int := -1074

/-- What every mantissa is below, `2 ^ 53`. -/
def mantissaBound : Nat := 0x20000000000000

/-- Where the mantissas of full length start, `2 ^ 52`. -/
def leastFull : Nat := 0x10000000000000

def zero : Binary64 := ⟨0, leastExponent⟩

/-- Quotient rounded to the nearest natural number, a half to the even one. -/
def roundDiv (num den : Nat) : Nat :=
  let q := num / den
  let r := num % den
  if 2 * r > den || (2 * r == den && q % 2 == 1) then q + 1 else q

/-- The exponent with which `num / den` has 53 digits before the point, unless it is too small. -/
def exponentFor (num den : Nat) : Int :=
  let guess : Int := (num.log2 : Int) - den.log2 - 52
  let whole := num * Nat.pow 2 (-guess).toNat / (den * Nat.pow 2 guess.toNat)
  max (if whole < leastFull then guess - 1 else guess) leastExponent

/-- The number nearest to `num / den`, or nothing if that is beyond the largest. -/
def ofQuotient? (num den : Nat) : Option Binary64 :=
  if num = 0 then some zero
  else
    let e := exponentFor num den
    let m := roundDiv (num * Nat.pow 2 (-e).toNat) (den * Nat.pow 2 e.toNat)
    let x : Binary64 := if m = mantissaBound then ⟨leastFull, e + 1⟩ else ⟨m, e⟩
    if x.exponent > 971 then none else some x

/-- The number nearest to `n`. -/
def ofNat? (n : Nat) : Option Binary64 := ofQuotient? n 1

/-- The product, rounded. -/
def mul? (x y : Binary64) : Option Binary64 :=
  let e := x.exponent + y.exponent
  ofQuotient? (x.mantissa * y.mantissa * Nat.pow 2 e.toNat) (Nat.pow 2 (-e).toNat)

/-- The quotient, rounded; `y` is not zero. -/
def div? (x y : Binary64) : Option Binary64 :=
  let e := x.exponent - y.exponent
  ofQuotient? (x.mantissa * Nat.pow 2 e.toNat) (y.mantissa * Nat.pow 2 (-e).toNat)

/-- The number nearest to `10 ^ n`, for `n` at most 308. -/
def pow10 (n : Nat) : Binary64 := (ofNat? (Nat.pow 10 n)).getD zero

end Binary64

end PagePrep.Decimal
