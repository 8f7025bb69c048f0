import PagePrep.Decimal.Shortest

/-!
# Numbers of a JSON text

An integer within 64 bits stays an integer; any other number is the product or quotient of its
leading digits and a power of ten in binary floating point.
-/

set_option autoImplicit false

namespace PagePrep.Json

open Decimal

/-- The value of a number. -/
inductive Number where
  | integer (i : Int)
  | floating (negative : Bool) (x : Binary64)
  deriving DecidableEq, Repr

namespace Number

/-- The largest number kept as an integer. -/
def largest : Nat := 0xffffffffffffffff

/-- The number divided by `10 ^ n`, by at most `10 ^ 308` at a time. -/
def shrink (x : Binary64) (n : Nat) : Option Binary64 :=
  if n ≤ 308 then x.div? (Binary64.pow10 n)
  else if x.mantissa = 0 then some x
  else
    match x.div? (Binary64.pow10 308) with
    | some y => shrink y (n - 308)
    | none => none
  termination_by n

/-- The value of `significand * 10 ^ e`, or nothing if it is too large. -/
def scaled? (significand : Nat) (e : Int) : Option Binary64 :=
  match Binary64.ofNat? significand with
  | none => none
  | some x =>
    if e < 0 then shrink x e.natAbs
    else if e ≤ 308 then x.mul? (Binary64.pow10 e.toNat)
    else if x.mantissa = 0 then some x
    else none

/-- The number without point and exponent. -/
def ofInteger (negative : Bool) (n : Nat) : Number :=
  if !negative then integer n
  else if n = 0 || n > 0x8000000000000000 then floating true ((Binary64.ofNat? n).getD Binary64.zero)
  else integer (-(n : Int))

/-- Digits with a point after the first `k`, zeros filled in. -/
def pointed (digits : List Char) (k : Int) : String :=
  let n : Int := digits.length
  if n ≤ k then String.ofList (digits ++ List.replicate (k - n).toNat '0' ++ ['.', '0'])
  else if 0 < k then
    String.ofList (digits.take k.toNat ++ '.' :: digits.drop k.toNat)
  else String.ofList ('0' :: '.' :: List.replicate (-k).toNat '0' ++ digits)

/-- Digits with a point after the first one and an exponent. -/
def withExponent (digits : List Char) (k : Int) : String :=
  let lead := match digits with
    | [] => []
    | [d] => [d]
    | d :: ds => d :: '.' :: ds
  String.ofList lead ++ "e" ++ toString (k - 1)

/-- The shortest decimal, with an exponent where the point would stand far from the digits. -/
def floatText (x : Binary64) : String :=
  let d := x.shortest
  if d.digits = 0 then "0.0"
  else
    let digits := Nat.toDigits 10 d.digits
    let k : Int := digits.length + d.exponent
    if -5 < k ∧ k ≤ 16 then pointed digits k else withExponent digits k

/-- A number in a message. -/
def text : Number → String
  | integer i => toString i
  | floating negative x => (if negative then "-" else "") ++ floatText x

end Number

end PagePrep.Json
