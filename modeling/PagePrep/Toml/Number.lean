import PagePrep.Decimal.Binary64
import PagePrep.Text.Hex
import PagePrep.Toml.Text

/-!
# Numbers and dates in TOML

Integers have 64 bits and may be written in four bases, with single underscores between their
digits. Of a number with a fraction or an exponent, and of a date, only the form matters.
-/

set_option autoImplicit false

namespace PagePrep.Toml

open Decimal

/-- The digits that come next, without the underscores between them, and what is behind. -/
def takeDigits (isDigit : Char → Bool) : List Char → List Char × List Char
  | [] => ([], [])
  | [c] => if isDigit c then ([c], []) else ([], [c])
  | c :: d :: cs =>
    if isDigit c then
      let r := takeDigits isDigit (d :: cs)
      (c :: r.1, r.2)
    else if c = '_' && isDigit d then
      let r := takeDigits isDigit (d :: cs)
      (r.1, r.2)
    else ([], c :: d :: cs)

/-- The digits that come next, of which the first is one. -/
def readDigits (isDigit : Char → Bool) : List Char → Reading (List Char)
  | [] => none
  | c :: cs => if isDigit c then some (takeDigits isDigit (c :: cs)) else none

/-- The number that some digits write. -/
def ofDigits (base : Nat) (ds : List Char) : Nat :=
  ds.foldl (fun n d => base * n + (Text.hexValue? d).getD 0) 0

/-- A sign, if one comes next, and whether it is a minus. -/
def readSign : List Char → Bool × List Char
  | '-' :: cs => (true, cs)
  | '+' :: cs => (false, cs)
  | cs => (false, cs)

/-- Sign and digits of a decimal integer: a first zero stands alone. -/
def readDecimal (cs : List Char) : Reading (Bool × List Char) :=
  let (negative, ds) := readSign cs
  match ds with
  | '0' :: rest => some ((negative, ['0']), rest)
  | _ => (readDigits Char.isDigit ds).map fun r => ((negative, r.1), r.2)

/-! ## Integers -/

/-- What every integer is below; the negative ones reach its negative. -/
def integerBound : Nat := 0x8000000000000000

/-- Digits in another base, behind the sign of that base. -/
def readInBase (base : Nat) (isDigit : Char → Bool) (cs : List Char) : Reading Int :=
  match readDigits isDigit cs with
  | none => none
  | some (ds, rest) =>
    let n := ofDigits base ds
    if n < integerBound then some (n, rest) else none

/-- The integer that comes next. -/
def readInteger (cs : List Char) : Reading Int :=
  match cs with
  | '0' :: 'x' :: rest => readInBase 16 (fun c => (Text.hexValue? c).isSome) rest
  | '0' :: 'o' :: rest => readInBase 8 (fun c => '0' ≤ c && c ≤ '7') rest
  | '0' :: 'b' :: rest => readInBase 2 (fun c => c == '0' || c == '1') rest
  | _ =>
    match readDecimal cs with
    | none => none
    | some ((negative, ds), rest) =>
      let n := ofDigits 10 ds
      if negative then if n ≤ integerBound then some (-(n : Int), rest) else none
      else if n < integerBound then some ((n : Int), rest)
      else none

/-! ## Floating point -/

/-- An exponent, if one comes next. -/
def readExponent : List Char → Reading Int
  | [] => none
  | c :: cs =>
    if c = 'e' || c = 'E' then
      let (negative, ds) := readSign cs
      (readDigits Char.isDigit ds).map fun r =>
        let n : Int := ofDigits 10 r.1
        (if negative then -n else n, r.2)
    else none

/-- Whether `n * 10 ^ e` is beyond the largest number with 64 bits. -/
def isBeyond (n : Nat) (e : Int) : Bool :=
  if n = 0 then false
  else
    let place : Int := (Nat.toDigits 10 n).length + e
    if place > 310 then true
    else if place < 300 then false
    else (Binary64.ofQuotient? (n * Nat.pow 10 e.toNat) (Nat.pow 10 (-e).toNat)).isNone

/-- A number with a fraction or an exponent, if it is not too large. -/
def readFloat (cs : List Char) : Option (List Char) :=
  match readDecimal cs with
  | none => none
  | some ((negative, ds), rest) =>
    let keep (n : Nat) (e : Int) (r : List Char) : Option (List Char) :=
      if !negative && isBeyond n e then none else some r
    match rest with
    | '.' :: more =>
      match readDigits Char.isDigit more with
      | none => none
      | some (fs, r) =>
        let n := ofDigits 10 (ds ++ fs)
        match readExponent r with
        | some (e, r') => keep n (e - fs.length) r'
        | none => keep n (-fs.length) r
    | _ => (readExponent rest).bind fun r => keep (ofDigits 10 ds) r.1 r.2

/-- A number without a value of its own: infinity or no number. -/
def readSpecial (cs : List Char) : Option (List Char) :=
  let ds := (readSign cs).2
  if ['i', 'n', 'f'].isPrefixOf ds || ['n', 'a', 'n'].isPrefixOf ds then some (ds.drop 3)
  else none

/-! ## Dates and times -/

/-- Just `n` digits whose value is from `low` to `high`. -/
def readField (n low high : Nat) (cs : List Char) : Reading Nat :=
  let ds := cs.take n
  let value := ofDigits 10 ds
  if ds.length = n && ds.all Char.isDigit && low ≤ value && value ≤ high then
    some (value, cs.drop n)
  else none

/-- Behind one character that has to come next. -/
def expectChar (c : Char) : List Char → Option (List Char)
  | [] => none
  | d :: cs => if d = c then some cs else none

/-- How many days a month has. -/
def daysIn (year month : Nat) : Nat :=
  if month = 2 then
    if year % 4 = 0 && (year % 100 ≠ 0 || year % 400 = 0) then 29 else 28
  else if [4, 6, 9, 11].contains month then 30
  else 31

/-- Behind a date. -/
def readDate (cs : List Char) : Option (List Char) := do
  let (year, cs) ← readField 4 0 9999 cs
  let cs ← expectChar '-' cs
  let (month, cs) ← readField 2 1 12 cs
  let cs ← expectChar '-' cs
  let (_, cs) ← readField 2 1 (daysIn year month) cs
  return cs

/-- Behind the fraction of a second, if there is one. -/
def skipFraction : List Char → List Char
  | '.' :: c :: cs => if c.isDigit then cs.dropWhile Char.isDigit else '.' :: c :: cs
  | cs => cs

/-- Behind a time of the day. -/
def readTime (cs : List Char) : Option (List Char) := do
  let (_, cs) ← readField 2 0 23 cs
  let cs ← expectChar ':' cs
  let (_, cs) ← readField 2 0 59 cs
  let cs ← expectChar ':' cs
  let (_, cs) ← readField 2 0 60 cs
  return skipFraction cs

/-- Behind the distance from universal time, if one comes next. -/
def readOffset : List Char → Option (List Char)
  | [] => none
  | c :: cs =>
    if c = 'Z' || c = 'z' then some cs
    else if c = '+' || c = '-' then do
      let (_, cs) ← readField 2 0 23 cs
      let cs ← expectChar ':' cs
      let (_, cs) ← readField 2 0 59 cs
      return cs
    else none

/-- Behind the time that may follow a date. -/
def skipTimeOfDate : List Char → List Char
  | [] => []
  | c :: cs =>
    if c = 'T' || c = 't' || c = ' ' then
      match readTime cs with
      | some rest => (readOffset rest).getD rest
      | none => c :: cs
    else c :: cs

/-- Behind a date, a time or both. -/
def readMoment (cs : List Char) : Option (List Char) :=
  match readDate cs with
  | some rest => some (skipTimeOfDate rest)
  | none => readTime cs

end PagePrep.Toml
