/-!
# Punycode

A label with characters beyond ASCII, written with ASCII characters alone: first its ASCII
characters, then where and how often to insert which other character, as numbers of variable
length whose digits adapt to the numbers before.
-/

set_option autoImplicit false

namespace PagePrep.Url.Punycode

/-- The number of digit values. -/
def base : Nat := 36

/-- The least and the greatest threshold of a digit. -/
def tMin : Nat := 1
def tMax : Nat := 26

/-- The first code point beyond ASCII. -/
def firstCode : Nat := 128

/-- The bias before the first number. -/
def firstBias : Nat := 72

/-- Reduction of a large delta, with the number of reductions. -/
def reduceDelta (delta k : Nat) : Nat × Nat :=
  if _h : delta > (base - tMin) * tMax / 2 then reduceDelta (delta / (base - tMin)) (k + base)
  else (delta, k)
  termination_by delta
  decreasing_by
    simp only [base, tMin, tMax] at _h ⊢
    omega

/-- The bias behind a number. -/
def adapt (delta count : Nat) (first : Bool) : Nat :=
  let start := if first then delta / 700 else delta / 2
  let (d, k) := reduceDelta (start + start / count) 0
  k + (base - tMin + 1) * d / (d + 38)

/-- The threshold of the digit with weight index `k`. -/
def threshold (k bias : Nat) : Nat :=
  max tMin (min tMax (k - bias))

/-- The digit of a value. -/
def digit (n : Nat) : Char :=
  if n < 26 then Char.ofNat ('a'.toNat + n) else Char.ofNat ('0'.toNat + (n - 26))

/-- The value of a digit. -/
def value? (c : Char) : Option Nat :=
  if 'a' ≤ c ∧ c ≤ 'z' then some (c.toNat - 'a'.toNat)
  else if 'A' ≤ c ∧ c ≤ 'Z' then some (c.toNat - 'A'.toNat)
  else if '0' ≤ c ∧ c ≤ '9' then some (c.toNat - '0'.toNat + 26)
  else none

theorem one_le_threshold (k bias : Nat) : 1 ≤ threshold k bias := by
  exact Nat.le_max_left _ _

/-- A number in digits of variable length, from weight index `k` on. -/
def writeNumber (q k bias : Nat) : List Char :=
  let t := threshold k bias
  if _h : q < t then [digit q]
  else digit (t + (q - t) % (base - t)) :: writeNumber ((q - t) / (base - t)) (k + base) bias
  termination_by q
  decreasing_by
    have := one_le_threshold k bias
    exact Nat.lt_of_le_of_lt (Nat.div_le_self _ _) (by omega)

/-- What the encoder keeps between two characters. -/
structure State where
  delta : Nat
  bias : Nat
  /-- Characters handled so far. -/
  handled : Nat
  /-- Digits written so far, in reverse. -/
  output : List Char

/-- One pass over the label for the code point `n`; `basic` characters were ASCII. -/
def passChar (n basic : Nat) (s : State) (c : Char) : State :=
  if c.toNat < n then { s with delta := s.delta + 1 }
  else if c.toNat = n then
    { delta := 0
      bias := adapt s.delta (s.handled + 1) (s.handled == basic)
      handled := s.handled + 1
      output := (writeNumber s.delta base s.bias).reverse ++ s.output }
  else s

/-- The least code point of the label that is at least `n`. -/
def nextCode? (n : Nat) (label : List Char) : Option Nat :=
  ((label.map Char.toNat).filter (n ≤ ·)).min?

/-- The digits for the code points from `n` on, for at most `rounds` different ones. -/
def encodeFrom (label : List Char) (basic n : Nat) (s : State) : Nat → State
  | 0 => s
  | rounds + 1 =>
    match nextCode? n label with
    | none => s
    | some m =>
      let s' := label.foldl (passChar m basic)
        { s with delta := s.delta + (m - n) * (s.handled + 1) }
      encodeFrom label basic (m + 1) { s' with delta := s'.delta + 1 } rounds

/-- The label in ASCII characters. -/
def encode (label : List Char) : List Char :=
  let ascii := label.filter fun c => c.toNat < firstCode
  let start := if ascii.isEmpty then [] else ascii ++ ['-']
  let s := encodeFrom label ascii.length firstCode ⟨0, firstBias, ascii.length, []⟩ label.length
  start ++ s.output.reverse

/-- The number that the next digits write, added to `i` with weight `w`, and the digits left. -/
def readNumber (i w k bias : Nat) : List Char → Option (Nat × List Char)
  | [] => none
  | c :: cs =>
    match value? c with
    | none => none
    | some v =>
      let t := threshold k bias
      let i' := i + v * w
      if i' ≥ 0x100000000 then none
      else if v < t then some (i', cs)
      else readNumber i' (w * (base - t)) (k + base) bias cs

theorem length_readNumber_lt {i w k bias n : Nat} {cs rest : List Char}
    (h : readNumber i w k bias cs = some (n, rest)) : rest.length < cs.length := by
  induction cs generalizing i w k with
  | nil => simp [readNumber] at h
  | cons c cs ih =>
    unfold readNumber at h
    split at h
    · cases h
    · simp only at h
      split at h
      · cases h
      · split at h
        · simp only [Option.some.injEq, Prod.mk.injEq] at h
          obtain ⟨-, rfl⟩ := h
          simp
        · exact Nat.lt_succ_of_lt (ih h)

/-- The characters `out` with those inserted that the digits ask for. -/
def decodeFrom (n i bias : Nat) (out : List Char) (cs : List Char) : Option (List Char) :=
  match cs with
  | [] => some out
  | c :: rest =>
    match _h : readNumber i 1 base bias (c :: rest) with
    | none => none
    | some (i', cs') =>
      let count := out.length + 1
      let n' := n + i' / count
      if n' < firstCode || 0x10ffff < n' || (0xd800 ≤ n' && n' ≤ 0xdfff) then none
      else
        let place := i' % count
        decodeFrom n' (place + 1) (adapt (i' - i) count (i == 0))
          (out.take place ++ Char.ofNat n' :: out.drop place) cs'
  termination_by cs.length
  decreasing_by exact length_readNumber_lt _h

/-- The part before the last hyphen and the part behind it; a hyphen at the very start separates
nothing. -/
def splitLastHyphen (cs : List Char) : List Char × List Char :=
  match cs.reverse.dropWhile (· ≠ '-') with
  | _ :: a :: front => ((a :: front).reverse, (cs.reverse.takeWhile (· ≠ '-')).reverse)
  | _ => ([], cs)

/-- The label that some ASCII characters write. -/
def decode? (cs : List Char) : Option (List Char) :=
  let (ascii, digits) := splitLastHyphen cs
  if ascii.all fun c => c.toNat < firstCode then decodeFrom firstCode 0 firstBias ascii digits
  else none

end PagePrep.Url.Punycode
