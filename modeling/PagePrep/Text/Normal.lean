import PagePrep.Text.NormalTable

/-!
# Canonical composition

The form of a text in which equivalent sequences of characters are the same: each character is
decomposed, combining characters are put in order of their classes, and then each pair that
composes is composed.
-/

set_option autoImplicit false

namespace PagePrep.Text

/-! ## Hangul syllables -/

/-- The jamo that a syllable consists of. -/
def syllableParts? (n : Nat) : Option (List Nat) :=
  if 0xac00 ≤ n ∧ n < 0xac00 + 11172 then
    let s := n - 0xac00
    let lead := 0x1100 + s / 588
    let vowel := 0x1161 + s % 588 / 28
    some (if s % 28 = 0 then [lead, vowel] else [lead, vowel, 0x11a7 + s % 28])
  else none

/-- The syllable of two jamo, or of a syllable without a final consonant and one. -/
def syllable? (a b : Nat) : Option Nat :=
  if 0x1100 ≤ a ∧ a < 0x1113 ∧ 0x1161 ≤ b ∧ b < 0x1176 then
    some (0xac00 + ((a - 0x1100) * 21 + (b - 0x1161)) * 28)
  else if 0xac00 ≤ a ∧ a < 0xac00 + 11172 ∧ (a - 0xac00) % 28 = 0 ∧ 0x11a8 ≤ b ∧ b < 0x11c3 then
    some (a + (b - 0x11a7))
  else none

/-! ## Decomposition and order -/

/-- The full decomposition of a character. -/
def decomposeChar (c : Char) : List Char :=
  match syllableParts? c.toNat with
  | some ns => ns.map Char.ofNat
  | none =>
    match decompositions.at? c.toNat with
    | some ns => ns.map Char.ofNat
    | none => [c]

/-- A combining character put before those of greater class; `held` is the text before it in
reverse. -/
def insertMark (c : Char) : List Char → List Char
  | [] => [c]
  | d :: held =>
    if combiningClasses.get c < combiningClasses.get d then d :: insertMark c held
    else c :: d :: held

/-- A character added to the text before it, which is in reverse. -/
def addOrdered (held : List Char) (c : Char) : List Char :=
  if combiningClasses.get c = 0 then c :: held else insertMark c held

/-- The decomposition of a text, in canonical order. -/
def decompose (cs : List Char) : List Char :=
  ((cs.flatMap decomposeChar).foldl addOrdered []).reverse

/-! ## Composition -/

/-- The character that two characters compose to. -/
def compose? (a b : Char) : Option Char :=
  match syllable? a.toNat b.toNat with
  | some n => some (Char.ofNat n)
  | none =>
    match compositions.at? (a.toNat * 0x200000 + b.toNat) with
    | some (n :: _) => some (Char.ofNat n)
    | _ => none

/-- A text under composition. -/
structure Composing where
  /-- What is complete, in reverse. -/
  done : List Char
  /-- The character that further ones may compose with. -/
  starter : Option Char
  /-- The characters behind the starter, in reverse. -/
  marks : List Char

namespace Composing

/-- Everything so far, in reverse. -/
def all (s : Composing) : List Char := s.marks ++ s.starter.toList ++ s.done

/-- Whether the marks keep a character of class `k` from its starter. -/
def blocks (s : Composing) (k : Nat) : Bool :=
  match s.marks with
  | [] => false
  | m :: _ => k ≤ combiningClasses.get m

/-- A character that composes with nothing before it. -/
def keep (s : Composing) (c : Char) : Composing :=
  if combiningClasses.get c = 0 then ⟨s.all, some c, []⟩ else { s with marks := c :: s.marks }

/-- A character behind the text. -/
def add (s : Composing) (c : Char) : Composing :=
  match s.starter with
  | none => s.keep c
  | some a =>
    if s.blocks (combiningClasses.get c) then s.keep c
    else
      match compose? a c with
      | some b => { s with starter := some b }
      | none => s.keep c

end Composing

/-- The composed form of a text. -/
def composed (cs : List Char) : List Char :=
  ((decompose cs).foldl Composing.add ⟨[], none, []⟩).all.reverse

end PagePrep.Text
