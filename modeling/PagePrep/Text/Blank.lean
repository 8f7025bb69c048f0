/-!
# White space

The characters with the White_Space property, trimming, and the words of a line.
-/

set_option autoImplicit false

namespace PagePrep.Text

/-- A character with the White_Space property. -/
def isSpace (c : Char) : Bool :=
  let n := c.toNat
  (9 ≤ n && n ≤ 13) || n == 32 || n == 0x85 || n == 0xa0 || n == 0x1680 ||
    (0x2000 ≤ n && n ≤ 0x200a) || n == 0x2028 || n == 0x2029 || n == 0x202f ||
    n == 0x205f || n == 0x3000

/-- Leading white space removed. -/
def trimStart (cs : List Char) : List Char := cs.dropWhile isSpace

/-- Trailing white space removed. -/
def trimEnd (cs : List Char) : List Char := (cs.reverse.dropWhile isSpace).reverse

/-- White space removed at both ends. -/
def trim (s : String) : String := String.ofList (trimEnd (trimStart s.toList))

/-- A line without a visible character. -/
def isBlank (s : String) : Bool := s.toList.all isSpace

/-- Words begun in `cs`; `inside` says that a word is already under way. -/
def wordsFrom (inside : Bool) : List Char → Nat
  | [] => 0
  | c :: cs =>
    if isSpace c then wordsFrom false cs
    else if inside then wordsFrom true cs
    else wordsFrom true cs + 1

/-- Number of maximal runs of characters that are not white space. -/
def wordCount (s : String) : Nat := wordsFrom false s.toList

@[simp] theorem isBlank_empty : isBlank "" = true := rfl

theorem trimStart_eq_nil_iff {cs : List Char} : trimStart cs = [] ↔ cs.all isSpace = true := by
  induction cs with
  | nil => simp [trimStart]
  | cons c r ih =>
    unfold trimStart at ih ⊢
    by_cases h : isSpace c = true <;> simp_all

end PagePrep.Text
