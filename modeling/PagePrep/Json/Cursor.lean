import PagePrep.Json.Fault

/-!
# Reading position in a JSON text

What is left of a text and how many bytes came before. A fault lies at the cursor, or one byte
ahead when a character looked at but not taken is to blame.
-/

set_option autoImplicit false

namespace PagePrep.Json

/-- The characters to come, and the number of bytes before them. -/
structure Cursor where
  rest : List Char
  offset : Nat
  deriving DecidableEq, Repr

/-- A result and the cursor behind it. -/
abbrev Reading (α : Type) := Except Fault (α × Cursor)

namespace Cursor

/-- The start of a text. -/
def start (s : String) : Cursor := ⟨s.toList, 0⟩

/-- Behind the next character. -/
def advance : Cursor → Cursor
  | ⟨[], n⟩ => ⟨[], n⟩
  | ⟨c :: cs, n⟩ => ⟨cs, n + c.utf8Size⟩

/-- A fault at the cursor. -/
def fault {α : Type} (c : Cursor) (cause : Cause) : Except Fault α := .error ⟨cause, c.offset⟩

/-- A fault one byte ahead, or at the end of the text if nothing is left. -/
def faultAhead {α : Type} (c : Cursor) (cause : Cause) : Except Fault α :=
  .error ⟨cause, if c.rest.isEmpty then c.offset else c.offset + 1⟩

/-- Whether the character is white space between the parts of a JSON text. -/
def isGap (c : Char) : Bool := c == ' ' || c == '\n' || c == '\t' || c == '\r'

/-- Characters behind the white space, when `offset` bytes come before them. -/
def skipGapsFrom (offset : Nat) : List Char → Cursor
  | [] => ⟨[], offset⟩
  | c :: cs => if isGap c then skipGapsFrom (offset + c.utf8Size) cs else ⟨c :: cs, offset⟩

/-- Behind the white space. -/
def skipGaps (c : Cursor) : Cursor := skipGapsFrom c.offset c.rest

/-- How many characters are left. -/
def size (c : Cursor) : Nat := c.rest.length

theorem size_skipGapsFrom_le (n : Nat) (cs : List Char) :
    (skipGapsFrom n cs).size ≤ cs.length := by
  induction cs generalizing n with
  | nil => simp [skipGapsFrom, size]
  | cons c cs ih =>
    unfold skipGapsFrom
    split
    · exact Nat.le_succ_of_le (ih _)
    · simp [size]

theorem size_skipGaps_le (c : Cursor) : c.skipGaps.size ≤ c.size := size_skipGapsFrom_le _ _

theorem size_advance_lt {c : Cursor} {a : Char} {as : List Char} (h : c.rest = a :: as) :
    c.advance.size < c.size := by
  obtain ⟨rest, n⟩ := c
  simp only at h
  subst h
  simp [advance, size]

end Cursor

end PagePrep.Json
