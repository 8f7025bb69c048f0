import PagePrep.Page.Marker

/-!
# Kinds of line

What a single line is by itself. Whether a header stands in a code block, or below a marker, is
not a matter of the line alone.
-/

set_option autoImplicit false

namespace PagePrep

/-- A line's kind. -/
inductive LineKind where
  | marker (m : Marker)
  | fence
  | header
  | rule
  | text
  deriving DecidableEq, Repr

/-- A line that starts or ends a code block: three backticks at its very start. -/
def isFence (line : String) : Bool := ['\x60', '\x60', '\x60'].isPrefixOf line.toList

/-- Up to `n` further number signs, then a space. -/
def closesHeaderSign : Nat → List Char → Bool
  | _, ' ' :: _ => true
  | n + 1, '#' :: cs => closesHeaderSign n cs
  | _, _ => false

/-- A header of level one to four: its number signs start the line and a space follows them. -/
def isHeader (line : String) : Bool :=
  match line.toList with
  | '#' :: cs => closesHeaderSign 3 cs
  | _ => false

/-- A horizontal rule: three hyphens with white space around them. -/
def isRule (line : String) : Bool := Text.trim line == "---"

namespace LineKind

/-- The kind of a line; of several, the first of marker, fence, header and rule. -/
def ofLine (line : String) : LineKind :=
  match Marker.ofLine? line with
  | some m => marker m
  | none =>
    if isFence line then fence
    else if isHeader line then header
    else if isRule line then rule
    else text

theorem ofLine_eq_marker_iff {line : String} {m : Marker} :
    ofLine line = marker m ↔ m.isOn line = true := by
  rw [← Marker.ofLine?_eq_some_iff]
  unfold ofLine
  cases Marker.ofLine? line with
  | some k => simp
  | none => simp only [reduceCtorEq, iff_false]; split <;> (try split) <;> (try split) <;> simp

end LineKind

end PagePrep
