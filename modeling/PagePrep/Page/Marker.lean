import PagePrep.Text.Blank

/-!
# Markers

Lines that steer the marking of a page. Each is written as a link-reference comment, which shows
nothing when the page is rendered.
-/

set_option autoImplicit false

namespace PagePrep

/-- A line with a meaning of its own in a page. -/
inductive Marker where
  /-- Boundary above a context. -/
  | separator
  /-- Start of the page's summary. -/
  | abstract
  /-- Leave the whole page alone. -/
  | excludeFile
  /-- No boundary above the header that follows. -/
  | excludeContext
  deriving DecidableEq, Repr

namespace Marker

/-- Every marker, in order of precedence. -/
def all : List Marker := [separator, abstract, excludeFile, excludeContext]

/-- The text of a marker's line. -/
def sentinel : Marker → String
  | separator => "[comment]: # (mx-context-auto)"
  | abstract => "[comment]: # (mx-abstract)"
  | excludeFile => "[comment]: # (mx-exclude-file)"
  | excludeContext => "[comment]: # (mx-exclude-context)"

/-- A line that holds the marker's text and white space around it. -/
def isOn (m : Marker) (line : String) : Bool := Text.trim line == m.sentinel

/-- The marker on a line. -/
def ofLine? (line : String) : Option Marker := all.find? fun m => m.isOn line

theorem sentinel_injective {m k : Marker} (h : m.sentinel = k.sentinel) : m = k := by
  cases m <;> cases k <;> first | rfl | simp [sentinel] at h

theorem ofLine?_eq_some_iff {line : String} {m : Marker} :
    ofLine? line = some m ↔ m.isOn line = true := by
  constructor
  · intro h
    unfold ofLine? at h
    have found := List.find?_some h
    exact found
  · intro h
    have hm : Text.trim line = m.sentinel := by simpa [isOn] using h
    cases m <;> simp [ofLine?, all, isOn, hm, sentinel]

end Marker

end PagePrep
