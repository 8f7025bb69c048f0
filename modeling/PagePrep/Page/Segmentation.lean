import PagePrep.Page.BlankRun
import PagePrep.Page.Context
import PagePrep.Page.LineKind
import PagePrep.Text.Search

/-!
# Segmentation of a page

A page is read line by line into pieces: headers that open a context, lines of a section and
markers. A separator of an earlier run is dropped, with the blank line below it where it stands
above a header, and each opening header gets a fresh one. The pieces determine both the text
written back and the contexts.
-/

set_option autoImplicit false

namespace PagePrep

open Text

/-- What becomes of an input line that is kept. -/
inductive Piece where
  /-- A marker: kept in the page, part of no context. -/
  | mark (line : String)
  /-- A line of the section it stands in. -/
  | body (line : String)
  /-- A header that opens a context. -/
  | opening (header : String)
  deriving DecidableEq, Repr

namespace Piece

/-- The lines written for a piece. -/
def lines : Piece → List String
  | mark line => [line]
  | body line => [line]
  | opening header => [Marker.separator.sentinel, "", header]

/-- The lines written for some pieces. -/
def allLines (ps : List Piece) : List String := ps.flatMap lines

/-- The body lines up to the next header that opens a context. -/
def sectionBody : List Piece → List String
  | [] => []
  | mark _ :: ps => sectionBody ps
  | body line :: ps => line :: sectionBody ps
  | opening _ :: _ => []

/-- The contexts of the pieces, when `written` lines stand before them. -/
def contexts (file : String) (written : Nat) : List Piece → List Context
  | [] => []
  | mark _ :: ps => contexts file (written + 1) ps
  | body _ :: ps => contexts file (written + 1) ps
  | opening header :: ps =>
    ⟨file, written, header :: sectionBody ps⟩ :: contexts file (written + 3) ps

end Piece

/-- The input lines directly before the current one. -/
structure Lookback where
  one : Option String
  two : Option String
  deriving DecidableEq, Repr

namespace Lookback

/-- The start of a page. -/
def start : Lookback := ⟨none, none⟩

/-- One line further on. -/
def push (b : Lookback) (line : String) : Lookback := ⟨some line, b.one⟩

/-- Whether one of the lines carries the marker. -/
def carries (b : Lookback) (m : Marker) : Bool := b.one.any m.isOn || b.two.any m.isOn

/-- Whether a header here opens no context, because a marker stands just above it. -/
def suppresses (b : Lookback) : Bool := b.carries .abstract || b.carries .excludeContext

end Lookback

/-- Whether the first of the lines is there and a header. -/
def startsWithHeader : List String → Bool
  | [] => false
  | l :: _ => isHeader l

/-- The pieces of the lines that follow `before`; `inCode` says that a code block is open. -/
def Piece.ofLines (before : Lookback) (inCode : Bool) : List String → List Piece
  | [] => []
  | line :: rest =>
    match LineKind.ofLine line with
    | .marker .separator =>
      match rest with
      | [] => []
      | blank :: below =>
        if !inCode && isBlank blank && startsWithHeader below then
          Piece.ofLines ((before.push line).push blank) inCode below
        else Piece.ofLines (before.push line) inCode (blank :: below)
    | .marker .abstract => .mark line :: Piece.ofLines (before.push line) inCode rest
    | .marker .excludeContext => .mark line :: Piece.ofLines (before.push line) inCode rest
    | .fence => .body line :: Piece.ofLines (before.push line) (!inCode) rest
    | .header =>
      (if inCode || before.suppresses then .body line else .opening line) ::
        Piece.ofLines (before.push line) inCode rest
    | _ => .body line :: Piece.ofLines (before.push line) inCode rest

/-- A page with its contexts marked. -/
structure Document where
  /-- The page's new text: empty, or ended by one newline. -/
  text : String
  /-- The contexts in page order. -/
  contexts : List Context
  deriving DecidableEq, Repr

namespace Document

/-- Whether the text holds the abstract marker anywhere. -/
def hasAbstract (d : Document) : Bool := contains d.text Marker.abstract.sentinel

/-- The page made of some pieces. -/
def ofPieces (file : String) (ps : List Piece) : Document :=
  let collapsed := Collapsed.ofLines (Piece.allLines ps)
  { text := finishText collapsed.lines
    contexts := (Piece.contexts file 0 ps).map fun c =>
      { c with lineIndex := collapsed.place c.lineIndex } }

end Document

/-- Whether a text asks to be left alone. -/
def isExcluded (text : String) : Bool := contains text Marker.excludeFile.sentinel

/-- The fate of a page. -/
inductive Segmented where
  /-- The page asks to be left alone. -/
  | skipped
  | rewritten (document : Document)
  deriving DecidableEq, Repr

/-- A page's text with its contexts marked. -/
def segment (file text : String) : Segmented :=
  if isExcluded text then .skipped
  else .rewritten (Document.ofPieces file (Piece.ofLines .start false (lines text)))

end PagePrep
