import PagePrep.Json.Reader
import PagePrep.Region.Fault
import PagePrep.Text.Blank
import PagePrep.Text.Lines
import PagePrep.Text.Search
import PagePrep.Url.Parse

/-!
# Addresses of regions

A line that opens a region holds, inside a comment, its begin word and a JSON object. The member
`url` of the object is the address of the region's content.
-/

set_option autoImplicit false

namespace PagePrep

open Text

/-- A line without the signs of a comment. -/
def commentText (line : String) : String := trim (replaceAll (replaceAll line "<!--" "") "-->" "")

/-- What follows the first word, if the text has more than one. -/
def afterFirstWord? (s : String) : Option String :=
  match s.toList.dropWhile fun c => !isSpace c with
  | [] => none
  | _ :: rest => some (trim (String.ofList rest))

/-- The address given by a JSON value; `content` is the line's text in a message. -/
def addressOfPayload (content : String) : Json.Value → Except RegionFault Url
  | .object members =>
    match (Json.Value.member? members "url").bind Json.Value.text? with
    | none => .error (.noUrl content)
    | some raw => (Url.ofText raw).mapError (.badUrl raw)
  | _ => .error (.notObject content)

/-- The address that a line gives. -/
def addressOfLine (line : String) : Except RegionFault Url :=
  let content := commentText line
  match afterFirstWord? content with
  | none => .error (.noPayload content)
  | some payload =>
    match Json.Value.ofText payload with
    | .error f => .error (.badPayload content payload f)
    | .ok v => addressOfPayload content v

namespace RegionKind

/-- Whether a line opens a region. -/
def opens (kind : RegionKind) (line : String) : Bool := contains line kind.beginWord

/-- Whether a line closes a region, if it does not open one. -/
def closes (kind : RegionKind) (line : String) : Bool := contains line kind.endWord

/-- The addresses of the regions of a page, in page order. -/
def addresses (kind : RegionKind) (text : String) : Except RegionFault (List Url) :=
  ((lines text).filter kind.opens).mapM addressOfLine

end RegionKind

end PagePrep
