import PagePrep.Json.Fault
import PagePrep.Region.Basic
import PagePrep.Text.Quoted
import PagePrep.Url.Basic

/-!
# Faults of regions

Why the regions of a page cannot be filled: a line that opens one names no address, the lines that
open and close them do not match, or nothing was fetched for an address.
-/

set_option autoImplicit false

namespace PagePrep

/-- Why the regions of a page cannot be filled. Line numbers count from one. -/
inductive RegionFault where
  /-- Nothing follows the begin word. -/
  | noPayload (content : String)
  /-- What follows the begin word is no JSON. -/
  | badPayload (content payload : String) (fault : Json.Fault)
  /-- What follows the begin word is a JSON value, but no object. -/
  | notObject (content : String)
  /-- The object names no address. -/
  | noUrl (content : String)
  /-- The address is not a URL. -/
  | badUrl (raw : String) (fault : UrlFault)
  /-- A region opens inside the one opened on line `earlier`. -/
  | nested (kind : RegionKind) (line earlier : Nat)
  /-- A region is closed that was not open. -/
  | strayEnd (kind : RegionKind) (line : Nat)
  /-- The page ends inside a region. -/
  | unclosed (kind : RegionKind) (line : Nat)
  /-- There is no content for an address. -/
  | notFetched (kind : RegionKind) (url : Url)
  deriving DecidableEq, Repr

/-- The fault in words. -/
def RegionFault.message : RegionFault → String
  | noPayload content => "directive has no payload: " ++ Text.quoted content
  | badPayload content payload fault =>
    "invalid JSON payload in " ++ Text.quoted content ++ ": " ++ fault.message payload
  | notObject content => "payload is not a JSON object: " ++ Text.quoted content
  | noUrl content => "payload has no \"url\": " ++ Text.quoted content
  | badUrl raw fault => "invalid url " ++ Text.quoted raw ++ ": " ++ fault.message
  | nested kind line earlier =>
    kind.beginWord ++ " on line " ++ toString line ++ " opened before the one on line " ++
      toString earlier ++ " was closed"
  | strayEnd kind line =>
    kind.endWord ++ " on line " ++ toString line ++ " has no matching " ++ kind.beginWord
  | unclosed kind line =>
    kind.beginWord ++ " on line " ++ toString line ++ " is never closed by " ++ kind.endWord
  | notFetched kind url => "no " ++ kind.contentNoun ++ " fetched for " ++ url.text

end PagePrep
