import PagePrep.Config.Fault
import PagePrep.Files.Fault
import PagePrep.Json.Fault
import PagePrep.Region.Fault
import PagePrep.Site.Fault

/-!
# Failures

Everything that ends a run early, with the words it is reported in.
-/

set_option autoImplicit false

namespace PagePrep

/-- What ends a run early. -/
inductive Failure where
  | config (fault : ConfigFault)
  /-- The content at an address could not be had. -/
  | fetch (url : Url) (fault : FetchFault)
  /-- The regions of a page cannot be filled. -/
  | region (fault : RegionFault)
  /-- A text, fetched from `url` if it was fetched, is no notebook. -/
  | notebook (url : Option Url) (text : String) (fault : Json.Fault)
  /-- A file or folder cannot be used. -/
  | file (path : String) (fault : FileFault)
  deriving DecidableEq, Repr

/-- What a failure is about. -/
inductive Topic where
  | config
  | network
  | directive
  | parse
  | access
  | validation
  deriving DecidableEq, Repr

namespace Failure

/-- What the failure is about. -/
def topic : Failure → Topic
  | config _ => .config
  | fetch _ (.oversized _) => .validation
  | fetch _ _ => .network
  | region _ => .directive
  | notebook _ _ _ => .parse
  | file _ _ => .access

/-- The failure without its topic, in words. -/
def detail : Failure → String
  | config f => f.message
  | fetch url f => url.text ++ ": " ++ f.message
  | region f => f.message
  | notebook url text f =>
    (match url with
      | some u => u.text ++ ": "
      | none => "") ++ "invalid notebook JSON: " ++ f.message text
  | file path f => Text.quotedPath path ++ ": " ++ f.message

end Failure

/-- What is put before a failure of this topic. -/
def Topic.opening : Topic → String
  | config => "config error: "
  | network => "network error: "
  | directive => "directive error: "
  | parse => "parse error: "
  | access => "I/O error at "
  | validation => "validation error: "

/-- The failure in words. -/
def Failure.message (f : Failure) : String := f.topic.opening ++ f.detail

end PagePrep
