import PagePrep.Site.Status
import PagePrep.Url.Basic

/-!
# Faults of a fetch

Why the content at an address could not be had.
-/

set_option autoImplicit false

namespace PagePrep

/-- How many bytes a response may have. -/
def lengthLimit : Nat := 10485760

/-- Why the content at an address could not be had. -/
inductive FetchFault where
  /-- There is no way to ask for an address of this kind. -/
  | badScheme (url : Url)
  /-- Nobody answers there. -/
  | unreachable (url : Url)
  /-- One redirect too many; `url` gave the last one. -/
  | tooManyRedirects (url : Url)
  /-- The answer is no success. -/
  | status (code : Nat)
  /-- The answer is said to be longer than allowed. -/
  | oversized (length : Nat)
  /-- The answer is shorter than it is said to be. -/
  | incomplete
  deriving DecidableEq, Repr

/-- The fault in words. -/
def FetchFault.message : FetchFault → String
  | badScheme url => "builder error for url (" ++ url.text ++ ")"
  | unreachable url => "error sending request for url (" ++ url.text ++ ")"
  | tooManyRedirects url => "error following redirect for url (" ++ url.text ++ ")"
  | status code => "HTTP " ++ Status.text code
  | oversized length =>
    "response too large (" ++ toString length ++ " bytes, max " ++ toString lengthLimit ++ ")"
  | incomplete => "failed to read body: error decoding response body"

end PagePrep
