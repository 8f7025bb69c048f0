import PagePrep.Site.Fault
import PagePrep.Text.Lossy
import PagePrep.Url.Parse

/-!
# Fetching content

A site answers requests for addresses. A fetch follows the redirects it is given, but only so many,
and takes the body of the last answer if that is a success, not too long and complete.
-/

set_option autoImplicit false

namespace PagePrep

/-- An answer to a request. -/
structure Response where
  status : Nat
  body : ByteArray
  /-- Where to look instead. -/
  location : Option String
  /-- How many bytes the body is said to have. -/
  declared : Nat

namespace Response

/-- The answer where there is nothing. -/
def missing : Response := ⟨404, .empty, none, 0⟩

/-- Where the answer to a request for `url` sends the reader, if elsewhere. -/
def redirect? (r : Response) (url : Url) : Option Url :=
  if Status.isRedirect r.status then r.location.bind fun l => (url.join l).toOption else none

/-- The text that the answer brings. -/
def text (r : Response) : Except FetchFault String :=
  if !Status.isSuccess r.status then .error (.status r.status)
  else if lengthLimit < r.declared then .error (.oversized r.declared)
  else if r.body.size < r.declared then .error .incomplete
  else .ok (Text.lossy r.body)

end Response

/-- Answers by address. -/
structure Site where
  responses : List (String × Response)

/-- The answer to a request. -/
def Site.answer (site : Site) (request : String) : Response :=
  match site.responses.find? fun e => e.1 == request with
  | some e => e.2
  | none => .missing

/-- What a fetch did and what it brought. -/
structure Fetch (α : Type) where
  /-- The addresses asked for, in order. -/
  requests : List String
  result : Except FetchFault α

/-- How many redirects a fetch follows. -/
def redirectLimit : Nat := 5

/-- Fetching `url` from a site, over at most `hops` redirects. Only plain requests are answered. -/
def Site.follow (site : Site) (hops : Nat) (url : Url) : Fetch String :=
  if url.scheme = "http" then
    let request := url.withoutFragment.text
    let response := site.answer request
    match response.redirect? url with
    | none => ⟨[request], response.text⟩
    | some next =>
      match hops with
      | 0 => ⟨[request], .error (.tooManyRedirects url)⟩
      | hops + 1 =>
        let rest := site.follow hops next
        ⟨request :: rest.requests, rest.result⟩
  else if url.scheme = "https" then ⟨[], .error (.unreachable url)⟩
  else ⟨[], .error (.badScheme url)⟩

/-- What can be reached. -/
inductive Network where
  /-- Nothing. -/
  | down
  | up (site : Site)

/-- Fetching `url`. -/
def Network.fetch (network : Network) (url : Url) : Fetch String :=
  match network with
  | up site => site.follow redirectLimit url
  | down =>
    if url.scheme = "http" || url.scheme = "https" then ⟨[], .error (.unreachable url)⟩
    else ⟨[], .error (.badScheme url)⟩

end PagePrep
