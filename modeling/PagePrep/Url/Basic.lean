import PagePrep.Url.Host

/-!
# URLs

The parts of a URL, each in the form in which it is written.
-/

set_option autoImplicit false

namespace PagePrep

namespace Url

/-- Whom a URL asks, and as whom. -/
structure Authority where
  username : String
  password : String
  host : Host
  /-- The port, unless it is the usual one of the scheme. -/
  port : Option Nat
  deriving DecidableEq, Repr

/-- What a URL asks for. -/
inductive Path where
  /-- A text without structure. -/
  | plain (s : String)
  /-- Steps from the root; no step at all is the empty path. -/
  | steps (ss : List String)
  deriving DecidableEq, Repr

end Url

/-- A URL. -/
structure Url where
  scheme : String
  authority : Option Url.Authority
  path : Url.Path
  query : Option String
  fragment : Option String
  deriving DecidableEq, Repr

namespace Url

/-- The path as a URL writes it. -/
def Path.text : Path → String
  | plain s => s
  | steps ss => String.join (ss.map fun s => "/" ++ s)

/-- User name and password before the host. -/
def Authority.userText (a : Authority) : String :=
  if a.username.isEmpty && a.password.isEmpty then ""
  else a.username ++ (if a.password.isEmpty then "" else ":" ++ a.password) ++ "@"

/-- The authority as a URL writes it. -/
def Authority.text (a : Authority) : String :=
  a.userText ++ a.host.text ++
    (match a.port with
      | some p => ":" ++ toString p
      | none => "")

/-- What stands between the scheme and the path. A path that starts with an empty step would read
as an authority, so a dot is put before it. -/
def beforePath (u : Url) : String :=
  match u.authority, u.path with
  | some a, _ => "//" ++ a.text
  | none, .steps ("" :: _ :: _) => "/."
  | none, _ => ""

/-- An optional part behind its sign. -/
def partText (sign : String) : Option String → String
  | some s => sign ++ s
  | none => ""

/-- The URL in writing. -/
def text (u : Url) : String :=
  u.scheme ++ ":" ++ u.beforePath ++ u.path.text ++ partText "?" u.query ++
    partText "#" u.fragment

/-- The URL without its fragment. -/
def withoutFragment (u : Url) : Url := { u with fragment := none }

/-- The schemes whose URLs name a domain and a path, with their usual ports. -/
def usualPorts : List (String × Option Nat) :=
  [("http", some 80), ("https", some 443), ("ws", some 80), ("wss", some 443),
    ("ftp", some 21), ("file", none)]

/-- Whether the scheme is one of these. -/
def isSpecial (scheme : String) : Bool := usualPorts.any fun p => p.1 == scheme

/-- The port that need not be written. -/
def usualPort? (scheme : String) : Option Nat :=
  (usualPorts.find? fun p => p.1 == scheme).bind Prod.snd

end Url

end PagePrep
