import PagePrep.Url.Walk

/-!
# URLs from text

A text is read from left to right: scheme, authority, path, query and fragment. Most mistakes are
mended on the way; a text is refused only where no host or port can be made of it.
-/

set_option autoImplicit false

namespace PagePrep.Url

/-! ## Query and fragment -/

/-- The query of a URL, whose question mark is taken. -/
def queryText (scheme : String) (cs : List Char) : String :=
  String.ofList (percentEncode (if isSpecial scheme then specialQuerySet else querySet) cs)

/-- The fragment of a URL, whose number sign is taken. -/
def fragmentText (cs : List Char) : String := String.ofList (percentEncode fragmentSet cs)

/-- Query and fragment at the end of a URL. -/
def parseTail (scheme : String) (cs : List Char) : Option String × Option String :=
  match cs with
  | '#' :: rest => (none, some (fragmentText rest))
  | '?' :: rest =>
    let query := rest.takeWhile (· ≠ '#')
    match rest.dropWhile (· ≠ '#') with
    | _ :: frag => (some (queryText scheme query), some (fragmentText frag))
    | [] => (some (queryText scheme query), none)
  | _ => (none, none)

/-- The URL of its parts, with query and fragment still to read. -/
def withTail (scheme : String) (authority : Option Authority) (path : Path) (cs : List Char) :
    Url :=
  let (query, frag) := parseTail scheme cs
  ⟨scheme, authority, path, query, frag⟩

/-! ## Authority -/

/-- The characters of an authority and what follows them. -/
def splitAuthority (scheme : String) (cs : List Char) : List Char × List Char :=
  let ends (c : Char) : Bool := isSlash (isSpecial scheme) c || c == '?' || c == '#'
  (cs.takeWhile fun c => !ends c, cs.dropWhile fun c => !ends c)

/-- The characters before the last at sign, if there is one, and the rest. -/
def splitUser (cs : List Char) : Option (List Char) × List Char :=
  match cs.reverse.dropWhile (· ≠ '@') with
  | [] => (none, cs)
  | _ :: user => (some user.reverse, (cs.reverse.takeWhile (· ≠ '@')).reverse)

/-- The characters of a host up to a colon outside brackets, and the rest. -/
def splitHost (inBrackets : Bool) : List Char → List Char × List Char
  | [] => ([], [])
  | c :: cs =>
    if c == ':' && !inBrackets then ([], c :: cs)
    else
      let (host, rest) := splitHost (if c == '[' then true else c != ']' && inBrackets) cs
      (c :: host, rest)

/-- User name and password around the first colon. -/
def userParts (cs : List Char) : String × String :=
  (String.ofList (percentEncode userinfoSet (cs.takeWhile (· ≠ ':'))),
    String.ofList (percentEncode userinfoSet ((cs.dropWhile (· ≠ ':')).drop 1)))

/-- The value of a port's digits, if it is small enough. -/
def portValue? (n : Nat) : List Char → Option Nat
  | [] => some n
  | c :: cs =>
    let m := n * 10 + (c.toNat - '0'.toNat)
    if m ≤ 65535 then portValue? m cs else none

/-- The port behind a colon, unless it is the usual one, and what follows it. -/
def parsePort (scheme : String) (cs : List Char) : Except UrlFault (Option Nat × List Char) :=
  let digits := cs.takeWhile fun c => '0' ≤ c && c ≤ '9'
  let rest := cs.dropWhile fun c => '0' ≤ c && c ≤ '9'
  let ends := match rest with
    | [] => true
    | c :: _ => c == '/' || c == '\\' || c == '?' || c == '#'
  match portValue? 0 digits with
  | none => .error .invalidPort
  | some n =>
    if !ends then .error .invalidPort
    else if digits.isEmpty || some n = usualPort? scheme then .ok (none, rest)
    else .ok (some n, rest)

/-- The host of a scheme other than that of files. -/
def parseHost (scheme : String) (cs : List Char) : Except UrlFault Host :=
  if isSpecial scheme then
    if cs.isEmpty then .error .emptyHost else Host.ofDomain cs
  else Host.ofOpaque cs

/-- The authority behind two slashes, and what follows it. -/
def parseAuthority (scheme : String) (cs : List Char) :
    Except UrlFault (Authority × List Char) := do
  let (inside, rest) := splitAuthority scheme cs
  let (user, hostPort) := splitUser inside
  if user == some [] && hostPort.isEmpty && !rest.isEmpty then .error .emptyHost
  let (hostText, portText) := splitHost false hostPort
  let host ← parseHost scheme hostText
  if host == .name "" && !portText.isEmpty then .error .emptyHost
  let (username, password) := userParts (user.getD [])
  if host == .name "" && !(username.isEmpty && password.isEmpty) then .error .emptyHost
  match portText with
  | _ :: digits =>
    let (port, rest) ← parsePort scheme (digits ++ rest)
    return (⟨username, password, host, port⟩, rest)
  | [] => return (⟨username, password, host, none⟩, rest)

/-! ## Path -/

/-- The path behind an authority, and what follows it. -/
def parsePath (scheme : String) (cs : List Char) : Path × List Char :=
  let (inside, rest) := splitPath cs
  match inside with
  | [] => (.steps (if isSpecial scheme then [""] else []), rest)
  | c :: more =>
    (.steps (walkFrom scheme [] (if isSlash (isSpecial scheme) c then more else c :: more)).steps,
      rest)

/-- The URL behind the two slashes of its authority. -/
def parseAfterSlashes (scheme : String) (cs : List Char) : Except UrlFault Url := do
  let (authority, rest) ← parseAuthority scheme cs
  let (path, rest) := parsePath scheme rest
  return withTail scheme (some authority) path rest

/-! ## Files -/

/-- The authority of a file at a host. -/
def fileAuthority (host : Host) : Authority := ⟨"", "", host, none⟩

/-- The URL of a file without a host, whose path comes next. -/
def localFile (cs : List Char) : Url :=
  let (inside, rest) := splitPath cs
  withTail "file" (some (fileAuthority (.name ""))) (.steps (walkFrom "file" [] inside).steps) rest

/-- The URL of a file behind two slashes. -/
def parseFileHost (cs : List Char) : Except UrlFault Url := do
  let (inside, rest) := splitAuthority "file" cs
  if isDrive inside then return localFile cs
  if inside.isEmpty then return localFile rest
  let host ← Host.ofDomain inside
  if host == .name "localhost" then return localFile rest
  let (path, rest) := splitPath rest
  let w := walkFrom "file" [] (path.drop 1)
  return withTail "file" (some (fileAuthority (if w.atDrive then .name "" else host)))
    (.steps w.steps) rest

/-- The URL of a file behind the colon of its scheme. -/
def parseFile (cs : List Char) : Except UrlFault Url :=
  match cs with
  | a :: b :: rest =>
    if isSlash true a then
      if isSlash true b then parseFileHost rest else .ok (localFile (b :: rest))
    else .ok (localFile (a :: b :: rest))
  | [a] => .ok (localFile (if isSlash true a then [] else [a]))
  | [] => .ok (localFile [])

/-! ## Whole URLs -/

/-- The URL of a scheme of another kind behind its colon. -/
def parseOther (scheme : String) (cs : List Char) : Except UrlFault Url :=
  match cs with
  | '/' :: '/' :: rest => parseAfterSlashes scheme rest
  | '/' :: rest =>
    let (inside, rest) := splitPath rest
    .ok (withTail scheme none (.steps (walkFrom scheme [] inside).steps) rest)
  | cs =>
    let (inside, rest) := splitPath cs
    .ok (withTail scheme none (.plain (String.ofList (percentEncode [] inside))) rest)

/-- Characters that belong to a URL: without controls and spaces around them, and without tabs and
line ends anywhere. -/
def clean (s : String) : List Char :=
  let cs := s.toList.dropWhile fun c => c.toNat ≤ 0x20
  let cs := (cs.reverse.dropWhile fun c => c.toNat ≤ 0x20).reverse
  cs.filter fun c => c != '\t' && c != '\n' && c != '\r'

def lower (c : Char) : Char := if 'A' ≤ c ∧ c ≤ 'Z' then Char.ofNat (c.toNat + 32) else c

/-- A character that a scheme may hold behind its first letter. -/
def isSchemeChar (c : Char) : Bool :=
  isLetter c || ('0' ≤ c && c ≤ '9') || c == '+' || c == '-' || c == '.'

/-- The scheme in lower case and what follows its colon. -/
def splitScheme? (cs : List Char) : Option (String × List Char) :=
  match cs.takeWhile isSchemeChar, cs.dropWhile isSchemeChar with
  | a :: as, ':' :: rest =>
    if isLetter a then some (String.ofList ((a :: as).map lower), rest) else none
  | _, _ => none

/-- The URL of a scheme behind its colon. -/
def parseScheme (scheme : String) (cs : List Char) : Except UrlFault Url :=
  if scheme == "file" then parseFile cs
  else if isSpecial scheme then parseAfterSlashes scheme (cs.dropWhile (isSlash true))
  else parseOther scheme cs

/-- The URL that a text writes. -/
def ofText (s : String) : Except UrlFault Url :=
  match splitScheme? (clean s) with
  | some (scheme, rest) => parseScheme scheme rest
  | none => .error .relativeWithoutBase

/-! ## Relative to another URL -/

/-- The steps of a path. -/
def Path.toSteps : Path → List String
  | plain _ => []
  | steps ss => ss

/-- The URL that a text without a scheme writes, relative to a URL of a special scheme. -/
def parseRelative (base : Url) (cs : List Char) : Except UrlFault Url :=
  match cs with
  | [] => .ok base.withoutFragment
  | '?' :: _ => .ok (withTail base.scheme base.authority base.path cs)
  | '#' :: rest => .ok { base with fragment := some (fragmentText rest) }
  | a :: rest =>
    if isSlash true a then
      match rest with
      | b :: more =>
        if isSlash true b then
          parseAfterSlashes base.scheme
            (if a == '/' && b == '/' then more else more.dropWhile (isSlash true))
        else relativePath [] rest
      | [] => relativePath [] rest
    else relativePath base.path.toSteps.dropLast cs
where
  /-- The path from `start` on, at the host of the base. -/
  relativePath (start : List String) (cs : List Char) : Except UrlFault Url :=
    let (inside, rest) := splitPath cs
    .ok (withTail base.scheme base.authority
      (.steps (walkFrom base.scheme start inside).steps) rest)

/-- The URL that a text writes relative to `base`, which is of a special scheme other than that of
files. -/
def join (base : Url) (s : String) : Except UrlFault Url :=
  match splitScheme? (clean s) with
  | none => parseRelative base (clean s)
  | some (scheme, rest) =>
    if scheme == base.scheme && (rest.takeWhile (isSlash true)).length < 2 then
      parseRelative base rest
    else parseScheme scheme rest

end PagePrep.Url
