import PagePrep.Url.Basic

/-!
# Walking a path

A path is written as steps between slashes. A step of one dot stays in place and a step of two
dots goes back, also where a dot is percent encoded.
-/

set_option autoImplicit false

namespace PagePrep.Url

/-- Whether the character parts two steps; a backslash does so in the special schemes. -/
def isSlash (special : Bool) (c : Char) : Bool := c == '/' || (special && c == '\\')

/-- Pieces between slashes. -/
def splitSlashes (special : Bool) : List Char → List (List Char)
  | [] => [[]]
  | c :: cs =>
    if isSlash special c then [] :: splitSlashes special cs
    else
      match splitSlashes special cs with
      | [] => [[c]]
      | p :: ps => (c :: p) :: ps

/-- A letter of the ASCII alphabet. -/
def isLetter (c : Char) : Bool := ('a' ≤ c && c ≤ 'z') || ('A' ≤ c && c ≤ 'Z')

/-- A drive: a letter, and a colon or a bar. -/
def isDrive (step : List Char) : Bool :=
  match step with
  | [a, b] => isLetter a && (b == ':' || b == '|')
  | _ => false

/-- A step that stays in place. -/
def isDot (step : List Char) : Bool := [".", "%2e", "%2E"].contains (String.ofList step)

/-- A step that goes back. -/
def isDoubleDot (step : List Char) : Bool :=
  ["..", ".%2e", ".%2E", "%2e.", "%2E.", "%2e%2e", "%2e%2E", "%2E%2e", "%2E%2E"].contains
    (String.ofList step)

/-- The steps without the last one. A drive stays, and so does the root. -/
def goBack (steps : List String) : List String :=
  if steps.getLast?.any fun s => isDrive s.toList then steps else steps.dropLast

/-- A path under way. -/
structure Walk where
  steps : List String
  /-- Whether a drive was found at the root of a file's path. -/
  atDrive : Bool
  deriving DecidableEq, Repr

/-- One more step; `last` says that no slash follows it. -/
def Walk.step (file : Bool) (w : Walk) (step : List Char) (last : Bool) : Walk :=
  let written := percentEncode pathSet step
  if isDoubleDot written then
    { w with steps := goBack w.steps ++ if last then [""] else [] }
  else if isDot written then { w with steps := w.steps ++ if last then [""] else [] }
  else
    match file && w.steps.isEmpty && isDrive written, written with
    | true, a :: _ => { steps := w.steps ++ [String.ofList [a, ':']], atDrive := true }
    | _, _ => { w with steps := w.steps ++ [String.ofList written] }

/-- Some more steps. -/
def Walk.go (file : Bool) (w : Walk) : List (List Char) → Walk
  | [] => w
  | s :: ss => Walk.go file (w.step file s ss.isEmpty) ss

/-- Steps without empty ones at the start. -/
def dropEmptySteps (steps : List String) : List String :=
  match steps.dropWhile fun s => s.isEmpty with
  | [] => [""]
  | s :: ss => s :: ss

/-- The characters up to a question mark or a number sign, and the rest. -/
def splitPath (cs : List Char) : List Char × List Char :=
  (cs.takeWhile fun c => c ≠ '?' && c ≠ '#', cs.dropWhile fun c => c ≠ '?' && c ≠ '#')

/-- The steps of a path behind its first slash, further on from `start`. -/
def walkFrom (scheme : String) (start : List String) (cs : List Char) : Walk :=
  let w := Walk.go (scheme == "file") ⟨start, false⟩ (splitSlashes (isSpecial scheme) cs)
  if scheme == "file" then { w with steps := dropEmptySteps w.steps } else w

end PagePrep.Url
