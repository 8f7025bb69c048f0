import PagePrep.Text.Normal
import PagePrep.Url.Domain.ClassTable
import PagePrep.Url.Domain.MappingTable

/-!
# Labels of a domain name

The mapping of a name to the form in which it is compared, and the conditions on the characters of
a label: how they join, and how they run when some of them run from right to left.
-/

set_option autoImplicit false

namespace PagePrep.Url.Domain

open Text

/-! ## Mapping -/

/-- What a character is replaced by, or nothing if no name may hold it. -/
def mapChar? (c : Char) : Option (List Char) :=
  if ignored.has c then some []
  else if disallowed.has c then none
  else
    match replacements.upTo? c.toNat with
    | some (first :: last :: gap :: n :: more) =>
      if c.toNat ≤ last ∧ (c.toNat - first) % gap = 0 then
        if more.isEmpty then some [Char.ofNat (n + (c.toNat - first))]
        else some ((n :: more).map Char.ofNat)
      else some [c]
    | _ => some [c]

/-- The mapped and composed form of a name. -/
def map? (cs : List Char) : Option (List Char) :=
  (cs.mapM mapChar?).map fun parts => composed parts.flatten

/-! ## Joining -/

/-- The combining class of the signs that suppress a vowel. -/
def viramaClass : Nat := 9

/-- Whether the next character that is not transparent joins on a side; `own` is the type of the
characters that join on that side alone. -/
def joins (own : Nat) : List Char → Bool
  | [] => false
  | c :: cs =>
    let t := joinings.get c
    if t = 4 then joins own cs else t = 1 || t = own

/-- Whether every joiner of a label stands where it has an effect; `before` is what stands before
the rest, in reverse. -/
def joinersFit (before : List Char) : List Char → Bool
  | [] => true
  | c :: cs =>
    let behindVirama := match before with
      | b :: _ => combiningClasses.get b = viramaClass
      | [] => false
    let fits :=
      if c.toNat = 0x200c then behindVirama || (joins 2 before && joins 3 cs)
      else if c.toNat = 0x200d then behindVirama
      else true
    fits && joinersFit (c :: before) cs

/-! ## Direction -/

/-- The direction classes. -/
inductive Direction where
  | left
  | right
  | arabicLetter
  | arabicNumber
  | europeanNumber
  | separator
  | commonSeparator
  | terminator
  | neutral
  | boundary
  | mark
  | other
  deriving DecidableEq, Repr

/-- A character's direction class. -/
def direction (c : Char) : Direction :=
  match directions.get c with
  | 0 => .left
  | 1 => .right
  | 2 => .arabicLetter
  | 3 => .arabicNumber
  | 4 => .europeanNumber
  | 5 => .separator
  | 6 => .commonSeparator
  | 7 => .terminator
  | 8 => .neutral
  | 9 => .boundary
  | 10 => .mark
  | _ => .other

/-- Whether the characters ask for the order of their labels to be checked. -/
def runsRight (cs : List Char) : Bool :=
  cs.any fun c => [.right, .arabicLetter, .arabicNumber].contains (direction c)

/-- The classes allowed in every label. -/
def shared : List Direction :=
  [.europeanNumber, .separator, .commonSeparator, .terminator, .neutral, .boundary, .mark]

/-- The last class that is no mark. -/
def lastStrong (ds : List Direction) : Option Direction :=
  (ds.reverse.dropWhile (· == .mark)).head?

/-- A label that starts from the left: nothing in it runs from the right, and it ends in a letter
or a number. -/
def leftLabel (ds : List Direction) : Bool :=
  ds.all (fun d => d == .left || shared.contains d) &&
    (lastStrong ds).any fun d => d == .left || d == .europeanNumber

/-- A label that starts from the right: nothing in it runs from the left, it ends in a letter or a
number, and its numbers are of one kind. -/
def rightLabel (ds : List Direction) : Bool :=
  ds.all (fun d => [.right, .arabicLetter, .arabicNumber].contains d || shared.contains d) &&
    ((lastStrong ds).any fun d =>
      [.right, .arabicLetter, .europeanNumber, .arabicNumber].contains d) &&
    !(ds.contains .europeanNumber && ds.contains .arabicNumber)

/-- Whether a label of a name that runs from the right anywhere is in order. -/
def ordered (label : List Char) : Bool :=
  let ds := label.map direction
  match ds with
  | [] => true
  | .left :: _ => leftLabel ds
  | .right :: _ => rightLabel ds
  | .arabicLetter :: _ => rightLabel ds
  | _ => false

/-! ## Whole labels -/

/-- Whether a label with characters beyond ASCII is well formed. -/
def wellFormed (label : List Char) : Bool :=
  (match label with
    | c :: _ => !marks.has c
    | [] => true) && joinersFit [] label

end PagePrep.Url.Domain
