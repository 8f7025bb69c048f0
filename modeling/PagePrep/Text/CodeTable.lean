import PagePrep.Text.Hex

/-!
# Tables of code points

Properties of characters, written as hexadecimal numbers: a set by its points of change, a map by
the points from which a value holds, and rows that belong to single points or ranges. All are in
ascending order and are searched by halving.
-/

set_option autoImplicit false

namespace PagePrep.Text

/-- The numbers written in some characters; any other character stands between two numbers. `held`
is the number under way, `found` holds the numbers before it. -/
def numbersFrom (found : Array Nat) (held : Option Nat) : List Char → Array Nat
  | [] => found ++ held.toArray
  | c :: cs =>
    match hexValue? c with
    | some v => numbersFrom found (some (held.getD 0 * 16 + v)) cs
    | none => numbersFrom (found ++ held.toArray) none cs

/-- The numbers written in a text. -/
def numbers (s : String) : Array Nat := numbersFrom #[] none s.toList

/-- How many of the ascending `points` with an index from `low` up to `high` are at most `n`, added
to `low`. -/
def countUpTo (points : Array Nat) (n low high : Nat) : Nat :=
  if h : low < high then
    let mid := (low + high) / 2
    if points.getD mid 0 ≤ n then countUpTo points n (mid + 1) high
    else countUpTo points n low mid
  else low
  termination_by high - low
  decreasing_by all_goals omega

/-- The index of the last of the ascending `points` that is at most `n`. -/
def lastUpTo? (points : Array Nat) (n : Nat) : Option Nat :=
  match countUpTo points n 0 points.size with
  | 0 => none
  | k + 1 => some k

/-- A set of code points: the first number is the least member, the next the least point after it
that is no member, and so on. -/
structure CodeSet where
  changes : Array Nat

namespace CodeSet

/-- The set whose points of change a text lists. -/
def ofText (s : String) : CodeSet := ⟨numbers s⟩

/-- Whether the character is a member. -/
def has (s : CodeSet) (c : Char) : Bool :=
  countUpTo s.changes c.toNat 0 s.changes.size % 2 == 1

end CodeSet

/-- A number for every code point: the value that holds from the last start on. -/
structure CodeMap where
  starts : Array Nat
  values : Array Nat

namespace CodeMap

/-- The map whose starts and values a text lists in turn. -/
def ofText (s : String) : CodeMap :=
  let ns := numbers s
  ⟨(Array.range (ns.size / 2)).map fun i => ns.getD (2 * i) 0,
    (Array.range (ns.size / 2)).map fun i => ns.getD (2 * i + 1) 0⟩

/-- The value of a character. -/
def get (m : CodeMap) (c : Char) : Nat :=
  match lastUpTo? m.starts c.toNat with
  | some i => m.values.getD i 0
  | none => 0

end CodeMap

/-- Rows of numbers, found by their first number. -/
structure CodeRows where
  keys : Array Nat
  rows : Array (List Nat)

namespace CodeRows

/-- Characters cut at each semicolon; `held` is the piece under way, in reverse. -/
def cutFrom (found : Array String) (held : List Char) : List Char → Array String
  | [] => found.push (String.ofList held.reverse)
  | c :: cs =>
    if c = ';' then cutFrom (found.push (String.ofList held.reverse)) [] cs
    else cutFrom found (c :: held) cs

/-- The rows that a text lists between semicolons. -/
def ofText (s : String) : CodeRows :=
  let rows := (cutFrom #[] [] s.toList).map fun r => (numbers r).toList
  ⟨rows.map fun r => r.headD 0, rows⟩

/-- The last row whose first number is at most `n`. -/
def upTo? (t : CodeRows) (n : Nat) : Option (List Nat) :=
  match lastUpTo? t.keys n with
  | some i => t.rows[i]?
  | none => none

/-- What follows `n` in the row that starts with it. -/
def at? (t : CodeRows) (n : Nat) : Option (List Nat) :=
  match t.upTo? n with
  | some (k :: values) => if k = n then some values else none
  | _ => none

end CodeRows

end PagePrep.Text
