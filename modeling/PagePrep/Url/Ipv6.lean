import PagePrep.Text.Hex
import PagePrep.Text.Search

/-!
# IPv6 addresses

Eight pieces of sixteen bits. One run of zero pieces may be left out between two colons, and the
last two pieces may be written as an IPv4 address.
-/

set_option autoImplicit false

namespace PagePrep.Url

open Text

namespace Ipv6

/-- An address under way. -/
structure Reading where
  /-- The pieces so far. -/
  pieces : List Nat
  /-- How many pieces stand before the run left out. -/
  gap : Option Nat
  deriving DecidableEq, Repr

/-- The next at most `n` hexadecimal digits as a number, and what follows them. -/
def hexPiece (value : Nat) : Nat → List Char → Nat × List Char
  | 0, cs => (value, cs)
  | _, [] => (value, [])
  | n + 1, c :: cs =>
    match hexValue? c with
    | some v => hexPiece (value * 16 + v) n cs
    | none => (value, c :: cs)

theorem length_hexPiece_le (value n : Nat) (cs : List Char) :
    (hexPiece value n cs).2.length ≤ cs.length := by
  induction n generalizing value cs with
  | zero => simp [hexPiece]
  | succ n ih =>
    cases cs with
    | nil => simp [hexPiece]
    | cons c cs =>
      unfold hexPiece
      split
      · exact Nat.le_succ_of_le (ih _ _)
      · simp

/-- A number before a decimal digit. -/
def addDigit? (n : Nat) (c : Char) : Option Nat :=
  if '0' ≤ c ∧ c ≤ '9' then some (n * 10 + (c.toNat - '0'.toNat)) else none

/-- A byte in decimal digits, without leading zeros. -/
def byte? (cs : List Char) : Option Nat :=
  if cs.isEmpty || (cs.head? == some '0' && cs.length ≠ 1) then none
  else
    match cs.foldlM addDigit? 0 with
    | some n => if n ≤ 255 then some n else none
    | none => none

/-- The last two pieces, written as four bytes. -/
def ipv4Pieces? (cs : List Char) : Option (List Nat) :=
  match (splitAt '.' cs).mapM byte? with
  | some [a, b, c, d] => some [a * 256 + b, c * 256 + d]
  | _ => none

/-- The pieces from here on. -/
def readPieces (r : Reading) (cs : List Char) : Option Reading :=
  match cs with
  | [] => some r
  | ':' :: rest =>
    if r.pieces.length = 8 || r.gap.isSome then none
    else readPieces ⟨r.pieces ++ [0], some (r.pieces.length + 1)⟩ rest
  | c :: rest =>
    if r.pieces.length = 8 then none
    else
      match _h : hexPiece 0 4 (c :: rest) with
      | (value, []) => some ⟨r.pieces ++ [value], r.gap⟩
      | (value, ':' :: next :: more) =>
        readPieces ⟨r.pieces ++ [value], r.gap⟩ (next :: more)
      | (_, '.' :: _) =>
        if 6 < r.pieces.length || (hexValue? c).isNone then none
        else (ipv4Pieces? (c :: rest)).map fun ps => ⟨r.pieces ++ ps, r.gap⟩
      | _ => none
  termination_by cs.length
  decreasing_by
    · simp
    · have := length_hexPiece_le 0 4 (c :: rest)
      rw [_h] at this
      simp only [List.length_cons] at this ⊢
      omega

/-- All eight pieces: the run left out is filled with zeros. A piece stands for the run itself. -/
def fill? (r : Reading) : Option (List Nat) :=
  match r.gap with
  | some g =>
    let behind := r.pieces.drop g
    some (r.pieces.take g ++ List.replicate (8 - r.pieces.length) 0 ++ behind)
  | none => if r.pieces.length = 8 then some r.pieces else none

/-- The pieces of an address. -/
def ofText? (cs : List Char) : Option (List Nat) :=
  match cs with
  | [] => none
  | [_] => none
  | ':' :: ':' :: rest => (readPieces ⟨[0], some 1⟩ rest).bind fill?
  | ':' :: _ => none
  | cs => (readPieces ⟨[], none⟩ cs).bind fill?

/-- The longest run of zeros from index `i` on, as its start and its length; the first of several
counts, if it is longer than `best`. -/
def longestRun (i : Nat) (best : Nat × Nat) : List Nat → Nat × Nat
  | [] => best
  | p :: ps =>
    let run := ((p :: ps).takeWhile (· == 0)).length
    longestRun (i + 1) (if best.2 < run then (i, run) else best) ps

/-- Pieces between colons. -/
def colons (ps : List Nat) : List Char :=
  [':'].intercalate (ps.map lowerHex)

/-- An address with its longest run of zeros left out, if that is longer than one piece. -/
def text (ps : List Nat) : String :=
  let (start, run) := longestRun 0 (0, 1) ps
  String.ofList (if run = 1 then colons ps
    else colons (ps.take start) ++ [':', ':'] ++ colons (ps.drop (start + run)))

end Ipv6

end PagePrep.Url
