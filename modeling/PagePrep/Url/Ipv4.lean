import PagePrep.Text.Hex
import PagePrep.Text.Search

/-!
# IPv4 addresses

A host whose last label is a number is an address. Its parts may be decimal, octal or hexadecimal,
and the last part fills the bytes that are left.
-/

set_option autoImplicit false

namespace PagePrep.Url

open Text

namespace Ipv4

/-- The value of some digits to a base. -/
def digits? (base : Nat) (cs : List Char) : Option Nat :=
  cs.foldlM (fun n c =>
    match hexValue? c with
    | some v => if v < base then some (n * base + v) else none
    | none => none) 0

/-- The number that a part writes; nothing at all behind a sign of the base is zero. -/
def number? : List Char → Option Nat
  | [] => none
  | '0' :: 'x' :: cs => digits? 16 cs
  | '0' :: 'X' :: cs => digits? 16 cs
  | '0' :: c :: cs => digits? 8 (c :: cs)
  | cs => digits? 10 cs

/-- Parts without an empty one at the end, unless it stands alone. -/
def withoutLastEmpty (ps : List (List Char)) : List (List Char) :=
  match ps.reverse with
  | [] :: p :: more => (p :: more).reverse
  | _ => ps

def isDecimal (cs : List Char) : Bool := !cs.isEmpty && cs.all fun c => '0' ≤ c && c ≤ '9'

/-- Whether a host ends in a number, so that it has to be an address. -/
def endsInNumber (host : List Char) : Bool :=
  match (withoutLastEmpty (splitAt '.' host)).getLast? with
  | some p => isDecimal p || (number? p).isSome
  | none => false

/-- The address of some numbers, the last of which fills the bytes that are left. -/
def ofNumbers? (ns : List Nat) : Option Nat :=
  let front := ns.dropLast
  let last := ns.getLastD 0
  if 4 < ns.length || front.any (255 < ·) || Nat.pow 256 (4 - front.length) ≤ last then none
  else some (front.foldl (fun n b => n * 256 + b) 0 * Nat.pow 256 (4 - front.length) + last)

/-- The address that a host writes. -/
def ofHost? (host : List Char) : Option Nat :=
  ((withoutLastEmpty (splitAt '.' host)).mapM number?).bind ofNumbers?

/-- The four bytes of an address between dots. -/
def text (n : Nat) : String :=
  ".".intercalate ([n / 0x1000000, n / 0x10000 % 256, n / 256 % 256, n % 256].map toString)

end Ipv4

end PagePrep.Url
