import PagePrep.Text.Search
import PagePrep.Url.Domain.Label
import PagePrep.Url.Punycode

/-!
# Domain names in ASCII

The form of a domain name that is looked up. A label with characters beyond ASCII is mapped,
checked and written in Punycode behind a prefix; a label that comes with the prefix is decoded and
has to meet the same conditions.
-/

set_option autoImplicit false

namespace PagePrep.Url.Domain

/-- ASCII characters that no name may hold. -/
def forbidden (c : Char) : Bool :=
  c.toNat ≤ 0x20 || c.toNat = 0x7f ||
    ['%', '#', '/', ':', '<', '>', '?', '@', '[', '\\', ']', '^', '|'].contains c

def isAscii (c : Char) : Bool := c.toNat < 0x80

/-- The beginning of an encoded label. -/
def encodedStart : List Char := ['x', 'n', '-', '-']

/-- The most characters of a label that is encoded, and of the digits of one that is decoded. -/
def encodeLimit : Nat := 1000
def decodeLimit : Nat := 2000

/-- The characters that a mapped label stands for. -/
def unicodeLabel? (label : List Char) : Option (List Char) :=
  if encodedStart.isPrefixOf label then
    if label.length - 4 ≤ decodeLimit then
      match Punycode.decode? (label.drop 4) with
      | some cs => if !cs.all isAscii && map? cs == some cs then some cs else none
      | none => none
    else none
  else some label

/-- The ASCII form of a label. -/
def asciiLabel? (label : List Char) : Option (List Char) :=
  if label.all isAscii then some label
  else if label.length ≤ encodeLimit then some (encodedStart ++ Punycode.encode label)
  else none

/-- The labels of a mapped name, decoded and checked. -/
def checked? (name : List Char) : Option (List (List Char)) := do
  if name.any forbidden then none
  let ls ← (Text.splitAt '.' name).mapM unicodeLabel?
  if ls.any fun l => !l.all isAscii && !wellFormed l then none
  if ls.any runsRight && !ls.all ordered then none
  return ls

/-- The ASCII form of a name, or nothing if it has none. -/
def toAscii? (name : List Char) : Option (List Char) := do
  let mapped ← map? name
  let ls ← (← checked? mapped).mapM asciiLabel?
  return ['.'].intercalate ls

end PagePrep.Url.Domain
