import PagePrep.Text.Hex

/-!
# Percent encoding

Characters of a URL written as the bytes of their UTF-8 form, two hexadecimal digits each behind a
percent sign. Each part of a URL has its own set of characters that need it; controls and
characters beyond ASCII need it in every part.
-/

set_option autoImplicit false

namespace PagePrep.Url

open Text

/-- A byte behind a percent sign. -/
def percentByte (b : UInt8) : List Char := ['%', upperHex (b.toNat / 16), upperHex (b.toNat % 16)]

/-- Characters with those encoded that are controls, beyond ASCII or in `escaped`. -/
def percentEncode (escaped : List Char) (cs : List Char) : List Char :=
  cs.flatMap fun c =>
    if c.toNat < 0x20 || 0x7e < c.toNat || escaped.contains c then
      (String.utf8EncodeChar c).flatMap percentByte
    else [c]

/-- Encoded in a fragment. -/
def fragmentSet : List Char := [' ', '"', '<', '>', '\x60']

/-- Encoded in a path. -/
def pathSet : List Char := fragmentSet ++ ['#', '?', '\x7b', '\x7d']

/-- Encoded in a user name and in a password. -/
def userinfoSet : List Char := pathSet ++ ['/', ':', ';', '=', '@', '[', '\\', ']', '^', '|']

/-- Encoded in a query. -/
def querySet : List Char := [' ', '"', '#', '<', '>']

/-- Encoded in a query of a URL with one of the special schemes. -/
def specialQuerySet : List Char := querySet ++ ['\x27']

/-- The bytes of some characters, with each percent sign and two digits read as one byte. -/
def percentDecode : List Char → List UInt8
  | '%' :: a :: b :: cs =>
    match hexValue? a, hexValue? b with
    | some x, some y => UInt8.ofNat (x * 16 + y) :: percentDecode cs
    | _, _ => '%'.toUInt8 :: percentDecode (a :: b :: cs)
  | c :: cs => String.utf8EncodeChar c ++ percentDecode cs
  | [] => []
  termination_by cs => cs.length

end PagePrep.Url
