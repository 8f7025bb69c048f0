import PagePrep.Text.Hex
import PagePrep.Text.Unprintable

/-!
# Quoted text

A text between double quotes, with escapes for the quote, the backslash and every character that
shows nothing by itself.
-/

set_option autoImplicit false

namespace PagePrep.Text

/-- The escape of a character by its number, in lower-case hexadecimal. -/
def numberEscape (c : Char) : List Char :=
  '\\' :: 'u' :: '\x7b' :: (lowerHex c.toNat ++ ['\x7d'])

/-- A character as a quoted text shows it. -/
def quoteChar (c : Char) : List Char :=
  match c with
  | '\x00' => ['\\', '0']
  | '\t' => ['\\', 't']
  | '\r' => ['\\', 'r']
  | '\n' => ['\\', 'n']
  | '\\' => ['\\', '\\']
  | '"' => ['\\', '"']
  | c => if unprintable.has c then numberEscape c else [c]

/-- The text between double quotes. -/
def quoted (s : String) : String :=
  String.ofList ('"' :: (s.toList.flatMap quoteChar ++ ['"']))

/-- The name of a file between double quotes; here the apostrophe has an escape too. -/
def quotedPath (s : String) : String :=
  String.ofList ('"' ::
    (s.toList.flatMap (fun c => if c = '\x27' then ['\\', '\x27'] else quoteChar c) ++ ['"']))

end PagePrep.Text
