import PagePrep.Text.Hex

/-!
# Writing TOML

A text is written in the plainest way that keeps it: in quotes on one line, as it is, or over
several lines. A list with more than one item takes a line for each.
-/

set_option autoImplicit false

namespace PagePrep.Toml

/-- What decides how a text is written. -/
structure Traits where
  /-- The longest run of single quotes. -/
  singles : Nat
  /-- The longest run of double quotes. -/
  doubles : Nat
  /-- There is a control character that has to be escaped. -/
  control : Bool
  /-- There is a backslash. -/
  backslash : Bool
  /-- There is a line end. -/
  newline : Bool
  deriving DecidableEq, Repr

/-- The length of the longest run of a character, of which `run` have just been seen. -/
def longestRun (c : Char) (run : Nat) : List Char → Nat
  | [] => run
  | d :: cs => if d = c then longestRun c (run + 1) cs else max run (longestRun c 0 cs)

/-- Whether a character is a control character that has to be escaped. -/
def needsEscape (c : Char) : Bool :=
  c != '\t' && c != '\n' && (c ≤ '\x1f' || c == '\x7f')

/-- What decides how some characters are written. -/
def Traits.ofChars (cs : List Char) : Traits :=
  { singles := longestRun '\'' 0 cs
    doubles := longestRun '"' 0 cs
    control := cs.any needsEscape
    backslash := cs.contains '\\'
    newline := cs.contains '\n' }

/-- A way to write a text. -/
inductive Quoting where
  | basic
  | literal
  | longBasic
  | longLiteral
  deriving DecidableEq, Repr

/-- The plainest way that keeps the text. -/
def Quoting.ofTraits (t : Traits) : Quoting :=
  let asIs := !t.control && !t.backslash
  if asIs && t.doubles = 0 && !t.newline then .basic
  else if !t.control && t.singles = 0 && !t.newline then .literal
  else if asIs && t.doubles ≤ 2 then .longBasic
  else if !t.control && t.singles ≤ 2 then .longLiteral
  else if t.newline then .longBasic
  else .basic

/-- The four digits of a character's code. -/
def codeDigits (c : Char) : List Char :=
  let ds := (Nat.toDigits 16 c.toNat).map Char.toUpper
  List.replicate (4 - ds.length) '0' ++ ds

/-- A character other than a double quote, as a text with escapes has it. -/
def escapeChar (long : Bool) (c : Char) : List Char :=
  match c with
  | '\x08' => ['\\', 'b']
  | '\t' => ['\\', 't']
  | '\n' => if long then ['\n'] else ['\\', 'n']
  | '\x0c' => ['\\', 'f']
  | '\r' => ['\\', 'r']
  | '\\' => ['\\', '\\']
  | c => if needsEscape c then '\\' :: 'u' :: codeDigits c else [c]

/-- Characters as a text with escapes has them, behind `run` double quotes that are not escaped.
Every third double quote in a row is escaped over several lines, and every one on one line. -/
def escapeChars (long : Bool) (run : Nat) : List Char → List Char
  | [] => []
  | c :: cs =>
    if c = '"' then
      if long && run < 2 then '"' :: escapeChars long (run + 1) cs
      else '\\' :: '"' :: escapeChars long 0 cs
    else escapeChar long c ++ escapeChars long 0 cs

/-- A text as a document has it. -/
def quotedChars (cs : List Char) : List Char :=
  let t := Traits.ofChars cs
  let start : List Char := if t.newline then ['\n'] else []
  match Quoting.ofTraits t with
  | .basic => '"' :: escapeChars false 0 cs ++ ['"']
  | .literal => '\'' :: cs ++ ['\'']
  | .longBasic => ['"', '"', '"'] ++ start ++ escapeChars true 0 cs ++ ['"', '"', '"']
  | .longLiteral => ['\'', '\'', '\''] ++ start ++ cs ++ ['\'', '\'', '\'']

/-- A text as a document has it. -/
def quoted (s : String) : String := String.ofList (quotedChars s.toList)

/-- A list of texts as a document has it. -/
def quotedList : List String → String
  | [] => "[]"
  | [s] => "[" ++ quoted s ++ "]"
  | ss => "[\n" ++ String.join (ss.map fun s => "    " ++ quoted s ++ ",\n") ++ "]"

/-- A setting on lines of its own. -/
def settingLine (key value : String) : String := key ++ " = " ++ value ++ "\n"

end PagePrep.Toml
