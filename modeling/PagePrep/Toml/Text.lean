import PagePrep.Text.Hex

/-!
# Quoted texts in TOML

A quoted text stands on one line or over several, and either knows escapes or takes every character
as it is. In a text over several lines, a line ends in a newline however it is written.
-/

set_option autoImplicit false

namespace PagePrep.Toml

/-- What is read, and the characters behind it. -/
abbrev Reading (α : Type) := Option (α × List Char)

/-- Whether a character is white space within a line. -/
def isWhite (c : Char) : Bool := c == ' ' || c == '\t'

/-- The characters behind the white space. -/
def skipWhite (cs : List Char) : List Char := cs.dropWhile isWhite

/-- Whether a character may stand in a text: no control character but the tab. -/
def isTextChar (c : Char) : Bool := c == '\t' || (' ' ≤ c && c != '\x7f')

/-- The character with the code that some digits give. -/
def ofCode? (digits : List Char) : Option Char :=
  match digits.mapM Text.hexValue? with
  | none => none
  | some ds =>
    let n := ds.foldl (fun n d => 16 * n + d) 0
    if n.isValidChar then some (Char.ofNat n) else none

/-- The character that an escape of one letter stands for. -/
def plainEscape? (c : Char) : Option Char :=
  match c with
  | 'b' => some '\x08'
  | 't' => some '\t'
  | 'n' => some '\n'
  | 'f' => some '\x0c'
  | 'r' => some '\r'
  | '"' => some '"'
  | '\\' => some '\\'
  | _ => none

/-- The character whose code is in the next `n` digits. -/
def readCode (n : Nat) (cs : List Char) : Reading Char :=
  if cs.length < n then none else (ofCode? (cs.take n)).map fun x => (x, cs.drop n)

/-- The character that an escape stands for, behind its backslash. -/
def readEscape : List Char → Reading Char
  | [] => none
  | 'u' :: cs => readCode 4 cs
  | 'U' :: cs => readCode 8 cs
  | c :: cs => (plainEscape? c).map fun x => (x, cs)

theorem length_readCode_le {n : Nat} {cs r : List Char} {c : Char}
    (h : readCode n cs = some (c, r)) : r.length ≤ cs.length := by
  unfold readCode at h
  split at h
  · cases h
  · obtain ⟨x, -, hx⟩ := Option.map_eq_some_iff.1 h
    simp only [Prod.mk.injEq] at hx
    rw [← hx.2, List.length_drop]
    exact Nat.sub_le _ _

theorem length_readEscape_lt {cs r : List Char} {c : Char} (h : readEscape cs = some (c, r)) :
    r.length < cs.length := by
  unfold readEscape at h
  split at h
  · cases h
  · exact Nat.lt_succ_of_le (length_readCode_le h)
  · exact Nat.lt_succ_of_le (length_readCode_le h)
  · obtain ⟨x, -, hx⟩ := Option.map_eq_some_iff.1 h
    simp only [Prod.mk.injEq] at hx
    rw [← hx.2]
    simp

/-- The rest of a text on one line that knows escapes, behind what is `held` in reverse. -/
def readBasic (held : List Char) : List Char → Reading String
  | [] => none
  | c :: cs =>
    if c = '"' then some (String.ofList held.reverse, cs)
    else if c = '\\' then
      match _h : readEscape cs with
      | none => none
      | some (x, rest) => readBasic (x :: held) rest
    else if isTextChar c then readBasic (c :: held) cs
    else none
  termination_by cs => cs.length
  decreasing_by
    · exact Nat.lt_succ_of_lt (length_readEscape_lt _h)
    · simp

/-- The rest of a text on one line that takes characters as they are. -/
def readLiteral (held : List Char) : List Char → Reading String
  | [] => none
  | c :: cs =>
    if c = '\'' then some (String.ofList held.reverse, cs)
    else if isTextChar c then readLiteral (c :: held) cs
    else none

/-- The end of a text over several lines, behind three quotes: up to two more belong to it. -/
def closeLong (quote : Char) (held : List Char) : List Char → String × List Char
  | [] => (String.ofList held.reverse, [])
  | [c] =>
    if c = quote then (String.ofList (quote :: held).reverse, [])
    else (String.ofList held.reverse, [c])
  | c :: d :: cs =>
    if c = quote then
      if d = quote then (String.ofList (quote :: quote :: held).reverse, cs)
      else (String.ofList (quote :: held).reverse, d :: cs)
    else (String.ofList held.reverse, c :: d :: cs)

/-- Whether three quotes come next. -/
def closesLong (quote : Char) (cs : List Char) : Bool := [quote, quote, quote].isPrefixOf cs

/-- The characters behind white space and line ends. -/
def skipWhiteLines : List Char → List Char
  | [] => []
  | c :: cs =>
    if isWhite c || c = '\n' || (c = '\r' && cs.head? = some '\n') then skipWhiteLines cs
    else c :: cs

/-- The characters behind a line end. -/
def lineEnd? : List Char → Option (List Char)
  | '\n' :: cs => some cs
  | '\r' :: '\n' :: cs => some cs
  | _ => none

theorem length_skipWhiteLines_le (cs : List Char) : (skipWhiteLines cs).length ≤ cs.length := by
  fun_induction skipWhiteLines cs with
  | case1 => exact Nat.le_refl _
  | case2 c cs h ih => exact Nat.le_succ_of_le ih
  | case3 => exact Nat.le_refl _

theorem length_lineEnd_lt {cs r : List Char} (h : lineEnd? cs = some r) :
    r.length < cs.length := by
  unfold lineEnd? at h
  split at h
  · simp only [Option.some.injEq] at h
    subst h
    simp
  · simp only [Option.some.injEq] at h
    subst h
    simp only [List.length_cons]
    omega
  · cases h

/-- The characters behind a backslash that takes a line end with it, and all white space and line
ends that follow. -/
def skipJoin? (cs : List Char) : Option (List Char) :=
  (lineEnd? (skipWhite cs)).map skipWhiteLines

theorem length_skipJoin_lt {cs r : List Char} (h : skipJoin? cs = some r) :
    r.length < cs.length := by
  obtain ⟨ds, hd, hr⟩ := Option.map_eq_some_iff.1 h
  have h₁ := length_lineEnd_lt hd
  have h₂ := length_skipWhiteLines_le ds
  have h₃ := (List.dropWhile_suffix isWhite (l := cs)).length_le
  rw [hr] at h₂
  unfold skipWhite at h₁
  omega

/-- The rest of a text over several lines that knows escapes. -/
def readLongBasic (held : List Char) : List Char → Reading String
  | [] => none
  | c :: cs =>
    if closesLong '"' (c :: cs) then some (closeLong '"' held (cs.drop 2))
    else if c = '\\' then
      match _h : skipJoin? cs with
      | some rest => readLongBasic held rest
      | none =>
        match _h' : readEscape cs with
        | none => none
        | some (x, rest) => readLongBasic (x :: held) rest
    else
      match _h : lineEnd? (c :: cs) with
      | some rest => readLongBasic ('\n' :: held) rest
      | none => if isTextChar c then readLongBasic (c :: held) cs else none
  termination_by cs => cs.length
  decreasing_by
    · exact Nat.lt_succ_of_lt (length_skipJoin_lt _h)
    · exact Nat.lt_succ_of_lt (length_readEscape_lt _h')
    · exact length_lineEnd_lt _h
    · simp

/-- The rest of a text over several lines that takes characters as they are. -/
def readLongLiteral (held : List Char) : List Char → Reading String
  | [] => none
  | c :: cs =>
    if closesLong '\'' (c :: cs) then some (closeLong '\'' held (cs.drop 2))
    else
      match _h : lineEnd? (c :: cs) with
      | some rest => readLongLiteral ('\n' :: held) rest
      | none => if isTextChar c then readLongLiteral (c :: held) cs else none
  termination_by cs => cs.length
  decreasing_by
    · exact length_lineEnd_lt _h
    · simp

/-- Characters behind the line end that may follow three opening quotes. -/
def skipFirstEnd (cs : List Char) : List Char := (lineEnd? cs).getD cs

/-- The text on one line that comes next. -/
def readShortText : List Char → Reading String
  | '"' :: cs => readBasic [] cs
  | '\'' :: cs => readLiteral [] cs
  | _ => none

/-- The text that comes next. -/
def readText (cs : List Char) : Reading String :=
  if closesLong '"' cs then readLongBasic [] (skipFirstEnd (cs.drop 3))
  else if closesLong '\'' cs then readLongLiteral [] (skipFirstEnd (cs.drop 3))
  else readShortText cs

end PagePrep.Toml
