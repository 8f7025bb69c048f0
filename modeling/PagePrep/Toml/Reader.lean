import PagePrep.Toml.Node
import PagePrep.Toml.Number

/-!
# Reading TOML

A document is a list of statements: settings and headers, each on lines of its own. Containers and
dotted keys may only be so deep.
-/

set_option autoImplicit false

namespace PagePrep.Toml

/-- How deep containers may stand in each other, and how many steps a key may have. -/
def depthLimit : Nat := 79

/-! ## What stands between -/

/-- Whether a character may stand in a comment. -/
def isCommentChar (c : Char) : Bool := c == '\t' || ' ' ≤ c

/-- Behind white space, line ends and comments. A comment needs a line end. -/
def skipGaps (inComment : Bool) : List Char → Option (List Char)
  | [] => if inComment then none else some []
  | c :: cs =>
    if c = '\n' then skipGaps false cs
    else if c = '\r' && cs.head? = some '\n' then skipGaps false cs
    else if inComment then if isCommentChar c then skipGaps true cs else none
    else if c = '#' then skipGaps true cs
    else if isWhite c then skipGaps false cs
    else some (c :: cs)

/-- Behind the end of a line, before which only white space and a comment may stand. -/
def endLine (inComment : Bool) : List Char → Option (List Char)
  | [] => some []
  | c :: cs =>
    if c = '\n' then some cs
    else if c = '\r' && cs.head? = some '\n' then some (cs.drop 1)
    else if inComment then if isCommentChar c then endLine true cs else none
    else if c = '#' then endLine true cs
    else if isWhite c then endLine false cs
    else none

/-! ## Keys -/

/-- Whether a character may stand in a key without quotes. -/
def isBareChar (c : Char) : Bool := c.isAlphanum || c == '-' || c == '_'

/-- One step of a key. -/
def readStep (cs : List Char) : Reading String :=
  match cs with
  | [] => none
  | c :: _ =>
    if c = '"' || c = '\'' then readShortText cs
    else if isBareChar c then
      some (String.ofList (cs.takeWhile isBareChar), cs.dropWhile isBareChar)
    else none

/-- Steps of a key, at most `limit` more than one, behind white space and before it. -/
def readSteps (limit : Nat) (cs : List Char) : Reading (String × List String) :=
  match readStep (skipWhite cs) with
  | none => none
  | some (step, rest) =>
    match skipWhite rest with
    | '.' :: more =>
      match limit with
      | 0 => none
      | limit + 1 => (readSteps limit more).map fun r => ((step, r.1.1 :: r.1.2), r.2)
    | rest => some ((step, []), rest)

/-- The key that comes next. -/
def readKey (cs : List Char) : Reading (String × List String) := readSteps (depthLimit - 1) cs

/-! ## Values -/

/-- A word that comes next and the value it stands for. -/
def readWord (word : List Char) (n : Node) (cs : List Char) : Reading Node :=
  if word.isPrefixOf cs then some (n, cs.drop word.length) else none

/-- A number or a date. -/
def readNumber (cs : List Char) : Reading Node :=
  match readMoment cs with
  | some rest => some (.moment, rest)
  | none =>
    match readFloat cs with
    | some rest => some (.float, rest)
    | none =>
      match readSpecial cs with
      | some rest => some (.float, rest)
      | none => (readInteger cs).map fun r => (.integer r.1, r.2)

/-- The value that comes next, if it is no container. -/
def readScalar (cs : List Char) : Reading Node :=
  match cs with
  | [] => none
  | c :: _ =>
    if c = '"' || c = '\'' then (readText cs).map fun r => (.text r.1, r.2)
    else if c = 't' then readWord ['t', 'r', 'u', 'e'] (.boolean true) cs
    else if c = 'f' then readWord ['f', 'a', 'l', 's', 'e'] (.boolean false) cs
    else readNumber cs

/-- Items of a list up to its closing bracket, each read by `item`; `held` has the earlier ones in
reverse. There are fewer than `fuel` to come. -/
def readItems (item : List Char → Reading Node) (held : List Node) :
    Nat → List Char → Reading (List Node)
  | 0, _ => none
  | fuel + 1, cs =>
    match skipGaps false cs with
    | none => none
    | some (']' :: rest) => some (held.reverse, rest)
    | some cs =>
      match item cs with
      | none => none
      | some (v, rest) =>
        match skipGaps false rest with
        | some (',' :: rest) => readItems item (v :: held) fuel rest
        | some (']' :: rest) => some ((v :: held).reverse, rest)
        | _ => none

/-- A key, the sign behind it and a value read by `item`. -/
def readSetting (item : List Char → Reading Node) (cs : List Char) :
    Reading (String × List String × Node) :=
  match readKey cs with
  | some ((key, path), '=' :: rest) =>
    (item (skipWhite rest)).map fun r => ((key, path, r.1), r.2)
  | _ => none

/-- Members of a table up to its closing bracket, with values read by `item`. There are fewer than
`fuel` to come, but one at least. -/
def readPairs (item : List Char → Reading Node) (ms : Members) :
    Nat → List Char → Reading Members
  | 0, _ => none
  | fuel + 1, cs =>
    match readSetting item cs with
    | none => none
    | some ((key, path, v), rest) =>
      match ms.insert key path v with
      | none => none
      | some ms =>
        match skipWhite rest with
        | ',' :: rest => readPairs item ms fuel rest
        | '\x7d' :: rest => some (ms, rest)
        | _ => none

/-- The value that comes next, with at most `depth` containers in each other. -/
def readValue : Nat → List Char → Reading Node
  | 0, cs => readScalar cs
  | depth + 1, cs =>
    match cs with
    | '[' :: rest =>
      (readItems (readValue depth) [] (rest.length + 1) rest).map fun r => (.list r.1, r.2)
    | '\x7b' :: rest =>
      match skipWhite rest with
      | '\x7d' :: rest => some (.table .value [], rest)
      | rest =>
        (readPairs (readValue depth) [] (rest.length + 1) rest).map fun r =>
          (.table .value r.1, r.2)
    | _ => readScalar cs

/-! ## Statements -/

/-- A line of a document that says something. -/
inductive Statement where
  | setting (key : String) (path : List String) (value : Node)
  /-- A table is opened. -/
  | header (key : String) (path : List String)
  /-- The next of the tables of one name is opened. -/
  | nextHeader (key : String) (path : List String)
  deriving Repr

/-- Behind closing brackets. -/
def closeHeader (count : Nat) (cs : List Char) : Option (List Char) :=
  if (List.replicate count ']').isPrefixOf cs then some (cs.drop count) else none

/-- The statement that comes next. -/
def readStatement (cs : List Char) : Reading Statement :=
  match cs with
  | '[' :: '[' :: rest =>
    match readKey rest with
    | none => none
    | some ((key, path), rest) =>
      (closeHeader 2 rest).map fun rest => (.nextHeader key path, rest)
  | '[' :: rest =>
    match readKey rest with
    | none => none
    | some ((key, path), rest) => (closeHeader 1 rest).map fun rest => (.header key path, rest)
  | _ =>
    (readSetting (readValue depthLimit) cs).map fun r =>
      (.setting r.1.1 r.1.2.1 r.1.2.2, r.2)

/-- Whether the rest of a line says nothing. -/
def saysNothing : List Char → Bool
  | [] => true
  | c :: _ => c == '\n' || c == '\r' || c == '#'

/-- The statements of a document with fewer than `fuel` lines. -/
def readStatements : Nat → List Char → Option (List Statement)
  | 0, _ => none
  | fuel + 1, cs =>
    match skipWhite cs with
    | [] => some []
    | cs =>
      if saysNothing cs then (endLine false cs).bind (readStatements fuel)
      else
        match readStatement cs with
        | none => none
        | some (s, rest) =>
          match endLine false rest with
          | none => none
          | some rest => (readStatements fuel rest).map (s :: ·)

/-! ## Documents -/

/-- A document under way. -/
structure Draft where
  members : Members
  /-- The steps of the header in force. -/
  current : List String

namespace Draft

/-- The document with one more statement, if that may be said. -/
def add (d : Draft) : Statement → Option Draft
  | .setting key path value =>
    (d.members.within (fun ms => ms.insert key path value) d.current).map fun ms =>
      { d with members := ms }
  | .header key path =>
    let steps := key :: path
    (d.members.within (Members.openTable (steps.getLast (by simp [steps])))
      steps.dropLast).map fun ms => ⟨ms, steps⟩
  | .nextHeader key path =>
    let steps := key :: path
    (d.members.within (Members.openNext (steps.getLast (by simp [steps])))
      steps.dropLast).map fun ms => ⟨ms, steps⟩

end Draft

/-- The text without a mark of its byte order. -/
def withoutMark : List Char → List Char
  | '\ufeff' :: cs => cs
  | cs => cs

/-- The members of the table that a text writes. -/
def read (s : String) : Option Members :=
  let cs := withoutMark s.toList
  match readStatements (cs.length + 1) cs with
  | none => none
  | some ss => (ss.foldlM Draft.add ⟨[], []⟩).map Draft.members

end PagePrep.Toml
