/-!
# TOML documents

A document is a table. Tables come from headers, from the steps of longer headers, from dotted keys
or from values, and that decides what may still be added to them.
-/

set_option autoImplicit false

namespace PagePrep.Toml

/-- How a table came to be. -/
inductive Origin where
  /-- Written as a value. -/
  | value
  /-- Opened by a header of its own. -/
  | header
  /-- Passed by a longer header. -/
  | passed
  /-- Passed by a dotted key. -/
  | dotted
  deriving DecidableEq, Repr

/-- A value or a table. -/
inductive Node where
  | text (s : String)
  | integer (i : Int)
  /-- A number that is not an integer. -/
  | float
  | boolean (b : Bool)
  /-- A date or a time. -/
  | moment
  | list (items : List Node)
  | table (origin : Origin) (members : List (String × Node))
  /-- Tables opened by headers of one name, the last one apart. -/
  | tables (earlier : List (List (String × Node))) (last : List (String × Node))
  deriving Repr

/-- The members of a table. -/
abbrev Members := List (String × Node)

namespace Members

/-- The member of a name. -/
def get? (ms : Members) (name : String) : Option Node :=
  (ms.find? fun m => m.1 == name).map Prod.snd

/-- The members with another node for the member of a name. -/
def set (ms : Members) (name : String) (n : Node) : Members :=
  ms.map fun m => if m.1 == name then (name, n) else m

/-- The members with one more. -/
def add (ms : Members) (name : String) (n : Node) : Members := ms ++ [(name, n)]

/-- The members with `node` put where a dotted key leads, if it may be put there. -/
def insert (ms : Members) (key : String) (path : List String) (node : Node) : Option Members :=
  match path with
  | [] => if (ms.get? key).isSome then none else some (ms.add key node)
  | next :: rest =>
    match ms.get? key with
    | none => (insert [] next rest node).map fun inner => ms.add key (.table .dotted inner)
    | some (.table .dotted inner) =>
      (insert inner next rest node).map fun inner' => ms.set key (.table .dotted inner')
    | some (.table .passed inner) =>
      if rest = [] then none
      else (insert inner next rest node).map fun inner' => ms.set key (.table .passed inner')
    | some (.tables earlier last) =>
      if rest = [] then none
      else (insert last next rest node).map fun last' => ms.set key (.tables earlier last')
    | some _ => none

/-- The members with `change` made in the table that a header's steps lead to. Of tables of one
name the last is meant, and a table that is not there is made. -/
def within (change : Members → Option Members) (ms : Members) : List String → Option Members
  | [] => change ms
  | key :: rest =>
    match ms.get? key with
    | none => (within change [] rest).map fun inner => ms.add key (.table .passed inner)
    | some (.table .value _) => none
    | some (.table origin inner) =>
      (within change inner rest).map fun inner' => ms.set key (.table origin inner')
    | some (.tables earlier last) =>
      (within change last rest).map fun last' => ms.set key (.tables earlier last')
    | some _ => none

/-- The members with a table opened by a header. -/
def openTable (key : String) (ms : Members) : Option Members :=
  match ms.get? key with
  | none => some (ms.add key (.table .header []))
  | some (.table .passed inner) => some (ms.set key (.table .header inner))
  | some _ => none

/-- The members with one more of the tables of a name. -/
def openNext (key : String) (ms : Members) : Option Members :=
  match ms.get? key with
  | none => some (ms.add key (.tables [] []))
  | some (.tables earlier last) => some (ms.set key (.tables (earlier ++ [last]) []))
  | some _ => none

end Members

end PagePrep.Toml
