import PagePrep.Json.Number

/-!
# JSON values

A value as its text gives it. The members of an object stay in order, also where a name is given
twice.
-/

set_option autoImplicit false

namespace PagePrep.Json

/-- A JSON value. -/
inductive Value where
  | null
  | boolean (b : Bool)
  | number (n : Number)
  | text (s : String)
  | list (items : List Value)
  | object (members : List (String × Value))
  deriving Repr

namespace Value

/-- The last member of a name. -/
def member? (members : List (String × Value)) (name : String) : Option Value :=
  (members.reverse.find? fun m => m.1 == name).map Prod.snd

/-- The text of a string. -/
def text? : Value → Option String
  | text s => some s
  | _ => none

end Value

end PagePrep.Json
