/-!
# Occurrences in a text

Finding, replacing and removing a fixed piece of text. Occurrences are taken from left to right
and do not overlap.
-/

set_option autoImplicit false

namespace PagePrep.Text

/-- Whether `needle` stands somewhere in the characters. -/
def occurs (needle : List Char) : List Char → Bool
  | [] => needle.isEmpty
  | c :: cs => needle.isPrefixOf (c :: cs) || occurs needle cs

/-- Whether the text `needle` stands somewhere in `s`. -/
def contains (s needle : String) : Bool := occurs needle.toList s.toList

/-- Characters with each occurrence of the nonempty `needle` replaced; the first `skip` of them
are the rest of an occurrence already replaced. -/
def substitute (needle new : List Char) : Nat → List Char → List Char
  | _, [] => []
  | skip + 1, _ :: cs => substitute needle new skip cs
  | 0, c :: cs =>
    if needle.isPrefixOf (c :: cs) then new ++ substitute needle new (needle.length - 1) cs
    else c :: substitute needle new 0 cs

/-- Every occurrence of `needle` replaced by `new`. An empty `needle` occurs around each
character. -/
def replaceAll (s needle new : String) : String :=
  if needle.isEmpty then
    String.ofList (new.toList ++ s.toList.flatMap fun c => c :: new.toList)
  else String.ofList (substitute needle.toList new.toList 0 s.toList)

/-- The pieces between the occurrences of a character. -/
def splitAt (sep : Char) : List Char → List (List Char)
  | [] => [[]]
  | c :: cs =>
    if c = sep then [] :: splitAt sep cs
    else
      match splitAt sep cs with
      | [] => [[c]]
      | p :: ps => (c :: p) :: ps

theorem splitAt_ne_nil (sep : Char) (cs : List Char) : splitAt sep cs ≠ [] := by
  cases cs with
  | nil => simp [splitAt]
  | cons c cs =>
    unfold splitAt
    split
    · simp
    · split <;> simp

end PagePrep.Text
