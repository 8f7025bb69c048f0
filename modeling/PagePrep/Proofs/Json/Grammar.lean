import Mathlib.Data.List.Forall2

/-!
# Texts of JSON values

The grammar of JSON, told apart from any reader. White space may stand between the parts of a text, and
a character of a string may stand as it is or as any of its escapes. `Quoted` tells what string a text
is of; the other relations tell what has the form of a value only, since numbers too large for any type
and halves of surrogate pairs have it as well.
-/

set_option autoImplicit false

namespace PagePrep.Json

/-- White space between the parts of a text. -/
def Gap (cs : List Char) : Prop := ∀ c ∈ cs, c = ' ' ∨ c = '\t' ∨ c = '\n' ∨ c = '\r'

instance : DecidablePred Gap := List.decidableBAll fun c => c = ' ' ∨ c = '\t' ∨ c = '\n' ∨ c = '\r'

/-! ## Strings -/

/-- `d` is the hexadecimal digit of `n`, in either case. -/
def IsHexDigit (n : Nat) (d : Char) : Prop :=
  n < 16 ∧ (d = Nat.digitChar n ∨ d = (Nat.digitChar n).toUpper)

/-- Four hexadecimal digits that write `n`. -/
inductive HexCode (n : Nat) : List Char → Prop
  | digits {n₁ n₂ n₃ n₄ : Nat} {d₁ d₂ d₃ d₄ : Char} (h₁ : IsHexDigit n₁ d₁) (h₂ : IsHexDigit n₂ d₂)
      (h₃ : IsHexDigit n₃ d₃) (h₄ : IsHexDigit n₄ d₄)
      (value : ((n₁ * 16 + n₂) * 16 + n₃) * 16 + n₄ = n) : HexCode n [d₁, d₂, d₃, d₄]

/-- The characters with a short escape, each with the letter of it. -/
def shortEscapes : List (Char × Char) :=
  [('"', '"'), ('\\', '\\'), ('/', '/'), ('\x08', 'b'), ('\x0c', 'f'), ('\n', 'n'), ('\r', 'r'),
    ('\t', 't')]

/-- How a character may stand in a string. -/
inductive Spells (c : Char) : List Char → Prop
  | plain (low : 32 ≤ c.toNat) (quote : c ≠ '"') (backslash : c ≠ '\\') : Spells c [c]
  | short {e : Char} (h : (c, e) ∈ shortEscapes) : Spells c ['\\', e]
  | code {ds : List Char} (h : HexCode c.toNat ds) : Spells c ('\\' :: 'u' :: ds)
  | pair {ds es : List Char} (wide : 0x10000 ≤ c.toNat)
      (lead : HexCode (0xd800 + (c.toNat - 0x10000) / 0x400) ds)
      (trail : HexCode (0xdc00 + (c.toNat - 0x10000) % 0x400) es) :
      Spells c ('\\' :: 'u' :: (ds ++ '\\' :: 'u' :: es))

/-- A text of the string `s`, with its quotes. -/
def Quoted (s : String) (cs : List Char) : Prop :=
  ∃ spellings, List.Forall₂ Spells s.toList spellings ∧ cs = '"' :: (spellings.flatten ++ ['"'])

/-- What may stand in a string, be it one half of a surrogate pair. -/
inductive SpellingForm : List Char → Prop
  | plain {c : Char} (low : 32 ≤ c.toNat) (quote : c ≠ '"') (backslash : c ≠ '\\') :
      SpellingForm [c]
  | short {c e : Char} (h : (c, e) ∈ shortEscapes) : SpellingForm ['\\', e]
  | code {n : Nat} {ds : List Char} (h : HexCode n ds) : SpellingForm ('\\' :: 'u' :: ds)

/-- A text with the form of a string. -/
def QuotedForm (cs : List Char) : Prop :=
  ∃ spellings : List (List Char), (∀ p ∈ spellings, SpellingForm p) ∧
    cs = '"' :: (spellings.flatten ++ ['"'])

/-! ## Numbers -/

/-- One digit or more. -/
def Digits (ds : List Char) : Prop := ds ≠ [] ∧ ∀ d ∈ ds, '0' ≤ d ∧ d ≤ '9'

/-- Digits before the point: none in front is a zero, save for zero itself. -/
inductive WholeForm : List Char → Prop
  | zero : WholeForm ['0']
  | nonzero {d : Char} {ds : List Char} (h : Digits (d :: ds)) (hd : d ≠ '0') : WholeForm (d :: ds)

/-- The point and the digits behind it, if there are any. -/
inductive FractionForm : List Char → Prop
  | absent : FractionForm []
  | digits {ds : List Char} (h : Digits ds) : FractionForm ('.' :: ds)

/-- The exponent, if there is one. -/
inductive ExponentForm : List Char → Prop
  | absent : ExponentForm []
  | plain {e : Char} {ds : List Char} (he : e = 'e' ∨ e = 'E') (h : Digits ds) :
      ExponentForm (e :: ds)
  | signed {e s : Char} {ds : List Char} (he : e = 'e' ∨ e = 'E') (hs : s = '+' ∨ s = '-')
      (h : Digits ds) : ExponentForm (e :: s :: ds)

/-- A text with the form of a number. -/
inductive NumberForm : List Char → Prop
  | positive {w f e : List Char} (hw : WholeForm w) (hf : FractionForm f) (he : ExponentForm e) :
      NumberForm (w ++ (f ++ e))
  | negative {w f e : List Char} (hw : WholeForm w) (hf : FractionForm f) (he : ExponentForm e) :
      NumberForm ('-' :: (w ++ (f ++ e)))

/-! ## Containers -/

/-- Further parts of a container up to its closing bracket, each behind a comma. -/
inductive Continued : List (List Char) → List Char → Prop
  | close {g : List Char} (hg : Gap g) : Continued [] g
  | more {g g' p : List Char} {ps : List (List Char)} {t : List Char} (hg : Gap g) (hg' : Gap g')
      (h : Continued ps t) : Continued (p :: ps) (g ++ ',' :: (g' ++ (p ++ t)))

/-- The parts of a container between its brackets, with commas between them. -/
inductive Parts : List (List Char) → List Char → Prop
  | empty {g : List Char} (hg : Gap g) : Parts [] g
  | parts {g p : List Char} {ps : List (List Char)} {t : List Char} (hg : Gap g)
      (h : Continued ps t) : Parts (p :: ps) (g ++ (p ++ t))

/-- A member of an object as it is written. -/
structure Member where
  key : List Char
  before : List Char
  after : List Char
  value : List Char
  gap_before : Gap before
  gap_after : Gap after

namespace Member

/-- The member behind its key. -/
def tail (m : Member) : List Char := m.before ++ ':' :: (m.after ++ m.value)

/-- The member. -/
def text (m : Member) : List Char := m.key ++ m.tail

end Member

/-- A text with the form of a value. -/
inductive ValueForm : List Char → Prop
  | word {w : List Char}
      (h : w ∈ [['n', 'u', 'l', 'l'], ['t', 'r', 'u', 'e'], ['f', 'a', 'l', 's', 'e']]) :
      ValueForm w
  | number {cs : List Char} (h : NumberForm cs) : ValueForm cs
  | text {cs : List Char} (h : QuotedForm cs) : ValueForm cs
  | list {items : List (List Char)} {t : List Char} (h : Parts items t)
      (hi : ∀ i ∈ items, ValueForm i) : ValueForm ('[' :: (t ++ [']']))
  | object {ms : List Member} {t : List Char} (h : Parts (ms.map Member.text) t)
      (hk : ∀ m ∈ ms, QuotedForm m.key) (hv : ∀ m ∈ ms, ValueForm m.value) :
      ValueForm ('{' :: (t ++ ['}']))

/-- A member whose name is known. -/
structure NamedMember extends Member where
  name : String
  named : Quoted name key

/-- The text of an object with these members. -/
def ObjectText (ms : List NamedMember) (cs : List Char) : Prop :=
  ∃ t, Parts (ms.map fun m => m.text) t ∧ cs = '{' :: (t ++ ['}'])

/-- The texts of the values that members of a name have. -/
def valuesOf (name : String) (ms : List NamedMember) : List (List Char) :=
  (ms.filter fun m => m.name = name).map fun m => m.value

/-! ## Every string and every member has a text -/

theorem exists_forall₂ {α β : Type} {R : α → β → Prop} (h : ∀ a, ∃ b, R a b) (as : List α) :
    ∃ bs, List.Forall₂ R as bs := by
  induction as with
  | nil => exact ⟨[], .nil⟩
  | cons a as ih =>
    obtain ⟨b, hb⟩ := h a
    obtain ⟨bs, hbs⟩ := ih
    exact ⟨b :: bs, .cons hb hbs⟩

theorem gap_nil : Gap [] := by simp [Gap]

theorem hexCode_lower (n₁ n₂ n₃ n₄ : Nat) (h : n₁ < 16 ∧ n₂ < 16 ∧ n₃ < 16 ∧ n₄ < 16) :
    HexCode (((n₁ * 16 + n₂) * 16 + n₃) * 16 + n₄)
      [Nat.digitChar n₁, Nat.digitChar n₂, Nat.digitChar n₃, Nat.digitChar n₄] :=
  .digits ⟨h.1, .inl rfl⟩ ⟨h.2.1, .inl rfl⟩ ⟨h.2.2.1, .inl rfl⟩ ⟨h.2.2.2, .inl rfl⟩ rfl

theorem exists_hexCode {n : Nat} (h : n < 0x10000) : ∃ ds, HexCode n ds := by
  have hcode := hexCode_lower (n / 0x1000) (n / 0x100 % 16) (n / 16 % 16) (n % 16) (by omega)
  have hn : ((n / 0x1000 * 16 + n / 0x100 % 16) * 16 + n / 16 % 16) * 16 + n % 16 = n := by omega
  rw [hn] at hcode
  exact ⟨_, hcode⟩

theorem exists_spells (c : Char) : ∃ cs, Spells c cs := by
  rcases Nat.lt_or_ge c.toNat 0x10000 with hc | hc
  · obtain ⟨ds, hds⟩ := exists_hexCode hc
    exact ⟨_, .code hds⟩
  · refine ⟨[c], .plain (by omega) ?_ ?_⟩
    all_goals
      rintro rfl
      exact absurd hc (by decide)

theorem exists_quoted (s : String) : ∃ cs, Quoted s cs := by
  obtain ⟨spellings, hs⟩ := exists_forall₂ exists_spells s.toList
  exact ⟨_, spellings, hs, rfl⟩

theorem exists_continued (ps : List (List Char)) : ∃ t, Continued ps t := by
  induction ps with
  | nil => exact ⟨[], .close gap_nil⟩
  | cons p ps ih =>
    obtain ⟨t, ht⟩ := ih
    exact ⟨_, .more gap_nil gap_nil ht⟩

theorem exists_parts (ps : List (List Char)) : ∃ t, Parts ps t := by
  cases ps with
  | nil => exact ⟨[], .empty gap_nil⟩
  | cons p ps =>
    obtain ⟨t, ht⟩ := exists_continued ps
    exact ⟨_, .parts gap_nil ht⟩

theorem exists_member (name : String) (value : List Char) :
    ∃ m : NamedMember, m.name = name ∧ m.value = value := by
  obtain ⟨key, hkey⟩ := exists_quoted name
  exact ⟨⟨⟨key, [], [], value, gap_nil, gap_nil⟩, name, hkey⟩, rfl, rfl⟩

theorem exists_objectText (ms : List NamedMember) : ∃ cs, ObjectText ms cs := by
  obtain ⟨t, ht⟩ := exists_parts (ms.map fun m => m.text)
  exact ⟨_, t, ht, rfl⟩

end PagePrep.Json
