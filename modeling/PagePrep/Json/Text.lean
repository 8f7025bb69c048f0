import PagePrep.Json.Cursor
import PagePrep.Text.Hex
import PagePrep.Total

/-!
# Strings of a JSON text

Reading decodes the escapes and wants surrogates in pairs. Skipping checks the form of the escapes
alone. Both start behind the opening quote.
-/

set_option autoImplicit false

namespace PagePrep.Json

/-- Bytes of some characters. -/
def byteCount (cs : List Char) : Nat := total (cs.map Char.utf8Size)

/-- The number that the next four digits write. -/
def readHex (c : Cursor) : Reading Nat :=
  if byteCount (c.rest.take 4) < 4 then .error ⟨.endInString, c.offset + byteCount c.rest⟩
  else
    match c.rest with
    | d₁ :: d₂ :: d₃ :: d₄ :: cs =>
      match Text.hexValue? d₁, Text.hexValue? d₂, Text.hexValue? d₃, Text.hexValue? d₄ with
      | some n₁, some n₂, some n₃, some n₄ =>
        .ok (((n₁ * 16 + n₂) * 16 + n₃) * 16 + n₄, ⟨cs, c.offset + 4⟩)
      | _, _, _, _ => .error ⟨.invalidEscape, c.offset + 4⟩
    | _ => .error ⟨.invalidEscape, c.offset + 4⟩

/-- The character that an escape letter other than `u` stands for. -/
def plainEscape? (c : Char) : Option Char :=
  match c with
  | '"' => some '"'
  | '\\' => some '\\'
  | '/' => some '/'
  | 'b' => some '\x08'
  | 'f' => some '\x0c'
  | 'n' => some '\n'
  | 'r' => some '\r'
  | 't' => some '\t'
  | _ => none

def isLeadSurrogate (n : Nat) : Bool := 0xd800 ≤ n && n ≤ 0xdbff

def isTrailSurrogate (n : Nat) : Bool := 0xdc00 ≤ n && n ≤ 0xdfff

/-- The character of a surrogate pair. -/
def ofSurrogates (lead trail : Nat) : Char :=
  Char.ofNat ((lead - 0xd800) * 0x400 + (trail - 0xdc00) + 0x10000)

/-- The rest of a pair whose first half is `lead`. -/
def readTrail (lead : Nat) (c : Cursor) : Reading Char :=
  match c with
  | ⟨[], n⟩ => .error ⟨.endInString, n⟩
  | ⟨'\\' :: [], n⟩ => .error ⟨.endInString, n + 1⟩
  | ⟨'\\' :: 'u' :: cs, n⟩ =>
    match readHex ⟨cs, n + 2⟩ with
    | .error f => .error f
    | .ok (trail, c') =>
      if isTrailSurrogate trail then .ok (ofSurrogates lead trail, c')
      else c'.fault .loneSurrogate
  | ⟨'\\' :: _, n⟩ => .error ⟨.unfinishedSurrogate, n + 2⟩
  | ⟨_, n⟩ => .error ⟨.unfinishedSurrogate, n + 1⟩

/-- The character of an escape, behind its backslash. -/
def readEscape (c : Cursor) : Reading Char :=
  match c with
  | ⟨[], n⟩ => .error ⟨.endInString, n⟩
  | ⟨'u' :: cs, n⟩ =>
    match readHex ⟨cs, n + 1⟩ with
    | .error f => .error f
    | .ok (code, c') =>
      if isTrailSurrogate code then c'.fault .loneSurrogate
      else if isLeadSurrogate code then readTrail code c'
      else .ok (Char.ofNat code, c')
  | ⟨e :: cs, n⟩ =>
    match plainEscape? e with
    | some a => .ok (a, ⟨cs, n + 1⟩)
    | none => .error ⟨.invalidEscape, n + 1⟩

/-- Behind an escape, whose backslash is already taken. -/
def skipEscape (c : Cursor) : Except Fault Cursor :=
  match c with
  | ⟨[], n⟩ => .error ⟨.endInString, n⟩
  | ⟨'u' :: cs, n⟩ => (readHex ⟨cs, n + 1⟩).map Prod.snd
  | ⟨e :: cs, n⟩ =>
    match plainEscape? e with
    | some _ => .ok ⟨cs, n + 1⟩
    | none => .error ⟨.invalidEscape, n + 1⟩

theorem size_readHex_le {c c' : Cursor} {n : Nat} (h : readHex c = .ok (n, c')) :
    c'.size ≤ c.size := by
  obtain ⟨rest, k⟩ := c
  unfold readHex at h
  split at h
  · cases h
  · split at h
    · rename_i heq
      simp only at heq
      subst heq
      split at h
      · simp only [Except.ok.injEq, Prod.mk.injEq] at h
        obtain ⟨-, rfl⟩ := h
        simp only [Cursor.size, List.length_cons]
        omega
      · cases h
    · cases h

theorem size_readTrail_le {c c' : Cursor} {lead : Nat} {a : Char}
    (h : readTrail lead c = .ok (a, c')) : c'.size ≤ c.size := by
  unfold readTrail at h
  split at h
  · cases h
  · cases h
  · split at h
    · cases h
    · rename_i hx
      have := size_readHex_le hx
      split at h
      · simp only [Except.ok.injEq, Prod.mk.injEq] at h
        obtain ⟨-, rfl⟩ := h
        simp only [Cursor.size, List.length_cons] at this ⊢
        omega
      · simp [Cursor.fault] at h
  · cases h
  · cases h

theorem size_readEscape_le {c c' : Cursor} {a : Char} (h : readEscape c = .ok (a, c')) :
    c'.size ≤ c.size := by
  unfold readEscape at h
  split at h
  · cases h
  · split at h
    · cases h
    · rename_i hx
      have hle := size_readHex_le hx
      simp only [Cursor.size, List.length_cons] at hle ⊢
      split at h
      · simp [Cursor.fault] at h
      · split at h
        · have := size_readTrail_le h
          simp only [Cursor.size] at this
          omega
        · simp only [Except.ok.injEq, Prod.mk.injEq] at h
          obtain ⟨-, rfl⟩ := h
          omega
  · split at h
    · simp only [Except.ok.injEq, Prod.mk.injEq] at h
      obtain ⟨-, rfl⟩ := h
      simp [Cursor.size]
    · cases h

theorem size_skipEscape_le {c c' : Cursor} (h : skipEscape c = .ok c') : c'.size ≤ c.size := by
  unfold skipEscape at h
  split at h
  · cases h
  · rename_i cs n
    cases hx : readHex ⟨cs, n + 1⟩ with
    | error f => simp [hx, Except.map] at h
    | ok r =>
      have hle := @size_readHex_le _ r.2 r.1 hx
      simp only [hx, Except.map, Except.ok.injEq] at h
      subst h
      simp only [Cursor.size, List.length_cons] at hle ⊢
      omega
  · split at h
    · simp only [Except.ok.injEq] at h
      subst h
      simp [Cursor.size]
    · cases h

/-- The decoded string up to its closing quote; `held` are the characters so far, in reverse. -/
def readString (held : List Char) (c : Cursor) : Reading String :=
  match c with
  | ⟨[], n⟩ => .error ⟨.endInString, n⟩
  | ⟨a :: as, n⟩ =>
    if a = '"' then .ok (String.ofList held.reverse, ⟨as, n + 1⟩)
    else if a = '\\' then
      match _h : readEscape ⟨as, n + 1⟩ with
      | .error f => .error f
      | .ok (e, c') => readString (e :: held) c'
    else if a.toNat < 32 then .error ⟨.controlCharacter, n + 1⟩
    else readString (a :: held) ⟨as, n + a.utf8Size⟩
  termination_by c.size
  decreasing_by
    · have := size_readEscape_le _h
      simp only [Cursor.size, List.length_cons] at this ⊢
      omega
    · simp [Cursor.size]

/-- Behind the closing quote of a string. -/
def skipString (c : Cursor) : Except Fault Cursor :=
  match c with
  | ⟨[], n⟩ => .error ⟨.endInString, n⟩
  | ⟨a :: as, n⟩ =>
    if a = '"' then .ok ⟨as, n + 1⟩
    else if a = '\\' then
      match _h : skipEscape ⟨as, n + 1⟩ with
      | .error f => .error f
      | .ok c' => skipString c'
    else if a.toNat < 32 then .error ⟨.controlCharacter, n⟩
    else skipString ⟨as, n + a.utf8Size⟩
  termination_by c.size
  decreasing_by
    · have := size_skipEscape_le _h
      simp only [Cursor.size, List.length_cons] at this ⊢
      omega
    · simp [Cursor.size]

theorem size_readString_lt {held : List Char} {c c' : Cursor} {s : String}
    (h : readString held c = .ok (s, c')) : c'.size < c.size := by
  fun_induction readString held c with
  | case1 => cases h
  | case2 =>
    simp only [Except.ok.injEq, Prod.mk.injEq] at h
    obtain ⟨-, rfl⟩ := h
    simp [Cursor.size]
  | case3 => cases h
  | case4 held as n e c₁ hx _ ih =>
    have h₁ := size_readEscape_le hx
    have h₂ := ih h
    simp only [Cursor.size, List.length_cons] at h₁ h₂ ⊢
    omega
  | case5 => cases h
  | case6 held a as n _ _ _ ih =>
    have := ih h
    simp only [Cursor.size, List.length_cons] at this ⊢
    omega

theorem size_skipString_lt {c c' : Cursor} (h : skipString c = .ok c') : c'.size < c.size := by
  fun_induction skipString c with
  | case1 => cases h
  | case2 =>
    simp only [Except.ok.injEq] at h
    subst h
    simp [Cursor.size]
  | case3 => cases h
  | case4 as n c₁ hx _ ih =>
    have h₁ := size_skipEscape_le hx
    have h₂ := ih h
    simp only [Cursor.size, List.length_cons] at h₁ h₂ ⊢
    omega
  | case5 => cases h
  | case6 a as n _ _ _ ih =>
    have := ih h
    simp only [Cursor.size, List.length_cons] at this ⊢
    omega

end PagePrep.Json
