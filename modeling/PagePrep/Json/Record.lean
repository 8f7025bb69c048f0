import PagePrep.Json.Reader
import PagePrep.Json.Skip

/-!
# Records in JSON

A record of known fields is written as an object, or as a list of its fields in order. A fault in
the shape of a record has no place of its own: it lies where the attempt to read the closing
bracket ends.
-/

set_option autoImplicit false

namespace PagePrep.Json

/-- Why the inside of a record is refused. -/
inductive Stop where
  | placed (f : Fault)
  /-- A fault in the shape, found at the cursor. -/
  | unplaced (cause : Cause) (c : Cursor)
  deriving DecidableEq, Repr

/-- What the inside of a record holds, and the cursor behind it. -/
abbrev Inside (α : Type) := Except Stop (α × Cursor)

/-- The value found instead of the expected one. -/
def Found.ofValue : Value → Found
  | .null => .null
  | .boolean b => .boolean b
  | .number n => .number n
  | .text s => .text s
  | .list _ => .sequence
  | .object _ => .map

/-- The fault of a value at the cursor of another kind than expected. -/
def typeFault (expected : String) (c : Cursor) : Fault :=
  match c.rest with
  | '[' :: _ => ⟨.invalidType .sequence expected, c.offset⟩
  | '{' :: _ => ⟨.invalidType .map expected, c.offset⟩
  | _ =>
    match readScalar? c with
    | some (.ok (v, c')) => ⟨.invalidType (.ofValue v) expected, c'.offset⟩
    | some (.error f) => f
    | none => ⟨.expectedValue, c.offset + 1⟩

/-- The string that comes next. -/
def readText (c : Cursor) : Reading String :=
  let c₁ := c.skipGaps
  match c₁.rest with
  | [] => c₁.fault .endInValue
  | '"' :: _ => readString [] c₁.advance
  | _ => .error (typeFault "a string" c₁)

/-- Whether a list has a further item, and the cursor before it or before the closing bracket. -/
def nextItem (first : Bool) (c : Cursor) : Reading Bool :=
  let c₁ := c.skipGaps
  match c₁.rest with
  | [] => c₁.fault .endInList
  | ']' :: _ => .ok (false, c₁)
  | a :: _ =>
    if first then .ok (true, c₁)
    else if a = ',' then
      let c₂ := c₁.advance.skipGaps
      match c₂.rest with
      | [] => c₂.fault .endInValue
      | ']' :: _ => c₂.faultAhead .trailingComma
      | _ => .ok (true, c₂)
    else c₁.faultAhead .expectedListEnd

/-- The name of an object's further member, or nothing before the closing bracket. -/
def nextName (first : Bool) (c : Cursor) : Reading (Option String) :=
  let c₁ := c.skipGaps
  match c₁.rest with
  | [] => c₁.fault .endInObject
  | '}' :: _ => .ok (none, c₁)
  | a :: _ =>
    if first then
      if a = '"' then (readString [] c₁.advance).map fun r => (some r.1, r.2)
      else c₁.faultAhead .keyNotString
    else if a = ',' then
      let c₂ := c₁.advance.skipGaps
      match c₂.rest with
      | [] => c₂.fault .endInValue
      | '"' :: _ => (readString [] c₂.advance).map fun r => (some r.1, r.2)
      | '}' :: _ => c₂.faultAhead .trailingComma
      | _ => c₂.faultAhead .keyNotString
    else c₁.faultAhead .expectedObjectEnd

/-- Behind the closing bracket of a list. -/
def endList (c : Cursor) : Except Fault Cursor :=
  let c₁ := c.skipGaps
  match c₁.rest with
  | [] => c₁.fault .endInList
  | ']' :: _ => .ok c₁.advance
  | ',' :: _ =>
    let c₂ := c₁.advance.skipGaps
    match c₂.rest with
    | ']' :: _ => c₂.faultAhead .trailingComma
    | _ => c₂.faultAhead .trailingCharacters
  | _ => c₁.faultAhead .trailingCharacters

/-- Behind the closing bracket of an object. -/
def endObject (c : Cursor) : Except Fault Cursor :=
  let c₁ := c.skipGaps
  match c₁.rest with
  | [] => c₁.fault .endInObject
  | '}' :: _ => .ok c₁.advance
  | ',' :: _ => c₁.faultAhead .trailingComma
  | _ => c₁.faultAhead .trailingCharacters

/-- How far the attempt to close a list gets. -/
def settleList (c : Cursor) : Cursor :=
  let c₁ := c.skipGaps
  match c₁.rest with
  | ']' :: _ => c₁.advance
  | ',' :: _ => c₁.advance.skipGaps
  | _ => c₁

/-- How far the attempt to close an object gets. -/
def settleObject (c : Cursor) : Cursor :=
  let c₁ := c.skipGaps
  match c₁.rest with
  | '}' :: _ => c₁.advance
  | _ => c₁

/-- The end of a record, closed by `close`; `settle` places a fault in its shape. -/
def finishRecord {α : Type} (close : Cursor → Except Fault Cursor) (settle : Cursor → Cursor) :
    Inside α → Reading α
  | .error (.placed f) => .error f
  | .error (.unplaced cause c) => .error ⟨cause, (settle c).offset⟩
  | .ok (v, c) => (close c).map fun c' => (v, c')

/-- The record that comes next, from the inside of a list or of an object. -/
def readRecord {α : Type} (expected : String) (items members : Cursor → Inside α)
    (c : Cursor) : Reading α :=
  let c₁ := c.skipGaps
  match c₁.rest with
  | [] => c₁.fault .endInValue
  | '[' :: _ => finishRecord endList settleList (items c₁.advance)
  | '{' :: _ => finishRecord endObject settleObject (members c₁.advance)
  | _ => .error (typeFault expected c₁)

/-- A reading inside a record. -/
def placed {α : Type} : Except Fault α → Except Stop α
  | .ok a => .ok a
  | .error f => .error (.placed f)

/-! ## Readings leave less of the text -/

theorem size_readText_lt {c c' : Cursor} {s : String} (h : readText c = .ok (s, c')) :
    c'.size < c.size := by
  have h₁ := c.size_skipGaps_le
  simp only [readText] at h
  split at h
  · simp [Cursor.fault] at h
  · rename_i heq
    have := Cursor.size_advance_lt heq
    have := size_readString_lt h
    omega
  · cases h

theorem size_nextItem_le {first b : Bool} {c c' : Cursor} (h : nextItem first c = .ok (b, c')) :
    c'.size ≤ c.size := by
  have h₁ := c.size_skipGaps_le
  have h₂ := size_advance_le c.skipGaps
  have h₃ := c.skipGaps.advance.size_skipGaps_le
  simp only [nextItem] at h
  split at h
  · simp [Cursor.fault] at h
  · simp only [Except.ok.injEq, Prod.mk.injEq] at h
    obtain ⟨-, rfl⟩ := h
    exact h₁
  · split at h
    · simp only [Except.ok.injEq, Prod.mk.injEq] at h
      obtain ⟨-, rfl⟩ := h
      exact h₁
    · split at h
      · split at h
        · simp [Cursor.fault] at h
        · simp [Cursor.faultAhead] at h
        · simp only [Except.ok.injEq, Prod.mk.injEq] at h
          obtain ⟨-, rfl⟩ := h
          omega
      · simp [Cursor.faultAhead] at h

theorem size_name_lt {c c' : Cursor} {name : String}
    (h : ((readString [] c).map fun r => (some r.1, r.2)) = .ok (some name, c')) :
    c'.size < c.size := by
  cases hr : readString [] c with
  | error f => simp [hr, Except.map] at h
  | ok r =>
    have := @size_readString_lt [] c r.2 r.1 hr
    simp only [hr, Except.map, Except.ok.injEq, Prod.mk.injEq] at h
    obtain ⟨-, rfl⟩ := h
    exact this

theorem size_nextName_lt {first : Bool} {c c' : Cursor} {name : String}
    (h : nextName first c = .ok (some name, c')) : c'.size < c.size := by
  have h₁ := c.size_skipGaps_le
  have h₂ := size_advance_le c.skipGaps
  have h₃ := c.skipGaps.advance.size_skipGaps_le
  have h₄ := size_advance_le c.skipGaps.advance.skipGaps
  simp only [nextName] at h
  split at h
  · simp [Cursor.fault] at h
  · simp at h
  · split at h
    · split at h
      · have := size_name_lt h
        omega
      · simp [Cursor.faultAhead] at h
    · split at h
      · split at h
        · simp [Cursor.fault] at h
        · have := size_name_lt h
          omega
        · simp [Cursor.faultAhead] at h
        · simp [Cursor.faultAhead] at h
      · simp [Cursor.faultAhead] at h

theorem size_endList_le {c c' : Cursor} (h : endList c = .ok c') : c'.size ≤ c.size := by
  have h₁ := c.size_skipGaps_le
  have h₂ := size_advance_le c.skipGaps
  simp only [endList] at h
  split at h
  · simp [Cursor.fault] at h
  · simp only [Except.ok.injEq] at h
    subst h
    omega
  · split at h <;> simp [Cursor.faultAhead] at h
  · simp [Cursor.faultAhead] at h

theorem size_endObject_le {c c' : Cursor} (h : endObject c = .ok c') : c'.size ≤ c.size := by
  have h₁ := c.size_skipGaps_le
  have h₂ := size_advance_le c.skipGaps
  simp only [endObject] at h
  split at h
  · simp [Cursor.fault] at h
  · simp only [Except.ok.injEq] at h
    subst h
    omega
  · simp [Cursor.faultAhead] at h
  · simp [Cursor.faultAhead] at h

theorem size_finishRecord_le {α : Type} {close : Cursor → Except Fault Cursor}
    {settle : Cursor → Cursor} {r : Inside α} {v : α} {c c' : Cursor}
    (hclose : ∀ c₁ c₂, close c₁ = .ok c₂ → c₂.size ≤ c₁.size)
    (hr : ∀ v c₁, r = .ok (v, c₁) → c₁.size ≤ c.size)
    (h : finishRecord close settle r = .ok (v, c')) : c'.size ≤ c.size := by
  unfold finishRecord at h
  split at h
  · cases h
  · cases h
  · rename_i v₁ c₁
    cases hc : close c₁ with
    | error f => simp [hc, Except.map] at h
    | ok c₂ =>
      simp only [hc, Except.map, Except.ok.injEq, Prod.mk.injEq] at h
      obtain ⟨-, rfl⟩ := h
      exact Nat.le_trans (hclose _ _ hc) (hr _ _ rfl)

theorem size_readRecord_lt {α : Type} {expected : String} {items members : Cursor → Inside α}
    {c c' : Cursor} {v : α}
    (hi : ∀ c₁ v c₂, items c₁ = .ok (v, c₂) → c₂.size ≤ c₁.size)
    (hm : ∀ c₁ v c₂, members c₁ = .ok (v, c₂) → c₂.size ≤ c₁.size)
    (h : readRecord expected items members c = .ok (v, c')) : c'.size < c.size := by
  have h₁ := c.size_skipGaps_le
  simp only [readRecord] at h
  split at h
  · simp [Cursor.fault] at h
  · rename_i heq
    have h₂ := Cursor.size_advance_lt heq
    have := size_finishRecord_le (fun _ _ hc => size_endList_le hc)
      (fun v c₁ hx => hi _ v c₁ hx) h
    omega
  · rename_i heq
    have h₂ := Cursor.size_advance_lt heq
    have := size_finishRecord_le (fun _ _ hc => size_endObject_le hc)
      (fun v c₁ hx => hm _ v c₁ hx) h
    omega
  · cases h

end PagePrep.Json
