import PagePrep.Json.NumberText
import PagePrep.Json.Text
import PagePrep.Json.Value
import PagePrep.Json.Word

/-!
# Reading JSON values

A value is read in steps. The containers that are open are held in a list, innermost first, and
each step takes one value or opens one container, so every step leaves less of the text.
-/

set_option autoImplicit false

namespace PagePrep.Json

/-- A container under way; what it holds so far is in reverse. -/
inductive Frame where
  | list (items : List Value)
  /-- `key` waits for its value. -/
  | object (members : List (String × Value)) (key : String)
  deriving Repr

/-- What a step leads to. -/
inductive Step where
  /-- The outermost value is complete. -/
  | done (v : Value) (c : Cursor)
  /-- A value is to come inside these containers. -/
  | next (frames : List Frame) (c : Cursor)
  deriving Repr

/-- How deep containers may stand in each other, less one. -/
def depthLimit : Nat := 128

/-- Behind the colon that comes next. -/
def readColon (c : Cursor) : Except Fault Cursor :=
  let c₁ := c.skipGaps
  match c₁.rest with
  | [] => c₁.fault .endInObject
  | ':' :: _ => .ok c₁.advance
  | _ => c₁.faultAhead .expectedColon

/-- The key at the cursor and its colon. -/
def readKey (c : Cursor) : Reading String :=
  match readString [] c.advance with
  | .error f => .error f
  | .ok (key, c₁) => (readColon c₁).map fun c₂ => (key, c₂)

/-- The value `v` put into the innermost container. -/
def deliver (v : Value) : List Frame → Cursor → Except Fault Step
  | [], c => .ok (.done v c)
  | .list items :: fs, c =>
    let c₁ := c.skipGaps
    match c₁.rest with
    | [] => c₁.fault .endInList
    | ']' :: _ => deliver (.list (v :: items).reverse) fs c₁.advance
    | ',' :: _ =>
      let c₂ := c₁.advance.skipGaps
      match c₂.rest with
      | [] => c₂.fault .endInValue
      | ']' :: _ => c₂.faultAhead .trailingComma
      | _ => .ok (.next (.list (v :: items) :: fs) c₂)
    | _ => c₁.faultAhead .expectedListEnd
  | .object members key :: fs, c =>
    let c₁ := c.skipGaps
    match c₁.rest with
    | [] => c₁.fault .endInObject
    | '}' :: _ => deliver (.object ((key, v) :: members).reverse) fs c₁.advance
    | ',' :: _ =>
      let c₂ := c₁.advance.skipGaps
      match c₂.rest with
      | [] => c₂.fault .endInValue
      | '"' :: _ =>
        match readKey c₂ with
        | .error f => .error f
        | .ok (key', c₃) => .ok (.next (.object ((key, v) :: members) key' :: fs) c₃)
      | '}' :: _ => c₂.faultAhead .trailingComma
      | _ => c₂.faultAhead .keyNotString
    | _ => c₁.faultAhead .expectedObjectEnd

/-- The value at the cursor if it is no container, otherwise nothing. -/
def readScalar? (c : Cursor) : Option (Reading Value) :=
  match c.rest with
  | 'n' :: _ => some ((readLetters ['u', 'l', 'l'] c.advance).map fun c' => (.null, c'))
  | 't' :: _ => some ((readLetters ['r', 'u', 'e'] c.advance).map fun c' => (.boolean true, c'))
  | 'f' :: _ =>
    some ((readLetters ['a', 'l', 's', 'e'] c.advance).map fun c' => (.boolean false, c'))
  | '"' :: _ => some ((readString [] c.advance).map fun r => (.text r.1, r.2))
  | '-' :: _ => some ((readNumber true c.advance).map fun r => (.number r.1, r.2))
  | a :: _ =>
    if isDigit a then some ((readNumber false c).map fun r => (.number r.1, r.2)) else none
  | [] => none

/-- One step: the value that comes next inside the containers `fs`. Fewer than `limit` containers
may be open at once. -/
def step (limit : Nat) (fs : List Frame) (c : Cursor) : Except Fault Step :=
  let c₁ := c.skipGaps
  match readScalar? c₁ with
  | some (.error f) => .error f
  | some (.ok (v, c₂)) => deliver v fs c₂
  | none =>
    match c₁.rest with
    | [] => c₁.fault .endInValue
    | '[' :: _ =>
      if limit ≤ fs.length + 1 then c₁.faultAhead .tooDeep
      else
        let c₂ := c₁.advance.skipGaps
        match c₂.rest with
        | [] => c₂.fault .endInList
        | ']' :: _ => deliver (.list []) fs c₂.advance
        | _ => .ok (.next (.list [] :: fs) c₂)
    | '{' :: _ =>
      if limit ≤ fs.length + 1 then c₁.faultAhead .tooDeep
      else
        let c₂ := c₁.advance.skipGaps
        match c₂.rest with
        | [] => c₂.fault .endInObject
        | '}' :: _ => deliver (.object []) fs c₂.advance
        | '"' :: _ =>
          match readKey c₂ with
          | .error f => .error f
          | .ok (key, c₃) => .ok (.next (.object [] key :: fs) c₃)
        | _ => c₂.faultAhead .keyNotString
    | _ => c₁.faultAhead .expectedValue

/-! ## Every step leaves less of the text -/

/-- The cursor of a step's outcome. -/
def Step.cursor : Step → Cursor
  | done _ c => c
  | next _ c => c

theorem size_readColon_le {c c' : Cursor} (h : readColon c = .ok c') : c'.size ≤ c.size := by
  have h₁ := c.size_skipGaps_le
  have h₂ := size_advance_le c.skipGaps
  simp only [readColon] at h
  split at h
  · simp [Cursor.fault] at h
  · simp only [Except.ok.injEq] at h
    subst h
    omega
  · simp [Cursor.faultAhead] at h

theorem size_readKey_le {c c' : Cursor} {s : String} (h : readKey c = .ok (s, c')) :
    c'.size ≤ c.size := by
  unfold readKey at h
  split at h
  · cases h
  · rename_i key c₁ hx
    have h₁ := size_readString_lt hx
    have h₂ := size_advance_le c
    cases hc : readColon c₁ with
    | error f => simp [hc, Except.map] at h
    | ok c₂ =>
      have h₃ := size_readColon_le hc
      simp only [hc, Except.map, Except.ok.injEq, Prod.mk.injEq] at h
      obtain ⟨-, rfl⟩ := h
      omega

theorem size_deliver_le {v : Value} {fs : List Frame} {c : Cursor} {s : Step}
    (h : deliver v fs c = .ok s) : s.cursor.size ≤ c.size := by
  have h₁ := c.size_skipGaps_le
  have h₂ := size_advance_le c.skipGaps
  have h₃ := c.skipGaps.advance.size_skipGaps_le
  induction fs generalizing v c with
  | nil =>
    simp only [deliver, Except.ok.injEq] at h
    subst h
    exact Nat.le_refl _
  | cons f fs ih =>
    have close (v : Value) (h : deliver v fs c.skipGaps.advance = .ok s) :
        s.cursor.size ≤ c.size :=
      Nat.le_trans (ih h (Cursor.size_skipGaps_le _) (size_advance_le _)
        (Cursor.size_skipGaps_le _)) (Nat.le_trans h₂ h₁)
    cases f with
    | list items =>
      simp only [deliver] at h
      split at h
      · simp [Cursor.fault] at h
      · exact close _ h
      · split at h
        · simp [Cursor.fault] at h
        · simp [Cursor.faultAhead] at h
        · simp only [Except.ok.injEq] at h
          subst h
          simp only [Step.cursor]
          omega
      · simp [Cursor.faultAhead] at h
    | object members key =>
      simp only [deliver] at h
      split at h
      · simp [Cursor.fault] at h
      · exact close _ h
      · split at h
        · simp [Cursor.fault] at h
        · split at h
          · cases h
          · rename_i hk
            have := size_readKey_le hk
            simp only [Except.ok.injEq] at h
            subst h
            simp only [Step.cursor]
            omega
        · simp [Cursor.faultAhead] at h
        · simp [Cursor.faultAhead] at h
      · simp [Cursor.faultAhead] at h

theorem size_map_lt {α : Type} {r : Reading α} {k : α → Value} {c c' : Cursor} {v : Value}
    (hr : ∀ a c₁, r = .ok (a, c₁) → c₁.size < c.size)
    (h : (r.map fun p => (k p.1, p.2)) = .ok (v, c')) : c'.size < c.size := by
  cases r with
  | error f => cases h
  | ok p =>
    simp only [Except.map, Except.ok.injEq, Prod.mk.injEq] at h
    obtain ⟨-, rfl⟩ := h
    exact hr _ _ rfl

theorem size_letters_lt {ls : List Char} {a : Char} {as : List Char} {c c' : Cursor}
    {v w : Value} (hc : c.rest = a :: as)
    (h : ((readLetters ls c.advance).map fun c' => (w, c')) = .ok (v, c')) :
    c'.size < c.size := by
  have h₁ := Cursor.size_advance_lt hc
  cases hx : readLetters ls c.advance with
  | error f => simp [hx, Except.map] at h
  | ok c₁ =>
    have := size_readLetters_le hx
    simp only [hx, Except.map, Except.ok.injEq, Prod.mk.injEq] at h
    obtain ⟨-, rfl⟩ := h
    omega

theorem size_readScalar_lt {c c' : Cursor} {v : Value}
    (h : readScalar? c = some (.ok (v, c'))) : c'.size < c.size := by
  unfold readScalar? at h
  split at h
  · rename_i heq
    exact size_letters_lt heq (Option.some.inj h)
  · rename_i heq
    exact size_letters_lt heq (Option.some.inj h)
  · rename_i heq
    exact size_letters_lt heq (Option.some.inj h)
  · rename_i heq
    exact size_map_lt (fun _ _ hx =>
      Nat.lt_trans (size_readString_lt hx) (Cursor.size_advance_lt heq)) (Option.some.inj h)
  · rename_i heq
    exact size_map_lt (fun _ _ hx =>
      Nat.lt_trans (size_readNumber_lt hx) (Cursor.size_advance_lt heq)) (Option.some.inj h)
  · split at h
    · exact size_map_lt (fun _ _ hx => size_readNumber_lt hx) (Option.some.inj h)
    · cases h
  · cases h

theorem size_step_lt {limit : Nat} {fs : List Frame} {c : Cursor} {s : Step}
    (h : step limit fs c = .ok s) : s.cursor.size < c.size := by
  have h₁ := c.size_skipGaps_le
  simp only [step] at h
  split at h
  · cases h
  · rename_i hx
    have := size_readScalar_lt hx
    have := size_deliver_le h
    omega
  · split at h
    · simp [Cursor.fault] at h
    · rename_i heq
      have h₂ := Cursor.size_advance_lt heq
      have h₃ := c.skipGaps.advance.size_skipGaps_le
      have h₄ := size_advance_le c.skipGaps.advance.skipGaps
      split at h
      · simp [Cursor.faultAhead] at h
      · split at h
        · simp [Cursor.fault] at h
        · have := size_deliver_le h
          omega
        · simp only [Except.ok.injEq] at h
          subst h
          simp only [Step.cursor]
          omega
    · rename_i heq
      have h₂ := Cursor.size_advance_lt heq
      have h₃ := c.skipGaps.advance.size_skipGaps_le
      have h₄ := size_advance_le c.skipGaps.advance.skipGaps
      split at h
      · simp [Cursor.faultAhead] at h
      · split at h
        · simp [Cursor.fault] at h
        · have := size_deliver_le h
          omega
        · split at h
          · cases h
          · rename_i hk
            have := size_readKey_le hk
            simp only [Except.ok.injEq] at h
            subst h
            simp only [Step.cursor]
            omega
        · simp [Cursor.faultAhead] at h
    · simp [Cursor.faultAhead] at h

/-! ## Whole values -/

/-- The value that completes the containers `fs`. -/
def readWithin (limit : Nat) (fs : List Frame) (c : Cursor) : Reading Value :=
  match _h : step limit fs c with
  | .error f => .error f
  | .ok (.done v c') => .ok (v, c')
  | .ok (.next fs' c') => readWithin limit fs' c'
  termination_by c.size
  decreasing_by exact size_step_lt _h

/-- The value that comes next. -/
def readValue (limit : Nat) (c : Cursor) : Reading Value := readWithin limit [] c

theorem size_readWithin_lt {limit : Nat} {fs : List Frame} {c c' : Cursor} {v : Value}
    (h : readWithin limit fs c = .ok (v, c')) : c'.size < c.size := by
  fun_induction readWithin limit fs c with
  | case1 => cases h
  | case2 fs c v₁ c₁ hs =>
    simp only [Except.ok.injEq, Prod.mk.injEq] at h
    obtain ⟨-, rfl⟩ := h
    exact size_step_lt hs
  | case3 fs c fs₁ c₁ hs ih => exact Nat.lt_trans (ih h) (size_step_lt hs)

/-- Whether nothing but white space is left. -/
def Cursor.finish (c : Cursor) : Except Fault Unit :=
  if c.skipGaps.rest.isEmpty then .ok () else c.skipGaps.faultAhead .trailingCharacters

/-- The value of a whole text. -/
def Value.ofText (s : String) : Except Fault Value :=
  match readValue depthLimit (Cursor.start s) with
  | .error f => .error f
  | .ok (v, c) => c.finish.map fun _ => v

end PagePrep.Json
