import PagePrep.Json.Sequence
import PagePrep.Notebook.Basic

/-!
# Reading notebooks

A notebook is a record of its cells and a cell a record of its kind and its source. Members of
other names may stand anywhere and are skipped. A cell without a source has no lines.
-/

set_option autoImplicit false

namespace PagePrep

open Json

namespace Source

/-- The source of a cell that gives none. -/
def empty : Source := .lines []

/-- The source that a value stands for: a list of strings or one string. -/
def ofValue? : Value → Option Source
  | .list vs => (vs.mapM Value.text?).map .lines
  | .text s => some (.text s)
  | _ => none

/-- The source that comes next. It stands inside three containers. -/
def read (c : Cursor) : Inside Source :=
  match readValue (depthLimit - 3) c with
  | .error f => .error (.placed f)
  | .ok (v, c₁) =>
    match ofValue? v with
    | some s => .ok (s, c₁)
    | none => .error (.unplaced (.noVariant "CellSource") c₁)

theorem size_read_le {c c' : Cursor} {s : Source} (h : read c = .ok (s, c')) :
    c'.size ≤ c.size := by
  unfold read at h
  split at h
  · cases h
  · rename_i hv
    split at h
    · simp only [Except.ok.injEq, Prod.mk.injEq] at h
      obtain ⟨-, rfl⟩ := h
      exact Nat.le_of_lt (size_readWithin_lt hv)
    · cases h

end Source

namespace Cell

/-- The fields of a cell that have been read. -/
structure Fields where
  kind : Option String
  source : Option Source
  deriving DecidableEq, Repr

/-- The kind that comes next. -/
def readKind (c : Cursor) : Inside String := placed (readText c)

/-- One more member of a cell. -/
def takeMember (s : Fields) (name : String) (c : Cursor) : Inside Fields :=
  if name = "cell_type" then
    match s.kind with
    | some _ => .error (.unplaced (.duplicateField "cell_type") c)
    | none => (readMember readKind c).map fun r => ({ s with kind := some r.1 }, r.2)
  else if name = "source" then
    match s.source with
    | some _ => .error (.unplaced (.duplicateField "source") c)
    | none => (readMember Source.read c).map fun r => ({ s with source := some r.1 }, r.2)
  else (skipMember c).map fun c₁ => (s, c₁)

theorem size_readKind_le {c c' : Cursor} {s : String} (h : readKind c = .ok (s, c')) :
    c'.size ≤ c.size := by
  cases hr : readText c with
  | error f => simp [readKind, placed, hr] at h
  | ok r =>
    simp only [readKind, placed, hr, Except.ok.injEq] at h
    subst h
    exact Nat.le_of_lt (size_readText_lt hr)

theorem size_takeMember_le (s : Fields) (name : String) (c : Cursor) (s' : Fields) (c' : Cursor)
    (h : takeMember s name c = .ok (s', c')) : c'.size ≤ c.size := by
  unfold takeMember at h
  split at h
  · split at h
    · cases h
    · exact size_map_le (fun _ _ hx => size_readMember_le (fun _ _ _ => size_readKind_le) hx) h
  · split at h
    · split at h
      · cases h
      · exact size_map_le
          (fun _ _ hx => size_readMember_le (fun _ _ _ => Source.size_read_le) hx) h
    · exact size_skipMember_map_le h

/-- A cell given as an object, behind its opening bracket. -/
def readMembersOf (c : Cursor) : Inside Cell :=
  match readMembers takeMember size_takeMember_le true ⟨none, none⟩ c with
  | .error e => .error e
  | .ok (s, c₁) =>
    match s.kind with
    | none => .error (.unplaced (.missingField "cell_type") c₁)
    | some kind => .ok (⟨kind, s.source.getD .empty⟩, c₁)

/-- The source of a cell given as a list, if there is one, behind its kind. -/
def readSecond (c : Cursor) : Inside Source :=
  match nextItem false c with
  | .error f => .error (.placed f)
  | .ok (false, c₁) => .ok (.empty, c₁)
  | .ok (true, c₁) => Source.read c₁

/-- A cell given as a list of its kind and its source, behind its opening bracket. -/
def readItemsOf (c : Cursor) : Inside Cell :=
  match nextItem true c with
  | .error f => .error (.placed f)
  | .ok (false, c₁) => .error (.unplaced (.invalidLength 0 "struct Cell with 2 elements") c₁)
  | .ok (true, c₁) =>
    match readKind c₁ with
    | .error e => .error e
    | .ok (kind, c₂) => (readSecond c₂).map fun r => (⟨kind, r.1⟩, r.2)

/-- The cell that comes next. -/
def read (c : Cursor) : Reading Cell := readRecord "struct Cell" readItemsOf readMembersOf c

theorem size_readMembersOf_le {c c' : Cursor} {v : Cell} (h : readMembersOf c = .ok (v, c')) :
    c'.size ≤ c.size := by
  unfold readMembersOf at h
  split at h
  · cases h
  · rename_i hm
    split at h
    · cases h
    · simp only [Except.ok.injEq, Prod.mk.injEq] at h
      obtain ⟨-, rfl⟩ := h
      exact size_readMembers_le hm

theorem size_readSecond_le {c c' : Cursor} {v : Source} (h : readSecond c = .ok (v, c')) :
    c'.size ≤ c.size := by
  unfold readSecond at h
  split at h
  · cases h
  · rename_i hn
    simp only [Except.ok.injEq, Prod.mk.injEq] at h
    obtain ⟨-, rfl⟩ := h
    exact size_nextItem_le hn
  · rename_i hn
    exact Nat.le_trans (Source.size_read_le h) (size_nextItem_le hn)

theorem size_readItemsOf_le {c c' : Cursor} {v : Cell} (h : readItemsOf c = .ok (v, c')) :
    c'.size ≤ c.size := by
  unfold readItemsOf at h
  split at h
  · cases h
  · cases h
  · rename_i hn
    split at h
    · cases h
    · rename_i hk
      exact size_map_le (fun _ _ hx => Nat.le_trans (size_readSecond_le hx)
        (Nat.le_trans (size_readKind_le hk) (size_nextItem_le hn))) h

theorem size_read_lt (c : Cursor) (v : Cell) (c' : Cursor) (h : read c = .ok (v, c')) :
    c'.size < c.size :=
  size_readRecord_lt (fun _ _ _ => size_readItemsOf_le) (fun _ _ _ => size_readMembersOf_le) h

end Cell

namespace Notebook

/-- The cells that come next. -/
def readCells (c : Cursor) : Inside (List Cell) :=
  placed (readList Cell.read Cell.size_read_lt c)

/-- One more member of a notebook, whose cells may have been read. -/
def takeMember (cells : Option (List Cell)) (name : String) (c : Cursor) :
    Inside (Option (List Cell)) :=
  if name = "cells" then
    match cells with
    | some _ => .error (.unplaced (.duplicateField "cells") c)
    | none => (readMember readCells c).map fun r => (some r.1, r.2)
  else (skipMember c).map fun c₁ => (cells, c₁)

theorem size_readCells_le {c c' : Cursor} {v : List Cell} (h : readCells c = .ok (v, c')) :
    c'.size ≤ c.size := by
  cases hr : readList Cell.read Cell.size_read_lt c with
  | error f => simp [readCells, placed, hr] at h
  | ok r =>
    simp only [readCells, placed, hr, Except.ok.injEq] at h
    subst h
    exact Nat.le_of_lt (size_readList_lt hr)

theorem size_takeMember_le (s : Option (List Cell)) (name : String) (c : Cursor)
    (s' : Option (List Cell)) (c' : Cursor) (h : takeMember s name c = .ok (s', c')) :
    c'.size ≤ c.size := by
  unfold takeMember at h
  split at h
  · split at h
    · cases h
    · exact size_map_le
        (fun _ _ hx => size_readMember_le (fun _ _ _ => size_readCells_le) hx) h
  · exact size_skipMember_map_le h

/-- A notebook given as an object, behind its opening bracket. -/
def readMembersOf (c : Cursor) : Inside Notebook :=
  match readMembers takeMember size_takeMember_le true none c with
  | .error e => .error e
  | .ok (none, c₁) => .error (.unplaced (.missingField "cells") c₁)
  | .ok (some cells, c₁) => .ok (⟨cells⟩, c₁)

/-- A notebook given as a list that holds the list of its cells, behind its opening bracket. -/
def readItemsOf (c : Cursor) : Inside Notebook :=
  match nextItem true c with
  | .error f => .error (.placed f)
  | .ok (false, c₁) => .error (.unplaced (.invalidLength 0 "struct Notebook with 1 element") c₁)
  | .ok (true, c₁) => (readCells c₁).map fun r => (⟨r.1⟩, r.2)

/-- The notebook that a JSON text stands for. -/
def ofJson (s : String) : Except Fault Notebook :=
  match readRecord "struct Notebook" readItemsOf readMembersOf (Cursor.start s) with
  | .error f => .error f
  | .ok (n, c) => c.finish.map fun _ => n

end Notebook

end PagePrep
