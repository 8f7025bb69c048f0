import PagePrep.Notebook.Reader
import PagePrep.Proofs.Json.RecordText

/-!
# Notebooks decoded

A notebook may be written with its members in any order, further members among them, white space between
all parts and its strings spelled in any way. However it is written, the same cells are read. The members
of a cell lead from no field to all of its fields (`leads_cell`), whatever their order, since each field
is given once.
-/

set_option autoImplicit false

namespace PagePrep

open Json

/-- A cell as a notebook gives it, which may be without a source. -/
structure CellEntry where
  kind : String
  source : Option Source
  deriving DecidableEq, Repr

/-- The cell: one that gives no source has no lines. -/
def CellEntry.cell (e : CellEntry) : Cell := ⟨e.kind, e.source.getD (.lines [])⟩

/-! ## Texts of notebooks -/

/-- A text of a source in the form that it has. -/
inductive SourceText : Source → List Char → Prop
  | lines {ls : List String} {items : List (List Char)} {t : List Char} (h : Parts items t)
      (hs : List.Forall₂ Quoted ls items) : SourceText (.lines ls) ('[' :: (t ++ [']']))
  | text {s : String} {cs : List Char} (h : Quoted s cs) : SourceText (.text s) cs

/-- A text of a cell: an object with its kind and its source, if it has one, and further members. -/
inductive CellText (e : CellEntry) (cs : List Char) : Prop
  | object (ms : List NamedMember) (text : ObjectText ms cs)
      (kind : List.Forall₂ Quoted [e.kind] (valuesOf "cell_type" ms))
      (source : List.Forall₂ SourceText e.source.toList (valuesOf "source" ms))
      (further : ∀ m ∈ ms, m.name ≠ "cell_type" → m.name ≠ "source" → ValueForm m.value)

/-- A text of the list of some cells. -/
inductive CellsText (es : List CellEntry) : List Char → Prop
  | list {items : List (List Char)} {t : List Char} (h : Parts items t)
      (hs : List.Forall₂ CellText es items) : CellsText es ('[' :: (t ++ [']']))

/-- A text of a notebook: an object with its cells and further members. -/
inductive NotebookText (es : List CellEntry) : List Char → Prop
  | object {g o g' : List Char} (before : Gap g) (after : Gap g') (ms : List NamedMember)
      (text : ObjectText ms o) (cells : List.Forall₂ CellsText [es] (valuesOf "cells" ms))
      (further : ∀ m ∈ ms, m.name ≠ "cells" → ValueForm m.value) : NotebookText es (g ++ (o ++ g'))

/-! ## Fields given once -/

section Fields

variable {α : Type} {R : α → List Char → Prop} {o : Option α} {name : String} {m : NamedMember}
  {ms : List NamedMember}

theorem valuesOf_cons_eq (h : m.name = name) :
    valuesOf name (m :: ms) = m.value :: valuesOf name ms := by
  simp [valuesOf, h]

theorem valuesOf_cons_ne (h : m.name ≠ name) : valuesOf name (m :: ms) = valuesOf name ms := by
  simp [valuesOf, h]

/-- A field that a member gives is given by no further member. -/
theorem exists_of_given (h : List.Forall₂ R o.toList (m.value :: valuesOf name ms)) :
    ∃ a, o = some a ∧ R a m.value ∧ List.Forall₂ R (none : Option α).toList (valuesOf name ms) := by
  cases o with
  | none => cases h
  | some a =>
    cases h with
    | cons ha hrest => exact ⟨a, rfl, ha, hrest⟩

end Fields

/-! ## Sources -/

theorem mapM_text?_texts (ls : List String) : (ls.map Value.text).mapM Value.text? = some ls := by
  induction ls with
  | nil => rfl
  | cons s ls ih => simp [Value.text?, ih]

theorem reads_source {s : Source} {cs : List Char} (h : SourceText s cs) :
    Reads Source.read cs s := by
  intro g rest n hg hr
  cases h with
  | @lines ls items t h hs =>
    have hlimit : 1 < depthLimit - 3 := by decide
    have hread := reads_readValue_texts h hs hlimit g rest n hg hr
    simp only [Source.read, hread, Source.ofValue?, mapM_text?_texts]
    rfl
  | text h =>
    have hread := reads_readValue_text h (depthLimit - 3) g rest n hg hr
    simp only [Source.read, hread, Source.ofValue?]

/-! ## Cells -/

namespace Cell

variable {s : Fields} {m : NamedMember}

theorem reads_takeMember_kind {k : String} (hs : s.kind = none) (h : Quoted k m.value) :
    Reads (takeMember s "cell_type") (':' :: (m.after ++ m.value)) { s with kind := some k } := by
  have hread := (reads_readMember (reads_readText h).placed m.gap_after).map
    fun k => ({ s with kind := some k } : Fields)
  intro g rest n hg hr
  rw [takeMember, if_pos rfl, hs]
  exact hread g rest n hg hr

theorem reads_takeMember_source {src : Source} (hs : s.source = none) (h : SourceText src m.value) :
    Reads (takeMember s "source") (':' :: (m.after ++ m.value)) { s with source := some src } := by
  have hread := (reads_readMember (reads_source h) m.gap_after).map
    fun src => ({ s with source := some src } : Fields)
  intro g rest n hg hr
  rw [takeMember, if_neg (by decide), if_pos rfl, hs]
  exact hread g rest n hg hr

theorem reads_takeMember_further (hk : m.name ≠ "cell_type") (hs : m.name ≠ "source")
    (h : ValueForm m.value) :
    Reads (takeMember s m.name) (':' :: (m.after ++ m.value)) s := by
  intro g rest n hg hr
  rw [takeMember, if_neg hk, if_neg hs]
  exact reads_skipMember h m.gap_after s g rest n hg hr

/-- The members lead to the fields that were there or that they give. -/
theorem leads_cell {ms : List NamedMember} {kind : Option String} {source : Option Source}
    (hkind : List.Forall₂ Quoted kind.toList (valuesOf "cell_type" ms))
    (hsource : List.Forall₂ SourceText source.toList (valuesOf "source" ms))
    (further : ∀ m ∈ ms, m.name ≠ "cell_type" → m.name ≠ "source" → ValueForm m.value)
    (hk : s.kind = none ∨ kind = none) (hs : s.source = none ∨ source = none) :
    Leads takeMember s ms ⟨s.kind.or kind, s.source.or source⟩ := by
  induction ms generalizing s kind source with
  | nil =>
    obtain rfl : kind = none := by simpa [valuesOf] using hkind
    obtain rfl : source = none := by simpa [valuesOf] using hsource
    rw [Option.or_none, Option.or_none]
    exact .nil s
  | cons m ms ih =>
    have hmore : ∀ k ∈ ms, k.name ≠ "cell_type" → k.name ≠ "source" → ValueForm k.value :=
      fun k hm => further k (List.mem_cons_of_mem m hm)
    by_cases hname : m.name = "cell_type"
    · -- The kind is given here, so no member before gave it and none behind does.
      rw [valuesOf_cons_eq hname] at hkind
      rw [valuesOf_cons_ne (by rw [hname]; decide)] at hsource
      obtain ⟨k, rfl, hm, hrest⟩ := exists_of_given hkind
      have hnone : s.kind = none := hk.resolve_right (by simp)
      have hread := reads_takeMember_kind (m := m) hnone hm
      rw [← hname] at hread
      have hlead := Leads.cons hread (ih hrest hsource hmore (.inr rfl) hs)
      simpa [hnone] using hlead
    · rw [valuesOf_cons_ne hname] at hkind
      by_cases hname' : m.name = "source"
      · rw [valuesOf_cons_eq hname'] at hsource
        obtain ⟨src, rfl, hm, hrest⟩ := exists_of_given hsource
        have hnone : s.source = none := hs.resolve_right (by simp)
        have hread := reads_takeMember_source (m := m) hnone hm
        rw [← hname'] at hread
        have hlead := Leads.cons hread (ih hkind hrest hmore hk (.inr rfl))
        simpa [hnone] using hlead
      · rw [valuesOf_cons_ne hname'] at hsource
        exact Leads.cons
          (reads_takeMember_further hname hname' (further m (by simp) hname hname'))
          (ih hkind hsource hmore hk hs)

/-- A written cell is read as the cell that it gives. -/
theorem reads_cell {e : CellEntry} {cs : List Char} (h : CellText e cs) :
    Reads Cell.read cs e.cell := by
  obtain ⟨ms, ho, hkind, hsource, further⟩ := h
  refine reads_readRecord ho fun t rest n ht => ?_
  have hgiven : List.Forall₂ Quoted (some e.kind).toList (valuesOf "cell_type" ms) := hkind
  have hlead : Leads takeMember ⟨none, none⟩ ms ⟨some e.kind, e.source⟩ :=
    leads_cell hgiven hsource further (.inl rfl) (.inl rfl)
  simp only [readMembersOf, readMembers_parts ht hlead]
  rfl

end Cell

theorem CellText.starts {e : CellEntry} {cs : List Char} (h : CellText e cs) : Starts cs := by
  obtain ⟨_, ⟨t, -, rfl⟩, -, -, -⟩ := h
  exact ⟨'{', _, rfl, rfl, by decide⟩

/-! ## Notebooks -/

namespace Notebook

variable {m : NamedMember} {es : List CellEntry} {cells : Option (List Cell)}

theorem reads_cells {cs : List Char} (h : CellsText es cs) :
    Reads readCells cs (es.map CellEntry.cell) := by
  obtain @⟨items, t, hp, hs⟩ := h
  have hitems : List.Forall₂ (fun i c => Starts i ∧ Reads Cell.read i c) items
      (es.map CellEntry.cell) := by
    rw [List.forall₂_map_right_iff]
    exact (hs.imp fun _ _ he => ⟨he.starts, Cell.reads_cell he⟩).flip
  obtain ⟨hstarts, hreads⟩ := (List.forall₂_and_left items _).1 hitems
  exact (reads_readList hp hstarts hreads).placed

theorem reads_takeMember_cells (h : CellsText es m.value) :
    Reads (takeMember none "cells") (':' :: (m.after ++ m.value)) (some (es.map CellEntry.cell)) := by
  have hread := (reads_readMember (reads_cells h) m.gap_after).map some
  intro g rest n hg hr
  rw [takeMember, if_pos rfl]
  exact hread g rest n hg hr

theorem reads_takeMember_further (hc : m.name ≠ "cells") (h : ValueForm m.value) :
    Reads (takeMember cells m.name) (':' :: (m.after ++ m.value)) cells := by
  intro g rest n hg hr
  unfold takeMember
  rw [if_neg hc]
  exact reads_skipMember h m.gap_after cells g rest n hg hr

/-- The members lead to the cells that were there or that they give. -/
theorem leads_notebook {ms : List NamedMember} {given : Option (List CellEntry)}
    (hcells : List.Forall₂ CellsText given.toList (valuesOf "cells" ms))
    (further : ∀ m ∈ ms, m.name ≠ "cells" → ValueForm m.value)
    (hc : cells = none ∨ given = none) :
    Leads takeMember cells ms (cells.or (given.map fun es => es.map CellEntry.cell)) := by
  induction ms generalizing cells given with
  | nil =>
    obtain rfl : given = none := by simpa [valuesOf] using hcells
    rw [Option.map_none, Option.or_none]
    exact .nil cells
  | cons m ms ih =>
    have hmore : ∀ k ∈ ms, k.name ≠ "cells" → ValueForm k.value :=
      fun k hm => further k (List.mem_cons_of_mem m hm)
    by_cases hname : m.name = "cells"
    · rw [valuesOf_cons_eq hname] at hcells
      obtain ⟨es, rfl, hm, hrest⟩ := exists_of_given hcells
      obtain rfl : cells = none := hc.resolve_right (by simp)
      have hread := reads_takeMember_cells (m := m) hm
      rw [← hname] at hread
      exact Leads.cons hread (ih hrest hmore (.inr rfl))
    · rw [valuesOf_cons_ne hname] at hcells
      exact Leads.cons (reads_takeMember_further hname (further m (by simp) hname))
        (ih hcells hmore hc)

theorem reads_notebook {ms : List NamedMember} {cs : List Char} (ho : ObjectText ms cs)
    (hcells : List.Forall₂ CellsText [es] (valuesOf "cells" ms))
    (further : ∀ m ∈ ms, m.name ≠ "cells" → ValueForm m.value) :
    Reads (readRecord "struct Notebook" readItemsOf readMembersOf) cs
      ⟨es.map CellEntry.cell⟩ := by
  refine reads_readRecord ho fun t rest n ht => ?_
  have hgiven : List.Forall₂ CellsText (some es).toList (valuesOf "cells" ms) := hcells
  have hlead : Leads takeMember none ms (some (es.map CellEntry.cell)) :=
    leads_notebook hgiven further (.inl rfl)
  simp only [readMembersOf, readMembers_parts ht hlead]

end Notebook

/-! ## Every notebook has a text -/

theorem exists_sourceText (s : Source) : ∃ cs, SourceText s cs := by
  cases s with
  | lines ls =>
    obtain ⟨items, hitems⟩ := exists_forall₂ exists_quoted ls
    obtain ⟨t, ht⟩ := exists_parts items
    exact ⟨_, .lines ht hitems⟩
  | text s =>
    obtain ⟨cs, hcs⟩ := exists_quoted s
    exact ⟨cs, .text hcs⟩

theorem exists_cellText (e : CellEntry) : ∃ cs, CellText e cs := by
  obtain ⟨kind, source⟩ := e
  obtain ⟨k, hk⟩ := exists_quoted kind
  obtain ⟨mk, hmk, rfl⟩ := exists_member "cell_type" k
  cases source with
  | none =>
    obtain ⟨cs, hcs⟩ := exists_objectText [mk]
    refine ⟨cs, .object [mk] hcs ?_ ?_ ?_⟩
    · simpa [valuesOf, hmk] using hk
    · simp [valuesOf, hmk]
    · simp [hmk]
  | some s =>
    obtain ⟨v, hv⟩ := exists_sourceText s
    obtain ⟨ms, hms, rfl⟩ := exists_member "source" v
    obtain ⟨cs, hcs⟩ := exists_objectText [mk, ms]
    refine ⟨cs, .object [mk, ms] hcs ?_ ?_ ?_⟩
    · simpa [valuesOf, hmk, hms] using hk
    · simpa [valuesOf, hmk, hms] using hv
    · simp [hmk, hms]

theorem exists_notebookText (es : List CellEntry) : ∃ text : String, NotebookText es text.toList := by
  obtain ⟨items, hitems⟩ := exists_forall₂ exists_cellText es
  obtain ⟨t, ht⟩ := exists_parts items
  obtain ⟨m, hm, hv⟩ := exists_member "cells" ('[' :: (t ++ [']']))
  obtain ⟨o, ho⟩ := exists_objectText [m]
  have hcells : List.Forall₂ CellsText [es] (valuesOf "cells" [m]) := by
    rw [valuesOf_cons_eq hm, hv]
    exact .cons (.list ht hitems) .nil
  have htext : NotebookText es ([] ++ (o ++ [])) :=
    .object gap_nil gap_nil [m] ho hcells (by simp [hm])
  exact ⟨String.ofList ([] ++ (o ++ [])), by rwa [String.toList_ofList]⟩

/-- **Decoding undoes every way to write a notebook.** Any list of cells can be written, and from each
text of it the same cells are read in order, with their sources in the same form; a cell that gives no
source has no lines. -/
theorem written_notebook_reads_back (es : List CellEntry) :
    (∃ text : String, NotebookText es text.toList) ∧
      ∀ text : String, NotebookText es text.toList →
        Notebook.ofJson text = .ok ⟨es.map CellEntry.cell⟩ := by
  refine ⟨exists_notebookText es, fun text h => ?_⟩
  generalize hcs : text.toList = cs at h
  obtain @⟨g, o, g', hg, hg', ms, ho, hcells, further⟩ := h
  have hend : Delimited g' := by
    have hnil : Delimited (g' ++ []) := hg'.delimited_append (by simp [Delimited])
    rwa [List.append_nil] at hnil
  have hread := Notebook.reads_notebook ho hcells further g g' 0 hg hend
  rw [Notebook.ofJson, Cursor.start, hcs, hread]
  simp only [finish_gap hg', Except.map]

/-! ## A notebook with all of it -/

theorem quoted_of_spells {s : String} {cs : List Char} {spellings : List (List Char)}
    (hs : s.toList = cs) (h : List.Forall₂ Spells cs spellings) :
    Quoted s ('"' :: (spellings.flatten ++ ['"'])) :=
  ⟨spellings, hs ▸ h, rfl⟩

theorem quoted_plain {s : String} (h : ∀ c ∈ s.toList, 32 ≤ c.toNat ∧ c ≠ '"' ∧ c ≠ '\\') :
    Quoted s ('"' :: (s.toList ++ ['"'])) := by
  refine ⟨s.toList.map fun c => [c], ?_, by rw [← List.flatMap_def, List.flatMap_singleton']⟩
  rw [List.forall₂_map_right_iff, List.forall₂_same]
  intro c hc
  obtain ⟨low, quote, backslash⟩ := h c hc
  exact .plain low quote backslash

/-- A member without white space, its name written as it is. -/
def plainMember (name : String) (value : List Char)
    (h : ∀ c ∈ name.toList, 32 ≤ c.toNat ∧ c ≠ '"' ∧ c ≠ '\\') : NamedMember :=
  ⟨⟨'"' :: (name.toList ++ ['"']), [], [], value, gap_nil, gap_nil⟩, name, quoted_plain h⟩

def mixedEntries : List CellEntry :=
  [⟨"markdown", some (.text "😀/")⟩, ⟨"raw", none⟩, ⟨"code", some (.lines ["a\n", "\""])⟩]

def furtherText : String := "[1E400,\x7b\"\\ud800\":\x7b\x7d\x7d]"

def markdownText : String :=
  "\x7b\"source\":\"\\uD83d\\ude00\\/\",\"id\":null,\"cell_type\":\"markdown\"\x7d"

def rawText : String := "\x7b\"cell_type\":\"raw\"\x7d"

def codeText : String := "\x7b\"cell_type\":\"code\",\"source\":[\"a\\n\",\"\\\"\"]\x7d"

/-- A text of these cells with members in other orders, a number out of range and half of a surrogate
pair in a further member, a surrogate pair and further escapes in strings, one of them in a name. -/
def mixedText : String :=
  "\x7b\"x\":" ++ furtherText ++ ",\"c\\u0065lls\" : [\n\t" ++ markdownText ++ "," ++ rawText ++
    " , " ++ codeText ++ "]\x7d\n"

theorem valueForm_further : ValueForm furtherText.toList := by
  have hwhole : WholeForm ['1'] := .nonzero (by simp [Digits]) (by decide)
  have hexponent : ExponentForm ['E', '4', '0', '0'] := .plain (.inr rfl) (by simp [Digits])
  have hnumber : ValueForm ['1', 'E', '4', '0', '0'] := .number (.positive hwhole .absent hexponent)
  have hcode : HexCode 0xd800 ['d', '8', '0', '0'] := hexCode_lower 13 8 0 0 (by decide)
  have hkey : QuotedForm ['"', '\\', 'u', 'd', '8', '0', '0', '"'] :=
    ⟨[['\\', 'u', 'd', '8', '0', '0']], by simpa using SpellingForm.code hcode, rfl⟩
  have hnone : Parts (List.map Member.text []) [] := .empty gap_nil
  have hempty : ValueForm ['{', '}'] := .object hnone (by simp) (by simp)
  have hmember : Parts (List.map Member.text [⟨['"', '\\', 'u', 'd', '8', '0', '0', '"'], [], [],
      ['{', '}'], gap_nil, gap_nil⟩]) _ := .parts gap_nil (.close gap_nil)
  have hobject : ValueForm _ := .object hmember (by simpa using hkey) (by simpa using hempty)
  have hlist : ValueForm _ := .list (.parts gap_nil (.more gap_nil gap_nil (.close gap_nil)))
    (by simpa using ⟨hnumber, hobject⟩)
  simpa [furtherText, Member.text, Member.tail] using hlist

theorem cellText_markdown :
    CellText ⟨"markdown", some (.text "😀/")⟩ markdownText.toList := by
  have hupper : IsHexDigit 13 'D' := ⟨by decide, .inr rfl⟩
  have hlower (n : Nat) (h : n < 16) : IsHexDigit n (Nat.digitChar n) := ⟨h, .inl rfl⟩
  have hlead : HexCode (0xd800 + ('😀'.toNat - 0x10000) / 0x400) ['D', '8', '3', 'd'] :=
    .digits hupper (hlower 8 (by decide)) (hlower 3 (by decide)) (hlower 13 (by decide)) (by decide)
  have htrail : HexCode (0xdc00 + ('😀'.toNat - 0x10000) % 0x400) ['d', 'e', '0', '0'] :=
    hexCode_lower 13 14 0 0 (by decide)
  have hspelled : List.Forall₂ Spells ['😀', '/']
      ['\\' :: 'u' :: (['D', '8', '3', 'd'] ++ ['\\', 'u', 'd', 'e', '0', '0']), ['\\', '/']] :=
    .cons (.pair (by decide) hlead htrail) (.cons (.short (by decide)) .nil)
  have hsource : Quoted "😀/" _ := quoted_of_spells (by simp) hspelled
  refine .object [plainMember "source" "\"\\uD83d\\ude00\\/\"".toList (by simp),
    plainMember "id" "null".toList (by simp), plainMember "cell_type" "\"markdown\"".toList (by simp)]
    ⟨_, .parts gap_nil (.more gap_nil gap_nil (.more gap_nil gap_nil (.close gap_nil))), ?_⟩ ?_ ?_ ?_
  · simp [markdownText, plainMember, Member.text, Member.tail]
  · simpa [valuesOf, plainMember] using quoted_plain (s := "markdown") (by simp)
  · simpa [valuesOf, plainMember] using SourceText.text hsource
  · simpa [plainMember] using ValueForm.word (w := ['n', 'u', 'l', 'l']) (by decide)

theorem cellText_raw : CellText ⟨"raw", none⟩ rawText.toList := by
  refine .object [plainMember "cell_type" "\"raw\"".toList (by simp)]
    ⟨_, .parts gap_nil (.close gap_nil), ?_⟩ ?_ ?_ ?_
  · simp [rawText, plainMember, Member.text, Member.tail]
  · simpa [valuesOf, plainMember] using quoted_plain (s := "raw") (by simp)
  · simp [valuesOf, plainMember]
  · simp [plainMember]

theorem cellText_code : CellText ⟨"code", some (.lines ["a\n", "\""])⟩ codeText.toList := by
  have hspelled : List.Forall₂ Spells ['a', '\n'] [['a'], ['\\', 'n']] :=
    .cons (.plain (by decide) (by decide) (by decide)) (.cons (.short (by decide)) .nil)
  have ha : Quoted "a\n" _ := quoted_of_spells (by simp) hspelled
  have hescaped : List.Forall₂ Spells ['"'] [['\\', '"']] := .cons (.short (by decide)) .nil
  have hquote : Quoted "\"" _ := quoted_of_spells (by simp) hescaped
  have hsource : SourceText (.lines ["a\n", "\""]) _ :=
    .lines (.parts gap_nil (.more gap_nil gap_nil (.close gap_nil))) (.cons ha (.cons hquote .nil))
  refine .object [plainMember "cell_type" "\"code\"".toList (by simp),
    plainMember "source" "[\"a\\n\",\"\\\"\"]".toList (by simp)]
    ⟨_, .parts gap_nil (.more gap_nil gap_nil (.close gap_nil)), ?_⟩ ?_ ?_ ?_
  · simp [codeText, plainMember, Member.text, Member.tail]
  · simpa [valuesOf, plainMember] using quoted_plain (s := "code") (by simp)
  · simpa [valuesOf, plainMember] using hsource
  · simp [plainMember]

theorem cellsText_mixed : CellsText mixedEntries ('[' :: (['\n', '\t'] ++ (markdownText.toList ++
    ([] ++ ',' :: ([] ++ (rawText.toList ++ ([' '] ++ ',' :: ([' '] ++ (codeText.toList ++ [])))))))
      ++ [']'])) :=
  .list (.parts (by decide) (.more gap_nil gap_nil (.more (by decide) (by decide) (.close gap_nil))))
    (.cons cellText_markdown (.cons cellText_raw (.cons cellText_code .nil)))

/-- The name `cells` with one letter escaped. -/
theorem quoted_cells : Quoted "cells" ['"', 'c', '\\', 'u', '0', '0', '6', '5', 'l', 'l', 's', '"'] := by
  have hcode : HexCode 'e'.toNat ['0', '0', '6', '5'] := hexCode_lower 0 0 6 5 (by decide)
  have hplain (c : Char) (h : c ∈ ['c', 'l', 's']) : Spells c [c] := by
    simp only [List.mem_cons, List.not_mem_nil, or_false] at h
    rcases h with rfl | rfl | rfl <;> exact .plain (by decide) (by decide) (by decide)
  have hspelled : List.Forall₂ Spells ['c', 'e', 'l', 'l', 's']
      [['c'], ['\\', 'u', '0', '0', '6', '5'], ['l'], ['l'], ['s']] :=
    .cons (hplain _ (by decide)) (.cons (.code hcode) (.cons (hplain _ (by decide))
      (.cons (hplain _ (by decide)) (.cons (hplain _ (by decide)) .nil))))
  exact quoted_of_spells (by simp) hspelled

theorem notebookText_mixed : NotebookText mixedEntries mixedText.toList := by
  have hobject : NotebookText mixedEntries ([] ++ (_ ++ ['\n'])) :=
    .object gap_nil (by decide) [plainMember "x" furtherText.toList (by simp),
        ⟨⟨_, [' '], [' '], _, by decide, by decide⟩, "cells", quoted_cells⟩]
      ⟨_, .parts gap_nil (.more gap_nil gap_nil (.close gap_nil)), rfl⟩
      (by simpa [valuesOf, plainMember] using cellsText_mixed)
      (by simpa [plainMember] using valueForm_further)
  simpa [mixedText, plainMember, Member.text, Member.tail] using hobject

theorem written_notebook_reads_back_mixed :
    NotebookText mixedEntries mixedText.toList ∧
      Notebook.ofJson mixedText =
        .ok ⟨[⟨"markdown", .text "😀/"⟩, ⟨"raw", .lines []⟩, ⟨"code", .lines ["a\n", "\""]⟩]⟩ :=
  ⟨notebookText_mixed, (written_notebook_reads_back mixedEntries).2 _ notebookText_mixed⟩

end PagePrep
