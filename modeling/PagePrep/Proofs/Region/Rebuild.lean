import PagePrep.Proofs.Page.Rereading
import PagePrep.Proofs.Region.Layout
import Mathlib.Data.List.Chain

/-!
# Regions of a marked page

A line that opens or closes a region is neither blank nor a separator, so that marking a page keeps
its layout. If the regions of the marked page are filled again with what filled them before, the
page is read into the same pieces (`Layout.exists_rebuilt`).
-/

set_option autoImplicit false

namespace PagePrep

open Text

namespace RegionKind

variable {kind : RegionKind} {line : String}

/-- The words that open and close regions are in upper case, and share a letter. -/
theorem mem_of_not_isPlain (h : kind.isPlain line = false) : 'E' ∈ line.toList := by
  have word {w : String} (hw : 'E' ∈ w.toList) (hc : contains line w = true) : 'E' ∈ line.toList :=
    (contains_iff_isInfix.1 hc).subset hw
  rw [isPlain, Bool.and_eq_false_iff, Bool.not_eq_false', Bool.not_eq_false'] at h
  rcases h with ho | hc
  · exact word (by cases kind <;> decide) ho
  · exact word (by cases kind <;> decide) hc

theorem not_isBlank_of_not_isPlain (h : kind.isPlain line = false) : isBlank line = false :=
  not_isBlank_of_mem (mem_of_not_isPlain h) (by decide)

theorem not_isOn_of_not_isPlain (m : Marker) (h : kind.isPlain line = false) :
    m.isOn line = false :=
  Marker.not_isOn_of_mem (mem_of_not_isPlain h) (by decide) (by cases m <;> decide)

theorem not_isPlain_of_opens (h : kind.opens line = true) : kind.isPlain line = false := by
  simp [isPlain, h]

theorem not_isPlain_of_closes (h : kind.closes line = true) : kind.isPlain line = false := by
  simp [isPlain, h]

/-- The lines written with a header that opens a context open and close no region. -/
theorem isPlain_of_block (kind : RegionKind)
    (h : line = Marker.separator.sentinel ∨ line = "") : kind.isPlain line = true := by
  rcases h with rfl | rfl <;> cases kind <;> decide

end RegionKind

/-- **One region.** The lines above a region, the region and what follows are read one after the
other. What is written for the lines above it may stand in their place, unless the last of them is a
separator, and what follows may be any lines that are read alike. -/
theorem exists_region {kind : RegionKind} {opening closing : String} (before : Lookback)
    (inCode : Bool) (above inner : List String) (ho : kind.opens opening = true)
    (hc : kind.closes closing = true) :
    ∃ above' inner' before' inCode',
      (∀ k ∈ above', k ∈ above ∨ k = Marker.separator.sentinel ∨ k = "") ∧
      (∀ k ∈ inner', k ∈ inner ∨ k = Marker.separator.sentinel ∨ k = "") ∧
      (∀ below,
        Piece.allLines (Piece.tidied before inCode
            (above ++ opening :: (inner ++ closing :: below))) =
          above' ++ opening :: (inner' ++ closing ::
            Piece.allLines (Piece.tidied before' inCode' below))) ∧
      (above.getLast?.any Marker.separator.isOn = false → ∀ below below',
        Piece.tidied before' inCode' below' = Piece.tidied before' inCode' below →
        Piece.tidied before inCode (above' ++ opening :: (inner ++ closing :: below')) =
          Piece.tidied before inCode (above ++ opening :: (inner ++ closing :: below))) := by
  have ho' := RegionKind.not_isPlain_of_opens ho
  have hc' := RegionKind.not_isPlain_of_closes hc
  have hos := RegionKind.not_isOn_of_not_isPlain .separator ho'
  have hcs := RegionKind.not_isOn_of_not_isPlain .separator hc'
  have hob := RegionKind.not_isBlank_of_not_isPlain ho'
  have hcb := RegionKind.not_isBlank_of_not_isPlain hc'
  obtain ⟨ks, hk, hkm, hrep⟩ := Piece.exists_replacement hos hob before inCode above
  generalize hb₁ : before.pushAll (above ++ [opening]) = before₁
  generalize hc₁ : codeAfter inCode (above ++ [opening]) = inCode₁
  obtain ⟨is, hi, him, -⟩ := Piece.exists_replacement hcs hcb before₁ inCode₁ inner
  generalize hb₂ : before₁.pushAll (inner ++ [closing]) = before₂
  generalize hc₂ : codeAfter inCode₁ (inner ++ [closing]) = inCode₂
  have cut (below : List String) :
      Piece.tidied before inCode (above ++ opening :: (inner ++ closing :: below)) =
        Piece.tidied before inCode (above ++ [opening]) ++
          (Piece.tidied before₁ inCode₁ (inner ++ [closing]) ++
            Piece.tidied before₂ inCode₂ below) := by
    rw [Piece.tidied_cut hos hob, hb₁, hc₁, Piece.tidied_cut hcs hcb, hb₂, hc₂]
  refine ⟨ks, is, before₂, inCode₂, hkm, him, ?_, ?_⟩
  · intro below
    rw [cut, Piece.allLines_append, Piece.allLines_append, hk, hi]
    simp
  · intro hls below below' h
    rw [hrep hls, cut, cut, h]

namespace Layout

variable {kind : RegionKind} {L : Layout} {body : String → List String}

/-- A marked page has the layout it had before it was marked, with the same opening lines. Filled
with what filled them before, its regions lead to the same pieces again. -/
theorem exists_rebuilt (hL : L.Fits kind)
    (hb : ∀ o ∈ L.openings, ∀ l ∈ body o, kind.isPlain l = true)
    (hc : L.lines.IsChain fun k l => kind.opens l = true → Marker.separator.isOn k = false)
    (before : Lookback) (inCode : Bool) :
    ∃ K : Layout, K.Fits kind ∧ K.openings = L.openings ∧
      (∀ l ∈ K.outside, l ∈ L.outside ∨ l = Marker.separator.sentinel ∨ l = "") ∧
      K.lines = Piece.allLines (Piece.tidied before inCode (L.fill body).lines) ∧
      Piece.tidied before inCode (K.fill body).lines =
        Piece.tidied before inCode (L.fill body).lines := by
  have plain {ls ks : List String} (hp : ∀ l ∈ ls, kind.isPlain l = true)
      (hk : ∀ k ∈ ks, k ∈ ls ∨ k = Marker.separator.sentinel ∨ k = "") :
      ∀ k ∈ ks, kind.isPlain k = true := by
    intro k hm
    rcases hk k hm with h | h
    · exact hp k h
    · exact kind.isPlain_of_block h
  induction hL generalizing before inCode with
  | @page below hp =>
    have hm : ∀ l ∈ Piece.allLines (Piece.tidied before inCode below),
        l ∈ below ∨ l = Marker.separator.sentinel ∨ l = "" := fun l => Piece.mem_allLines_tidied
    exact ⟨.page _, .page (plain hp hm), rfl, hm, rfl,
      Piece.tidied_allLines_tidied before inCode below⟩
  | @region above opening inner closing rest ha ho hi hn hcl hr ih =>
    obtain ⟨-, hc', hlast⟩ := List.isChain_append.1 hc
    have hls : above.getLast?.any Marker.separator.isOn = false := by
      cases hl : above.getLast? with
      | none => rfl
      | some a => exact hlast a hl opening rfl ho
    have hrest : rest.lines.IsChain fun k l =>
        kind.opens l = true → Marker.separator.isOn k = false :=
      (List.isChain_append.1 hc'.tail).2.1.tail
    obtain ⟨ks, is, before', inCode', hkm, him, hw, hrep⟩ :=
      exists_region before inCode above (body opening) ho hcl
    obtain ⟨K, hK, hKo, hKout, hKl, hKr⟩ :=
      ih (fun o h => hb o (List.mem_cons_of_mem _ h)) hrest before' inCode'
    refine ⟨.region ks opening is closing K, ?_, ?_, ?_, ?_, ?_⟩
    · exact .region (plain ha hkm) ho (plain (hb opening (by simp [openings])) him) hn hcl hK
    · rw [openings, openings, hKo]
    · simp only [outside, List.mem_append, List.mem_cons]
      rintro l (hl | rfl | rfl | hl)
      · exact (hkm l hl).imp_left .inl
      · exact .inl (.inr (.inl rfl))
      · exact .inl (.inr (.inr (.inl rfl)))
      · exact (hKout l hl).imp_left fun h => .inr (.inr (.inr h))
    · rw [fill, lines, lines, hw, hKl]
    · rw [fill, fill, lines, lines]
      exact hrep hls _ _ hKr

end Layout

end PagePrep
