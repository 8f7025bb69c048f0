import PagePrep.Page.LineKind
import PagePrep.Proofs.Text.LineEnding

/-!
# Marks, fences, headers and blanks exclude each other

A line is at most one of marker, fence, header and blank line, and which one it is does not depend
on a carriage return at its end.
-/

set_option autoImplicit false

namespace PagePrep

open Text

variable {line : String} {c : Char} {cs : List Char}

/-! ## What a line starts with -/

theorem trimEnd_cons (h : isSpace c = false) : ∃ ds, trimEnd (c :: cs) = c :: ds := by
  unfold trimEnd
  rw [List.reverse_cons, List.dropWhile_append]
  split
  · exact ⟨[], by simp [h]⟩
  · exact ⟨_, by rw [List.reverse_append]; rfl⟩

theorem toList_trim_cons (hl : line.toList = c :: cs) (h : isSpace c = false) :
    ∃ ds, (trim line).toList = c :: ds := by
  have hs : trimStart line.toList = c :: cs := by simp [hl, trimStart, h]
  obtain ⟨ds, hd⟩ : ∃ ds, trimEnd (c :: cs) = c :: ds := trimEnd_cons h
  exact ⟨ds, by rw [trim, hs, hd, String.toList_ofList]⟩

theorem not_isBlank_cons (hl : line.toList = c :: cs) (h : isSpace c = false) :
    isBlank line = false := by
  simp [isBlank, hl, h]

theorem isFence_start (h : isFence line = true) : ∃ cs, line.toList = '\x60' :: cs := by
  obtain ⟨cs, hcs⟩ := List.isPrefixOf_iff_prefix.1 h
  exact ⟨'\x60' :: '\x60' :: cs, by rw [← hcs]; rfl⟩

theorem isHeader_start (h : isHeader line = true) : ∃ cs, line.toList = '#' :: cs := by
  unfold isHeader at h
  split at h
  · exact ⟨_, by assumption⟩
  · cases h

theorem Marker.toList_sentinel (m : Marker) : ∃ cs, m.sentinel.toList = '[' :: cs := by
  cases m <;> exact ⟨_, rfl⟩

/-! ## What a line holds -/

theorem mem_dropWhile_isSpace (hc : c ∈ cs) (h : isSpace c = false) : c ∈ cs.dropWhile isSpace := by
  rw [← List.takeWhile_append_dropWhile (p := isSpace) (l := cs), List.mem_append] at hc
  rcases hc with ht | hd
  · have hs : isSpace c = true := List.all_eq_true.1 List.all_takeWhile c ht
    rw [hs] at h
    cases h
  · exact hd

/-- Trimming takes nothing but white space. -/
theorem mem_trim (hc : c ∈ line.toList) (h : isSpace c = false) : c ∈ (trim line).toList := by
  simp only [trim, trimEnd, trimStart, String.toList_ofList, List.mem_reverse]
  apply mem_dropWhile_isSpace _ h
  rw [List.mem_reverse]
  exact mem_dropWhile_isSpace hc h

theorem not_isBlank_of_mem (hc : c ∈ line.toList) (h : isSpace c = false) :
    isBlank line = false := by
  rw [Bool.eq_false_iff]
  intro hb
  rw [isBlank, List.all_eq_true] at hb
  rw [hb c hc] at h
  cases h

theorem Marker.not_isOn_of_mem {m : Marker} (hc : c ∈ line.toList) (h : isSpace c = false)
    (hm : c ∉ m.sentinel.toList) : m.isOn line = false := by
  rw [Bool.eq_false_iff]
  intro ho
  rw [isOn, beq_iff_eq] at ho
  exact hm (ho ▸ mem_trim hc h)

/-! ## Exclusion -/

theorem not_isBlank_of_isFence (h : isFence line = true) : isBlank line = false := by
  obtain ⟨cs, hl⟩ := isFence_start h
  exact not_isBlank_cons hl (by decide)

theorem not_isBlank_of_isHeader (h : isHeader line = true) : isBlank line = false := by
  obtain ⟨cs, hl⟩ := isHeader_start h
  exact not_isBlank_cons hl (by decide)

theorem not_isFence_of_isHeader (h : isHeader line = true) : isFence line = false := by
  rw [Bool.eq_false_iff]
  intro hf
  obtain ⟨cs, hl⟩ := isHeader_start h
  obtain ⟨ds, hd⟩ := isFence_start hf
  rw [hl] at hd
  exact absurd (List.cons.inj hd).1 (by decide)

theorem not_isHeader_of_isFence (h : isFence line = true) : isHeader line = false := by
  rw [Bool.eq_false_iff]
  intro hh
  rw [not_isFence_of_isHeader hh] at h
  cases h

theorem not_isFence_of_isBlank (h : isBlank line = true) : isFence line = false := by
  rw [Bool.eq_false_iff]
  intro hf
  rw [not_isBlank_of_isFence hf] at h
  cases h

namespace Marker

variable {m k : Marker}

theorem eq_of_isOn (hm : m.isOn line = true) (hk : k.isOn line = true) : m = k := by
  simp only [isOn, beq_iff_eq] at hm hk
  exact sentinel_injective (hm.symm.trans hk)

/-- A line that starts with anything but a bracket or white space holds no marker. -/
theorem not_isOn_of_start (hl : line.toList = c :: cs) (h : isSpace c = false)
    (hc : c ≠ '[') : m.isOn line = false := by
  rw [Bool.eq_false_iff]
  intro ho
  obtain ⟨ds, hd⟩ := toList_trim_cons hl h
  obtain ⟨es, he⟩ := m.toList_sentinel
  simp only [isOn, beq_iff_eq] at ho
  rw [ho, he] at hd
  exact hc (List.cons.inj hd).1.symm

theorem not_isOn_of_isFence (h : isFence line = true) : m.isOn line = false := by
  obtain ⟨cs, hl⟩ := isFence_start h
  exact not_isOn_of_start hl (by decide) (by decide)

theorem not_isOn_of_isHeader (h : isHeader line = true) : m.isOn line = false := by
  obtain ⟨cs, hl⟩ := isHeader_start h
  exact not_isOn_of_start hl (by decide) (by decide)

theorem not_isOn_of_isBlank (h : isBlank line = true) : m.isOn line = false := by
  have ht : trimStart line.toList = [] := trimStart_eq_nil_iff.2 h
  rw [Bool.eq_false_iff]
  intro ho
  simp only [isOn, trim, ht, beq_iff_eq] at ho
  cases m <;> simp [sentinel, trimEnd] at ho

theorem not_isFence_of_isOn (h : m.isOn line = true) : isFence line = false := by
  rw [Bool.eq_false_iff]
  intro hf
  rw [not_isOn_of_isFence hf] at h
  cases h

theorem not_isHeader_of_isOn (h : m.isOn line = true) : isHeader line = false := by
  rw [Bool.eq_false_iff]
  intro hf
  rw [not_isOn_of_isHeader hf] at h
  cases h

@[simp] theorem isOn_sentinel (m : Marker) : m.isOn m.sentinel = true := by
  cases m <;> decide

@[simp] theorem isOn_empty (m : Marker) : m.isOn "" = false := not_isOn_of_isBlank rfl

theorem isOn_chomp (m : Marker) (line : String) : m.isOn (chomp line) = m.isOn line := by
  rw [isOn, isOn, trim_chomp]

end Marker

/-! ## The carriage return at the end -/

theorem isFence_chomp (line : String) : isFence (chomp line) = isFence line := by
  unfold isFence
  rcases toList_chomp line with he | he <;> rw [he]
  rw [Bool.eq_iff_iff, List.isPrefixOf_iff_prefix, List.isPrefixOf_iff_prefix,
    List.prefix_concat_iff]
  constructor
  · exact .inr
  · rintro (h | h)
    · have hl : '\r' ∈ ['\x60', '\x60', '\x60'] := by
        rw [h]
        simp
      simp at hl
    · exact h

theorem closesHeaderSign_concat (n : Nat) (cs : List Char) :
    closesHeaderSign n (cs ++ ['\r']) = closesHeaderSign n cs := by
  induction cs generalizing n with
  | nil => cases n <;> simp [closesHeaderSign]
  | cons c cs ih =>
    rw [List.cons_append]
    unfold closesHeaderSign
    split <;> simp_all

theorem isHeader_chomp (line : String) : isHeader (chomp line) = isHeader line := by
  unfold isHeader
  rcases toList_chomp line with he | he <;> rw [he]
  cases (chomp line).toList with
  | nil => rfl
  | cons c cs =>
    by_cases hc : c = '#'
    · subst hc
      exact (closesHeaderSign_concat 3 cs).symm
    · simp [hc]

end PagePrep
