import PagePrep.Json.Text
import PagePrep.Proofs.Json.Grammar

/-!
# Strings read and skipped

A reader moves along a written text, and its cursor counts the bytes. Each spelling of a character is
read as that character (`readString_spells`), and so is a string spelled in any way (`Quoted.read`).
-/

set_option autoImplicit false

namespace PagePrep.Json

variable {c d e : Char} {g cs ds rest held : List Char} {n k : Nat}

/-! ## Bytes and white space -/

@[simp] theorem byteCount_nil : byteCount [] = 0 := rfl

@[simp] theorem byteCount_cons (c : Char) (cs : List Char) :
    byteCount (c :: cs) = c.utf8Size + byteCount cs := rfl

@[simp] theorem byteCount_append (cs ds : List Char) :
    byteCount (cs ++ ds) = byteCount cs + byteCount ds := by
  rw [byteCount, List.map_append]
  exact List.sum_append_nat

/-- The characters between the parts of a text take one byte each. -/
theorem utf8Size_signs : (',' : Char).utf8Size = 1 ∧ (':' : Char).utf8Size = 1 ∧
    ('[' : Char).utf8Size = 1 ∧ (']' : Char).utf8Size = 1 ∧ ('{' : Char).utf8Size = 1 ∧
    ('}' : Char).utf8Size = 1 := by decide

namespace Cursor

theorem isGap_of_mem (hg : Gap g) (hc : c ∈ g) : isGap c = true := by
  rcases hg c hc with rfl | rfl | rfl | rfl <;> rfl

/-- White space in front is passed over. -/
theorem skipGaps_gap (hg : Gap g) (rest : List Char) (n : Nat) :
    skipGaps ⟨g ++ rest, n⟩ = skipGaps ⟨rest, n + byteCount g⟩ := by
  induction g generalizing n with
  | nil => rfl
  | cons c g ih =>
    have hc : isGap c = true := isGap_of_mem hg (by simp)
    have htail : Gap g := fun d hd => hg d (List.mem_cons_of_mem c hd)
    have hstep : skipGaps ⟨c :: (g ++ rest), n⟩ = skipGaps ⟨g ++ rest, n + c.utf8Size⟩ := by
      simp only [skipGaps, skipGapsFrom, hc, if_true]
    rw [List.cons_append, hstep, ih htail, byteCount_cons, Nat.add_assoc]

/-- No further than to a character that is not white space. -/
theorem skipGaps_solid (hc : isGap c = false) (cs : List Char) (n : Nat) :
    skipGaps ⟨c :: cs, n⟩ = ⟨c :: cs, n⟩ := by
  simp [skipGaps, skipGapsFrom, hc]

theorem skipGaps_before (hg : Gap g) (hc : isGap c = false) (cs : List Char) (n : Nat) :
    skipGaps ⟨g ++ c :: cs, n⟩ = ⟨c :: cs, n + byteCount g⟩ := by
  rw [skipGaps_gap hg, skipGaps_solid hc]

end Cursor

/-! ## Escapes -/

theorem IsHexDigit.value (h : IsHexDigit n d) : Text.hexValue? d = some n := by
  have hall : ∀ n < 16, Text.hexValue? (Nat.digitChar n) = some n ∧
      Text.hexValue? (Nat.digitChar n).toUpper = some n := by decide
  obtain ⟨hn, rfl | rfl⟩ := h
  · exact (hall n hn).1
  · exact (hall n hn).2

theorem IsHexDigit.utf8Size (h : IsHexDigit n d) : d.utf8Size = 1 := by
  have hall : ∀ n < 16, (Nat.digitChar n).utf8Size = 1 ∧
      (Nat.digitChar n).toUpper.utf8Size = 1 := by decide
  obtain ⟨hn, rfl | rfl⟩ := h
  · exact (hall n hn).1
  · exact (hall n hn).2

theorem HexCode.byteCount (h : HexCode k ds) : byteCount ds = 4 := by
  obtain ⟨h₁, h₂, h₃, h₄, -⟩ := h
  simp [h₁.utf8Size, h₂.utf8Size, h₃.utf8Size, h₄.utf8Size]

theorem readHex_code (h : HexCode k ds) (rest : List Char) (n : Nat) :
    readHex ⟨ds ++ rest, n⟩ = .ok (k, ⟨rest, n + 4⟩) := by
  have hb := h.byteCount
  obtain ⟨h₁, h₂, h₃, h₄, rfl⟩ := h
  simp only [readHex, List.cons_append, List.nil_append, List.take_succ_cons, List.take_zero, hb,
    Nat.lt_irrefl, if_false, h₁.value, h₂.value, h₃.value, h₄.value]

/-- A short escape stands for its character. -/
theorem plainEscape?_of_mem (h : (c, e) ∈ shortEscapes) :
    plainEscape? e = some c ∧ e.utf8Size = 1 ∧ e ≠ 'u' := by
  have hall : ∀ p ∈ shortEscapes,
      plainEscape? p.2 = some p.1 ∧ p.2.utf8Size = 1 ∧ p.2 ≠ 'u' := by decide
  exact hall (c, e) h

theorem toNat_lt (c : Char) : c.toNat < 0xd800 ∨ 0xdfff < c.toNat ∧ c.toNat < 0x110000 :=
  c.valid

theorem readEscape_short (h : (c, e) ∈ shortEscapes) (rest : List Char) (n : Nat) :
    readEscape ⟨e :: rest, n⟩ = .ok (c, ⟨rest, n + 1⟩) := by
  obtain ⟨he, -, hu⟩ := plainEscape?_of_mem h
  unfold readEscape
  split
  · next heq => cases heq
  · next heq =>
    cases heq
    exact absurd rfl hu
  · next heq =>
    cases heq
    rw [he]

theorem readEscape_code (h : HexCode c.toNat ds) (rest : List Char) (n : Nat) :
    readEscape ⟨'u' :: (ds ++ rest), n⟩ = .ok (c, ⟨rest, n + 5⟩) := by
  have hc := toNat_lt c
  have htrail : isTrailSurrogate c.toNat = false := by
    simp only [isTrailSurrogate, Bool.and_eq_false_iff, decide_eq_false_iff_not]
    omega
  have hlead : isLeadSurrogate c.toNat = false := by
    simp only [isLeadSurrogate, Bool.and_eq_false_iff, decide_eq_false_iff_not]
    omega
  simp only [readEscape, readHex_code h, htrail, hlead, Bool.false_eq_true, if_false,
    Char.ofNat_toNat]

/-- A character beyond the first plane is read from its two halves. -/
theorem readEscape_pair {es : List Char} (wide : 0x10000 ≤ c.toNat)
    (lead : HexCode (0xd800 + (c.toNat - 0x10000) / 0x400) ds)
    (trail : HexCode (0xdc00 + (c.toNat - 0x10000) % 0x400) es) (rest : List Char) (n : Nat) :
    readEscape ⟨'u' :: (ds ++ '\\' :: 'u' :: (es ++ rest)), n⟩ = .ok (c, ⟨rest, n + 11⟩) := by
  have hc := toNat_lt c
  have hnot : isTrailSurrogate (0xd800 + (c.toNat - 0x10000) / 0x400) = false := by
    simp only [isTrailSurrogate, Bool.and_eq_false_iff, decide_eq_false_iff_not]
    omega
  have hlead : isLeadSurrogate (0xd800 + (c.toNat - 0x10000) / 0x400) = true := by
    simp only [isLeadSurrogate, Bool.and_eq_true, decide_eq_true_eq]
    omega
  have htrail : isTrailSurrogate (0xdc00 + (c.toNat - 0x10000) % 0x400) = true := by
    simp only [isTrailSurrogate, Bool.and_eq_true, decide_eq_true_eq]
    omega
  have hboth : ofSurrogates (0xd800 + (c.toNat - 0x10000) / 0x400)
      (0xdc00 + (c.toNat - 0x10000) % 0x400) = c := by
    have hcode : (0xd800 + (c.toNat - 0x10000) / 0x400 - 0xd800) * 0x400 +
        (0xdc00 + (c.toNat - 0x10000) % 0x400 - 0xdc00) + 0x10000 = c.toNat := by omega
    rw [ofSurrogates, hcode, Char.ofNat_toNat]
  simp only [readEscape, readHex_code lead, readTrail, readHex_code trail, hnot, hlead, htrail, hboth,
    Bool.false_eq_true, if_false, if_true]

/-! ## Strings -/

theorem readString_quote (held rest : List Char) (n : Nat) :
    readString held ⟨'"' :: rest, n⟩ = .ok (String.ofList held.reverse, ⟨rest, n + 1⟩) := by
  rw [readString, if_pos rfl]

theorem readString_escape {m : Nat} (h : readEscape ⟨cs, n + 1⟩ = .ok (c, ⟨rest, m⟩)) :
    readString held ⟨'\\' :: cs, n⟩ = readString (c :: held) ⟨rest, m⟩ := by
  rw [readString, if_neg (by decide), if_pos rfl]
  split
  · next hx =>
    rw [h] at hx
    cases hx
  · next hx =>
    rw [h] at hx
    cases hx
    rfl

/-- Every spelling of a character is read as that character. -/
theorem readString_spells (h : Spells c cs) (held rest : List Char) (n : Nat) :
    readString held ⟨cs ++ rest, n⟩ = readString (c :: held) ⟨rest, n + byteCount cs⟩ := by
  cases h with
  | plain low quote backslash =>
    rw [List.singleton_append, readString, if_neg quote, if_neg backslash, if_neg (by omega)]
    rfl
  | short h =>
    rw [List.cons_append, List.singleton_append, readString_escape (readEscape_short h rest (n + 1))]
    have hsize := (plainEscape?_of_mem h).2.1
    rw [byteCount_cons, byteCount_cons, hsize]
    rfl
  | code h =>
    rw [List.cons_append, List.cons_append, readString_escape (readEscape_code h rest (n + 1)),
      byteCount_cons, byteCount_cons, h.byteCount]
    rfl
  | pair wide lead trail =>
    simp only [List.cons_append, List.append_assoc]
    rw [readString_escape (readEscape_pair wide lead trail rest (n + 1))]
    simp only [byteCount_cons, byteCount_append, lead.byteCount, trail.byteCount]
    rfl

theorem readString_spellings {s : List Char} {spellings : List (List Char)}
    (h : List.Forall₂ Spells s spellings) (held rest : List Char) (n : Nat) :
    readString held ⟨spellings.flatten ++ '"' :: rest, n⟩ =
      .ok (String.ofList (held.reverse ++ s), ⟨rest, n + byteCount spellings.flatten + 1⟩) := by
  induction h generalizing held n with
  | nil => rw [List.flatten_nil, List.nil_append, readString_quote, List.append_nil]; rfl
  | cons hc _ ih =>
    rw [List.flatten_cons, List.append_assoc, readString_spells hc, ih, byteCount_append]
    simp [Nat.add_assoc]

/-- A written string starts with a quote, and behind it the string is read. -/
theorem Quoted.read {s : String} (h : Quoted s cs) :
    ∃ t, cs = '"' :: t ∧ ∀ rest n,
      readString [] ⟨t ++ rest, n⟩ = .ok (s, ⟨rest, n + byteCount t⟩) := by
  obtain ⟨spellings, hs, rfl⟩ := h
  refine ⟨_, rfl, fun rest n => ?_⟩
  rw [List.append_assoc, List.singleton_append, readString_spellings hs, byteCount_append,
    Nat.add_assoc]
  simp only [List.reverse_nil, List.nil_append, String.ofList_toList]
  rfl

/-! ## Strings skipped -/

theorem skipString_escape {m : Nat} (h : skipEscape ⟨cs, n + 1⟩ = .ok ⟨rest, m⟩) :
    skipString ⟨'\\' :: cs, n⟩ = skipString ⟨rest, m⟩ := by
  rw [skipString, if_neg (by decide), if_pos rfl]
  split
  · next hx =>
    rw [h] at hx
    cases hx
  · next hx =>
    rw [h] at hx
    cases hx
    rfl

theorem skipString_spelling (h : SpellingForm cs) (rest : List Char) (n : Nat) :
    skipString ⟨cs ++ rest, n⟩ = skipString ⟨rest, n + byteCount cs⟩ := by
  cases h with
  | plain low quote backslash =>
    rw [List.singleton_append, skipString, if_neg quote, if_neg backslash, if_neg (by omega)]
    rfl
  | @short c e h =>
    obtain ⟨he, hsize, hu⟩ := plainEscape?_of_mem h
    have hskip : skipEscape ⟨e :: rest, n + 1⟩ = .ok ⟨rest, n + 2⟩ := by
      unfold skipEscape
      split
      · next heq => cases heq
      · next heq =>
        cases heq
        exact absurd rfl hu
      · next heq =>
        cases heq
        rw [he]
    rw [List.cons_append, List.singleton_append, skipString_escape hskip, byteCount_cons,
      byteCount_cons, hsize]
    rfl
  | @code k ds h =>
    have hskip : skipEscape ⟨'u' :: (ds ++ rest), n + 1⟩ = .ok ⟨rest, n + 6⟩ := by
      simp only [skipEscape, readHex_code h, Except.map]
    rw [List.cons_append, List.cons_append, skipString_escape hskip, byteCount_cons, byteCount_cons,
      h.byteCount]
    rfl

/-- A text with the form of a string starts with a quote, and behind it the text is skipped. -/
theorem QuotedForm.skip (h : QuotedForm cs) :
    ∃ t, cs = '"' :: t ∧ ∀ rest n, skipString ⟨t ++ rest, n⟩ = .ok ⟨rest, n + byteCount t⟩ := by
  obtain ⟨spellings, hs, rfl⟩ := h
  refine ⟨_, rfl, fun rest n => ?_⟩
  induction spellings generalizing n with
  | nil =>
    rw [List.flatten_nil, List.nil_append, List.singleton_append, skipString, if_pos rfl]
    rfl
  | cons p ps ih =>
    rw [List.flatten_cons, List.append_assoc, List.append_assoc, skipString_spelling (hs p (by simp)),
      ← List.append_assoc, ih fun q hq => hs q (List.mem_cons_of_mem p hq)]
    simp [Nat.add_assoc]

end PagePrep.Json
