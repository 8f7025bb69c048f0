import PagePrep.Json.Skip
import PagePrep.Proofs.Json.StringText

/-!
# Values skipped

A text with the form of a value is skipped, whatever it holds and however deep its containers stand in
each other. `ValueForm.skipped` tells it of a value inside open containers, by induction over the form:
skipping goes on behind the value as `resume` does.
-/

set_option autoImplicit false

namespace PagePrep.Json

variable {c : Char} {g g' cs ds rest t v w : List Char} {items ps : List (List Char)} {n : Nat}
  {bs : List Bracket}

/-! ## What follows a value -/

/-- Nothing is to come, or else something that ends a number. -/
def Delimited (rest : List Char) : Prop :=
  ∀ c ∈ rest.head?, Cursor.isGap c = true ∨ c = ',' ∨ c = ']' ∨ c = '}'

theorem delimited_cons (h : c = ',' ∨ c = ']' ∨ c = '}') : Delimited (c :: rest) := by
  intro d hd
  obtain rfl : c = d := by simpa using hd
  exact .inr h

theorem Gap.delimited_append (hg : Gap g) (h : Delimited rest) : Delimited (g ++ rest) := by
  cases g with
  | nil => exact h
  | cons c g =>
    intro d hd
    obtain rfl : c = d := by simpa using hd
    exact .inl (Cursor.isGap_of_mem hg (by simp))

theorem Continued.delimited_append (h : Continued ps t) (hr : Delimited rest) :
    Delimited (t ++ rest) := by
  cases h with
  | close hg => exact hg.delimited_append hr
  | more hg _ _ =>
    rw [List.append_assoc]
    exact hg.delimited_append (delimited_cons (.inl rfl))

/-! ## Numbers -/

/-- No digit comes next. -/
def NoDigit (rest : List Char) : Prop := ∀ c ∈ rest.head?, isDigit c = false

theorem noDigit_cons (h : isDigit c = false) : NoDigit (c :: rest) := by
  intro d hd
  obtain rfl : c = d := by simpa using hd
  exact h

theorem Delimited.noDigit (h : Delimited rest) : NoDigit rest := by
  intro c hc
  rcases h c hc with hg | rfl | rfl | rfl
  · simp only [Cursor.isGap, Bool.or_eq_true, beq_iff_eq] at hg
    rcases hg with ((rfl | rfl) | rfl) | rfl <;> rfl
  · rfl
  · rfl
  · rfl

theorem Delimited.head_ne (h : Delimited (c :: rest)) : c ≠ '.' ∧ c ≠ 'e' ∧ c ≠ 'E' := by
  rcases h c rfl with hg | rfl | rfl | rfl
  · simp only [Cursor.isGap, Bool.or_eq_true, beq_iff_eq] at hg
    rcases hg with ((rfl | rfl) | rfl) | rfl <;> decide
  all_goals decide

theorem Digits.isDigit (h : Digits ds) : ∀ d ∈ ds, isDigit d = true := by
  intro d hd
  simpa [Json.isDigit] using h.2 d hd

theorem utf8Size_of_isDigit (h : isDigit c = true) : c.utf8Size = 1 := by
  have hc : c ≤ '9' := by
    simp only [isDigit, Bool.and_eq_true, decide_eq_true_eq] at h
    exact h.2
  have h9 : c.val ≤ 57 := hc
  rw [Char.utf8Size_eq_one_iff]
  exact UInt32.le_trans h9 (by decide)

theorem byteCount_digits (h : ∀ d ∈ ds, isDigit d = true) : byteCount ds = ds.length := by
  induction ds with
  | nil => rfl
  | cons d ds ih =>
    rw [byteCount_cons, utf8Size_of_isDigit (h d (by simp)),
      ih fun x hx => h x (List.mem_cons_of_mem d hx), List.length_cons, Nat.add_comm]

theorem takeDigits_digits (h : Digits ds) (hr : NoDigit rest) (n : Nat) :
    takeDigits ⟨ds ++ rest, n⟩ = (ds, ⟨rest, n + byteCount ds⟩) := by
  have htake : rest.takeWhile isDigit = [] := by
    cases rest with
    | nil => rfl
    | cons c rest => rw [List.takeWhile_cons_of_neg (by simp [hr c rfl])]
  have hdrop : rest.dropWhile isDigit = rest := by
    cases rest with
    | nil => rfl
    | cons c rest => rw [List.dropWhile_cons_of_neg (by simp [hr c rfl])]
  simp only [takeDigits, List.takeWhile_append_of_pos h.isDigit, List.dropWhile_append_of_pos h.isDigit,
    htake, hdrop, List.append_nil, byteCount_digits h.isDigit]

theorem skipExponent_digits (h : Digits ds) (hr : NoDigit rest) {c : Cursor}
    (hc : (takeSign c).2 = ⟨ds ++ rest, n⟩) :
    skipExponent c = .ok ⟨rest, n + byteCount ds⟩ := by
  have hne : ds.isEmpty = false := by simpa using h.1
  simp only [skipExponent, hc, takeDigits_digits h hr, hne, Bool.false_eq_true, if_false]

theorem takeSign_digits (h : Digits ds) (rest : List Char) (n : Nat) :
    (takeSign ⟨ds ++ rest, n⟩).2 = ⟨ds ++ rest, n⟩ := by
  obtain ⟨hne, hd⟩ := h
  cases ds with
  | nil => exact absurd rfl hne
  | cons d ds =>
    have hlow := (hd d (by simp)).1
    unfold takeSign
    split
    · next heq =>
      cases heq
      exact absurd hlow (by decide)
    · next heq =>
      cases heq
      exact absurd hlow (by decide)
    · rfl

theorem skipScale_exponent {e : List Char} (h : ExponentForm e) (hr : Delimited rest) (n : Nat) :
    skipScale ⟨e ++ rest, n⟩ = .ok ⟨rest, n + byteCount e⟩ := by
  cases h with
  | absent =>
    unfold skipScale
    split
    · next heq =>
      obtain rfl : rest = _ := heq
      exact absurd rfl hr.head_ne.2.1
    · next heq =>
      obtain rfl : rest = _ := heq
      exact absurd rfl hr.head_ne.2.2
    · rfl
  | @plain e ds he hds =>
    have hskip : skipExponent ⟨ds ++ rest, n + 1⟩ = .ok ⟨rest, n + 1 + byteCount ds⟩ :=
      skipExponent_digits hds hr.noDigit (takeSign_digits hds rest (n + 1))
    rcases he with rfl | rfl
    all_goals
      rw [byteCount_cons, ← Nat.add_assoc]
      exact hskip
  | @signed e s ds he hs hds =>
    have hskip : skipExponent ⟨s :: (ds ++ rest), n + 1⟩ = .ok ⟨rest, n + 2 + byteCount ds⟩ := by
      refine skipExponent_digits hds hr.noDigit ?_
      rcases hs with rfl | rfl <;> rfl
    have hsize : byteCount (e :: s :: ds) = 2 + byteCount ds := by
      rcases he with rfl | rfl <;> rcases hs with rfl | rfl <;>
        simp only [byteCount_cons, ← Nat.add_assoc] <;> rfl
    rw [hsize, ← Nat.add_assoc]
    rcases he with rfl | rfl <;> exact hskip

theorem ExponentForm.noDigit_append {e : List Char} (h : ExponentForm e) (hr : Delimited rest) :
    NoDigit (e ++ rest) := by
  cases h with
  | absent => exact hr.noDigit
  | plain he _ => rcases he with rfl | rfl <;> exact noDigit_cons rfl
  | signed he _ _ => rcases he with rfl | rfl <;> exact noDigit_cons rfl

theorem ExponentForm.head_ne {e : List Char} (h : ExponentForm e) (hr : Delimited rest)
    (he : e ++ rest = c :: cs) : c ≠ '.' := by
  cases h with
  | absent =>
    obtain rfl : rest = c :: cs := he
    exact hr.head_ne.1
  | plain hc _ =>
    cases he
    rcases hc with rfl | rfl <;> decide
  | signed hc _ _ =>
    cases he
    rcases hc with rfl | rfl <;> decide

theorem WholeForm.digits (h : WholeForm w) : Digits w := by
  cases h with
  | zero => simp [Digits]
  | nonzero h _ => exact h

/-- A zero in front stands alone. -/
theorem WholeForm.exists_cons (h : WholeForm w) :
    ∃ d ds, w = d :: ds ∧ ¬(d = '0' ∧ (d :: ds).length ≠ 1) := by
  cases h with
  | zero => exact ⟨'0', [], rfl, by simp⟩
  | @nonzero d ds _ hd => exact ⟨d, ds, rfl, fun hz => hd hz.1⟩

theorem skipNumber_whole (hw : WholeForm w) (hr : NoDigit rest)
    (hp : ∀ c ∈ rest.head?, c ≠ '.') (n : Nat) :
    skipNumber ⟨w ++ rest, n⟩ = skipScale ⟨rest, n + byteCount w⟩ := by
  have htake := takeDigits_digits hw.digits hr n
  obtain ⟨d, ds, rfl, hd⟩ := hw.exists_cons
  simp only [skipNumber, htake, if_neg hd]
  split
  · exact absurd rfl (hp '.' rfl)
  · rfl

theorem skipNumber_fraction (hw : WholeForm w) (hds : Digits ds) (hr : NoDigit rest) (n : Nat) :
    skipNumber ⟨w ++ '.' :: (ds ++ rest), n⟩ =
      skipScale ⟨rest, n + byteCount w + 1 + byteCount ds⟩ := by
  have hpoint : NoDigit ('.' :: (ds ++ rest)) := noDigit_cons rfl
  have htake := takeDigits_digits hw.digits hpoint n
  have hne : ds.isEmpty = false := by simpa using hds.1
  have hmore : takeDigits (Cursor.advance ⟨'.' :: (ds ++ rest), n + byteCount w⟩) =
      (ds, ⟨rest, n + byteCount w + 1 + byteCount ds⟩) := takeDigits_digits hds hr _
  obtain ⟨d, es, rfl, hd⟩ := hw.exists_cons
  simp only [skipNumber, htake, if_neg hd, hmore, hne, Bool.false_eq_true, if_false]

/-- The digits of a number and all behind them are skipped. -/
theorem skipNumber_unsigned {f e : List Char} (hw : WholeForm w) (hf : FractionForm f)
    (he : ExponentForm e) (hr : Delimited rest) (n : Nat) :
    skipNumber ⟨w ++ (f ++ e) ++ rest, n⟩ = .ok ⟨rest, n + byteCount (w ++ (f ++ e))⟩ := by
  cases hf with
  | absent =>
    have hpoint : ∀ c ∈ (e ++ rest).head?, c ≠ '.' := by
      intro c hc
      obtain ⟨cs, hcs⟩ := List.head?_eq_some_iff.1 hc
      exact he.head_ne hr hcs
    rw [List.nil_append, List.append_assoc, skipNumber_whole hw (he.noDigit_append hr) hpoint,
      skipScale_exponent he hr, byteCount_append, Nat.add_assoc]
  | @digits ds hds =>
    rw [List.append_assoc, List.cons_append, List.cons_append, List.append_assoc,
      skipNumber_fraction hw hds (he.noDigit_append hr), skipScale_exponent he hr]
    have hpoint : ('.' : Char).utf8Size = 1 := rfl
    simp only [byteCount_append, byteCount_cons, hpoint, Nat.add_assoc]

/-! ## Values that are no containers -/

theorem readLetters_append (w rest : List Char) (n : Nat) :
    readLetters w ⟨w ++ rest, n⟩ = .ok ⟨rest, n + byteCount w⟩ := by
  induction w generalizing n with
  | nil => rfl
  | cons l ls ih =>
    rw [List.cons_append, readLetters]
    simp only [if_true, ih, byteCount_cons, Nat.add_assoc]

theorem skipScalar?_word
    (h : w ∈ [['n', 'u', 'l', 'l'], ['t', 'r', 'u', 'e'], ['f', 'a', 'l', 's', 'e']])
    (rest : List Char) (n : Nat) :
    skipScalar? ⟨w ++ rest, n⟩ = some (.ok ⟨rest, n + byteCount w⟩) := by
  simp only [List.mem_cons, List.not_mem_nil, or_false] at h
  rcases h with rfl | rfl | rfl
  · exact congrArg some (readLetters_append ['u', 'l', 'l'] rest (n + 1))
  · exact congrArg some (readLetters_append ['r', 'u', 'e'] rest (n + 1))
  · exact congrArg some (readLetters_append ['a', 'l', 's', 'e'] rest (n + 1))

theorem skipScalar?_digit (h : isDigit c = true) (cs : List Char) (n : Nat) :
    skipScalar? ⟨c :: cs, n⟩ = some (skipNumber ⟨c :: cs, n⟩) := by
  unfold skipScalar?
  split <;> rename_i heq <;> cases heq
  all_goals
    first
      | exact absurd h (by decide)
      | exact if_pos h

theorem skipScalar?_number (h : NumberForm cs) (hr : Delimited rest) (n : Nat) :
    skipScalar? ⟨cs ++ rest, n⟩ = some (.ok ⟨rest, n + byteCount cs⟩) := by
  cases h with
  | positive hw hf he =>
    have hskip := skipNumber_unsigned hw hf he hr n
    obtain ⟨d, ds, rfl, -⟩ := hw.exists_cons
    have hd : isDigit d = true := hw.digits.isDigit d (by simp)
    rw [← hskip]
    exact skipScalar?_digit hd _ n
  | @negative w f e hw hf he =>
    have hskip := skipNumber_unsigned hw hf he hr (n + 1)
    rw [byteCount_cons, ← Nat.add_assoc]
    exact congrArg some hskip

theorem skipScalar?_text (h : QuotedForm cs) (rest : List Char) (n : Nat) :
    skipScalar? ⟨cs ++ rest, n⟩ = some (.ok ⟨rest, n + byteCount cs⟩) := by
  obtain ⟨t, rfl, ht⟩ := h.skip
  rw [byteCount_cons, ← Nat.add_assoc]
  exact congrArg some (ht rest (n + 1))

/-! ## Where a value starts -/

/-- A value starts with a character that is neither white space nor a closing bracket. -/
def Starts (v : List Char) : Prop := ∃ c t, v = c :: t ∧ Cursor.isGap c = false ∧ c ≠ ']'

theorem starts_of_isDigit (h : isDigit c = true) : Starts (c :: cs) := by
  refine ⟨c, cs, rfl, ?_, ?_⟩
  · cases hg : Cursor.isGap c with
    | false => rfl
    | true =>
      simp only [Cursor.isGap, Bool.or_eq_true, beq_iff_eq] at hg
      rcases hg with ((rfl | rfl) | rfl) | rfl <;> exact absurd h (by decide)
  · rintro rfl
    exact absurd h (by decide)

theorem ValueForm.starts (h : ValueForm v) : Starts v := by
  cases h with
  | word h =>
    simp only [List.mem_cons, List.not_mem_nil, or_false] at h
    rcases h with rfl | rfl | rfl <;> exact ⟨_, _, rfl, rfl, by decide⟩
  | number h =>
    cases h with
    | positive hw =>
      obtain ⟨d, ds, rfl, -⟩ := hw.exists_cons
      exact starts_of_isDigit (hw.digits.isDigit d (by simp))
    | negative => exact ⟨'-', _, rfl, rfl, by decide⟩
  | text h =>
    obtain ⟨t, rfl, -⟩ := h.skip
    exact ⟨'"', t, rfl, rfl, by decide⟩
  | list => exact ⟨'[', _, rfl, rfl, by decide⟩
  | object => exact ⟨'{', _, rfl, rfl, by decide⟩

theorem Starts.skipGaps (h : Starts v) (hg : Gap g) (rest : List Char) (n : Nat) :
    Cursor.skipGaps ⟨g ++ (v ++ rest), n⟩ = ⟨v ++ rest, n + byteCount g⟩ := by
  obtain ⟨c, t, rfl, hc, -⟩ := h
  exact Cursor.skipGaps_before hg hc (t ++ rest) n

/-! ## Inside open containers -/

/-- What skipping comes to behind a step. -/
def followStep : Except Fault SkipStep → Except Fault Cursor
  | .error f => .error f
  | .ok (.done c) => .ok c
  | .ok (.next bs c) => skipWithin bs c

/-- What skipping comes to behind a value inside the containers. -/
def resume (bs : List Bracket) (c : Cursor) : Except Fault Cursor := followStep (skipOn bs c)

theorem skipWithin_eq (bs : List Bracket) (c : Cursor) :
    skipWithin bs c = followStep (skipStep bs c) := by
  rw [skipWithin]
  split
  · next h => rw [h, followStep]
  · next h => rw [h, followStep]
  · next h => rw [h, followStep]

/-- The character that opens a container. -/
def Bracket.opening : Bracket → Char
  | .list => '['
  | .object => '{'

/-- The character that closes a container. -/
def Bracket.closing : Bracket → Char
  | .list => ']'
  | .object => '}'

theorem Bracket.utf8Size (b : Bracket) : b.opening.utf8Size = 1 ∧ b.closing.utf8Size = 1 := by
  cases b <;> exact ⟨rfl, rfl⟩

theorem Bracket.delimited (b : Bracket) (rest : List Char) : Delimited (b.closing :: rest) := by
  cases b
  · exact delimited_cons (.inr (.inl rfl))
  · exact delimited_cons (.inr (.inr rfl))

theorem resume_close (hg : Gap g) (b : Bracket) (bs : List Bracket) (rest : List Char) (n : Nat) :
    resume (b :: bs) ⟨g ++ b.closing :: rest, n⟩ = resume bs ⟨rest, n + byteCount g + 1⟩ := by
  cases b with
  | list =>
    simp only [resume, Bracket.closing, skipOn, Cursor.skipGaps_before hg (c := ']') rfl]
    rfl
  | object =>
    simp only [resume, Bracket.closing, skipOn, Cursor.skipGaps_before hg (c := '}') rfl]
    rfl

theorem skipStep_empty (hg : Gap g) (hg' : Gap g') (b : Bracket) (bs : List Bracket)
    (rest : List Char) (n : Nat) :
    skipStep bs ⟨g ++ b.opening :: (g' ++ b.closing :: rest), n⟩ =
      skipOn bs ⟨rest, n + byteCount g + 1 + byteCount g' + 1⟩ := by
  have hopen : ∀ cs, skipScalar? ⟨b.opening :: cs, n + byteCount g⟩ = none := by
    cases b <;> exact fun _ => rfl
  have hinner : (Cursor.advance ⟨b.opening :: (g' ++ b.closing :: rest), n + byteCount g⟩).skipGaps =
      ⟨b.closing :: rest, n + byteCount g + b.opening.utf8Size + byteCount g'⟩ :=
    Cursor.skipGaps_before hg' (by cases b <;> rfl) rest _
  have houter (cs : List Char) : Cursor.skipGaps ⟨g ++ b.opening :: cs, n⟩ =
      ⟨b.opening :: cs, n + byteCount g⟩ := Cursor.skipGaps_before hg (by cases b <;> rfl) cs n
  simp only [skipStep, houter, hopen, hinner]
  cases b <;> rfl

/-- The text of a value is passed over, whatever comes before and behind it. -/
def Skipped (v : List Char) : Prop :=
  ∀ (g : List Char) (bs : List Bracket) (rest : List Char) (n : Nat), Gap g → Delimited rest →
    skipWithin bs ⟨g ++ (v ++ rest), n⟩ = resume bs ⟨rest, n + byteCount g + byteCount v⟩

/-- A part of a container is passed over, behind the opening bracket and behind a comma. -/
structure PartSkipped (b : Bracket) (p : List Char) : Prop where
  first : ∀ (g g' : List Char) (bs : List Bracket) (rest : List Char) (n : Nat), Gap g → Gap g' →
    Delimited rest → skipWithin bs ⟨g ++ b.opening :: (g' ++ (p ++ rest)), n⟩ =
      resume (b :: bs) ⟨rest, n + byteCount g + 1 + byteCount g' + byteCount p⟩
  next : ∀ (g g' : List Char) (bs : List Bracket) (rest : List Char) (n : Nat), Gap g → Gap g' →
    Delimited rest → resume (b :: bs) ⟨g ++ ',' :: (g' ++ (p ++ rest)), n⟩ =
      resume (b :: bs) ⟨rest, n + byteCount g + 1 + byteCount g' + byteCount p⟩

/-- The further parts of a container are passed over, and so is its closing bracket. -/
theorem resume_continued {b : Bracket} (h : Continued ps t) (hp : ∀ p ∈ ps, PartSkipped b p)
    (bs : List Bracket) (rest : List Char) (n : Nat) :
    resume (b :: bs) ⟨t ++ b.closing :: rest, n⟩ = resume bs ⟨rest, n + byteCount t + 1⟩ := by
  induction h generalizing n with
  | close hg => exact resume_close hg b bs rest n
  | @more g g' p ps t hg hg' h ih =>
    have hps : ∀ q ∈ ps, PartSkipped b q := fun q hq => hp q (List.mem_cons_of_mem p hq)
    have hrest : Delimited (t ++ b.closing :: rest) := h.delimited_append (b.delimited rest)
    simp only [List.append_assoc, List.cons_append]
    rw [(hp p (by simp)).next _ _ _ _ _ hg hg' hrest, ih hps]
    simp only [byteCount_append, byteCount_cons, utf8Size_signs, Nat.add_assoc]

theorem skipped_container {b : Bracket} (h : Parts ps t) (hp : ∀ p ∈ ps, PartSkipped b p) :
    Skipped (b.opening :: (t ++ [b.closing])) := by
  intro g bs rest n hg _
  simp only [List.append_assoc, List.cons_append, List.nil_append]
  cases h with
  | empty hg' =>
    rw [skipWithin_eq, skipStep_empty hg hg']
    simp only [byteCount_append, byteCount_cons, byteCount_nil, b.utf8Size, Nat.add_assoc,
      Nat.add_zero, resume]
  | @parts g' p ps t hg' h =>
    have hps : ∀ q ∈ ps, PartSkipped b q := fun q hq => hp q (List.mem_cons_of_mem p hq)
    have hrest : Delimited (t ++ b.closing :: rest) := h.delimited_append (b.delimited rest)
    simp only [List.append_assoc]
    rw [(hp p (by simp)).first _ _ _ _ _ hg hg' hrest, resume_continued h hps]
    simp only [byteCount_append, byteCount_cons, byteCount_nil, b.utf8Size, Nat.add_assoc,
      Nat.add_zero]

/-! ## Items and members -/

theorem resume_list_comma (hg : Gap g) (bs : List Bracket) (rest : List Char) (n : Nat) :
    resume (.list :: bs) ⟨g ++ ',' :: rest, n⟩ =
      skipWithin (.list :: bs) ⟨rest, n + byteCount g + 1⟩ := by
  simp only [resume, skipOn, Cursor.skipGaps_before hg (c := ',') rfl]
  rfl

theorem skipStep_list_open (hg : Gap g) (hg' : Gap g') (hv : Starts v) (bs : List Bracket)
    (rest : List Char) (n : Nat) :
    skipStep bs ⟨g ++ '[' :: (g' ++ (v ++ rest)), n⟩ =
      .ok (.next (.list :: bs) ⟨v ++ rest, n + byteCount g + 1 + byteCount g'⟩) := by
  have hopen : ∀ cs, skipScalar? ⟨'[' :: cs, n + byteCount g⟩ = none := fun _ => rfl
  have hinner : (Cursor.advance ⟨'[' :: (g' ++ (v ++ rest)), n + byteCount g⟩).skipGaps =
      ⟨v ++ rest, n + byteCount g + 1 + byteCount g'⟩ := hv.skipGaps hg' rest _
  obtain ⟨c, t, rfl, -, hne⟩ := hv
  simp only [skipStep, Cursor.skipGaps_before hg (c := '[') rfl, hopen, hinner]
  split
  · next heq => cases heq
  · next heq =>
    cases heq
    exact absurd rfl hne
  · rfl

/-- An item of a list is passed over where it is a value. -/
theorem Skipped.item (h : Skipped v) (hv : Starts v) : PartSkipped .list v where
  first g g' bs rest n hg hg' hr := by
    have hinner := h [] (.list :: bs) rest (n + byteCount g + 1 + byteCount g') gap_nil hr
    rw [skipWithin_eq, Bracket.opening, skipStep_list_open hg hg' hv, followStep]
    exact hinner
  -- Behind a comma the white space is left to the next step, which passes over it.
  next g g' bs rest n hg hg' hr := by rw [resume_list_comma hg, h _ _ _ _ hg' hr]

theorem readColon_gap (hg : Gap g) (rest : List Char) (n : Nat) :
    readColon ⟨g ++ ':' :: rest, n⟩ = .ok ⟨rest, n + byteCount g + 1⟩ := by
  simp only [readColon, Cursor.skipGaps_before hg (c := ':') rfl]
  rfl

theorem skipKey_member {m : Member} (hk : QuotedForm m.key) (rest : List Char) (n : Nat) :
    skipKey ⟨m.text ++ rest, n⟩ =
      .ok ⟨m.after ++ (m.value ++ rest), n + byteCount m.key + byteCount m.before + 1⟩ := by
  obtain ⟨t, ht, hskip⟩ := hk.skip
  have hstring : skipString (Cursor.advance ⟨m.text ++ rest, n⟩) =
      .ok ⟨m.before ++ ':' :: (m.after ++ (m.value ++ rest)), n + byteCount m.key⟩ := by
    rw [Member.text, Member.tail, ht, byteCount_cons, ← Nat.add_assoc]
    simp only [List.append_assoc, List.cons_append]
    exact hskip _ (n + 1)
  rw [skipKey, hstring]
  exact readColon_gap m.gap_before _ _

/-- A key starts with its quote. -/
theorem exists_text_append {m : Member} (hk : QuotedForm m.key) (rest : List Char) :
    ∃ t, m.text ++ rest = '"' :: t := by
  obtain ⟨t, ht, -⟩ := hk.skip
  rw [Member.text, ht]
  exact ⟨_, rfl⟩

theorem resume_object_comma (hg : Gap g) (hg' : Gap g') {m : Member} (hk : QuotedForm m.key)
    (bs : List Bracket) (rest : List Char) (n : Nat) :
    resume (.object :: bs) ⟨g ++ ',' :: (g' ++ (m.text ++ rest)), n⟩ =
      skipWithin (.object :: bs) ⟨m.after ++ (m.value ++ rest),
        n + byteCount g + 1 + byteCount g' + byteCount m.key + byteCount m.before + 1⟩ := by
  have hkey := skipKey_member hk rest (n + byteCount g + 1 + byteCount g')
  obtain ⟨t, ht⟩ := exists_text_append hk rest
  rw [ht] at hkey ⊢
  have hcomma : (Cursor.advance ⟨',' :: (g' ++ '"' :: t), n + byteCount g⟩).skipGaps =
      ⟨'"' :: t, n + byteCount g + 1 + byteCount g'⟩ := Cursor.skipGaps_before hg' rfl t _
  simp only [resume, skipOn, Cursor.skipGaps_before hg (c := ',') rfl, hcomma, hkey, Except.map]
  rfl

theorem skipStep_object_open (hg : Gap g) (hg' : Gap g') {m : Member} (hk : QuotedForm m.key)
    (bs : List Bracket) (rest : List Char) (n : Nat) :
    skipStep bs ⟨g ++ '{' :: (g' ++ (m.text ++ rest)), n⟩ =
      .ok (.next (.object :: bs) ⟨m.after ++ (m.value ++ rest),
        n + byteCount g + 1 + byteCount g' + byteCount m.key + byteCount m.before + 1⟩) := by
  have hopen : ∀ cs, skipScalar? ⟨'{' :: cs, n + byteCount g⟩ = none := fun _ => rfl
  have hkey := skipKey_member hk rest (n + byteCount g + 1 + byteCount g')
  obtain ⟨t, ht⟩ := exists_text_append hk rest
  rw [ht] at hkey ⊢
  have hinner : (Cursor.advance ⟨'{' :: (g' ++ '"' :: t), n + byteCount g⟩).skipGaps =
      ⟨'"' :: t, n + byteCount g + 1 + byteCount g'⟩ := Cursor.skipGaps_before hg' rfl t _
  simp only [skipStep, Cursor.skipGaps_before hg (c := '{') rfl, hopen, hinner, hkey, Except.map]

/-- A member of an object is passed over where its value is. -/
theorem Skipped.member {m : Member} (hv : Skipped m.value) (hk : QuotedForm m.key) :
    PartSkipped .object m.text where
  first g g' bs rest n hg hg' hr := by
    rw [skipWithin_eq, Bracket.opening, skipStep_object_open hg hg' hk, followStep,
      hv _ _ _ _ m.gap_after hr]
    simp only [byteCount_append, byteCount_cons, utf8Size_signs, Member.text, Member.tail,
      Nat.add_assoc]
  next g g' bs rest n hg hg' hr := by
    rw [resume_object_comma hg hg' hk, hv _ _ _ _ m.gap_after hr]
    simp only [byteCount_append, byteCount_cons, utf8Size_signs, Member.text, Member.tail,
      Nat.add_assoc]

/-! ## Values -/

theorem skipped_of_scalar (hs : Starts v)
    (h : ∀ rest n, Delimited rest → skipScalar? ⟨v ++ rest, n⟩ = some (.ok ⟨rest, n + byteCount v⟩)) :
    Skipped v := by
  intro g bs rest n hg hr
  have hstep : skipStep bs ⟨g ++ (v ++ rest), n⟩ =
      skipOn bs ⟨rest, n + byteCount g + byteCount v⟩ := by
    simp only [skipStep, hs.skipGaps hg, h rest _ hr]
  rw [skipWithin_eq, hstep, resume]

/-- What has the form of a value is passed over. -/
theorem ValueForm.skipped (h : ValueForm v) : Skipped v := by
  induction h with
  | word h =>
    exact skipped_of_scalar (ValueForm.word h).starts fun rest n _ => skipScalar?_word h rest n
  | number h =>
    exact skipped_of_scalar (ValueForm.number h).starts fun rest n hr => skipScalar?_number h hr n
  | text h =>
    exact skipped_of_scalar (ValueForm.text h).starts fun rest n _ => skipScalar?_text h rest n
  | list h hi ih => exact skipped_container (b := .list) h fun i hm => (ih i hm).item (hi i hm).starts
  | object h hk _ ih =>
    exact skipped_container (b := .object) h
      (List.forall_mem_map.2 fun m hm => (ih m hm).member (hk m hm))

/-- A value with the form of one is skipped, whatever white space comes before it. -/
theorem skipValue_form (h : ValueForm v) (hg : Gap g) (hr : Delimited rest) (n : Nat) :
    skipValue ⟨g ++ (v ++ rest), n⟩ = .ok ⟨rest, n + byteCount g + byteCount v⟩ :=
  h.skipped g [] rest n hg hr

end PagePrep.Json
