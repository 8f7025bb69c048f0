import PagePrep.Json.Sequence
import PagePrep.Proofs.Json.SkippedValue

/-!
# Lists and records read

A list whose items are read in turn gives what each item is read as (`reads_readList`). The members of
an object lead from one state to the next, whatever their order; a record is read where they lead to all
of its fields (`reads_readRecord`).
-/

set_option autoImplicit false

namespace PagePrep.Json

variable {α β ε σ : Type} {g g' cs rest t v : List Char} {items : List (List Char)} {n : Nat}

/-- The reader takes the text for the value, whatever white space comes before it and whatever ends it
behind. -/
def Reads (r : Cursor → Except ε (α × Cursor)) (cs : List Char) (a : α) : Prop :=
  ∀ (g rest : List Char) (n : Nat), Gap g → Delimited rest →
    r ⟨g ++ (cs ++ rest), n⟩ = .ok (a, ⟨rest, n + byteCount g + byteCount cs⟩)

theorem Reads.here {r : Cursor → Except ε (α × Cursor)} {a : α} (h : Reads r cs a)
    (hr : Delimited rest) (n : Nat) : r ⟨cs ++ rest, n⟩ = .ok (a, ⟨rest, n + byteCount cs⟩) :=
  h [] rest n gap_nil hr

theorem Reads.placed {r : Cursor → Reading α} {a : α} (h : Reads r cs a) :
    Reads (fun c => Json.placed (r c)) cs a := by
  intro g rest n hg hr
  simp only [h g rest n hg hr, Json.placed]

theorem Reads.map {r : Cursor → Except ε (α × Cursor)} {a : α} (h : Reads r cs a) (k : α → β) :
    Reads (fun c => (r c).map fun p => (k p.1, p.2)) cs (k a) := by
  intro g rest n hg hr
  simp only [h g rest n hg hr, Except.map]

/-- Nothing but white space is left at the end. -/
theorem finish_gap (hg : Gap g) (n : Nat) : Cursor.finish ⟨g, n⟩ = .ok () := by
  have hskip := Cursor.skipGaps_gap hg [] n
  rw [List.append_nil] at hskip
  rw [Cursor.finish, hskip]
  rfl

theorem reads_readText {s : String} (h : Quoted s cs) : Reads readText cs s := by
  intro g rest n hg _
  obtain ⟨t, rfl, ht⟩ := h.read
  rw [List.cons_append, byteCount_cons, ← Nat.add_assoc]
  simp only [readText, Cursor.skipGaps_before hg (c := '"') rfl]
  exact ht rest (n + byteCount g + 1)

/-! ## Strings and lists of strings as values -/

section Values

variable {limit : Nat} {frames frames' : List Frame} {value w : Value} {c c' : Cursor} {s : String}

theorem readWithin_done (h : step limit frames c = .ok (.done value c')) :
    readWithin limit frames c = .ok (value, c') := by
  rw [readWithin]
  split <;> simp_all

theorem readWithin_next (h : step limit frames c = .ok (.next frames' c')) :
    readWithin limit frames c = readWithin limit frames' c' := by
  rw [readWithin]
  split
  · next hx => simp [h] at hx
  · next hx => simp [h] at hx
  · next hx =>
    rw [h] at hx
    cases hx
    rfl

theorem Quoted.starts (h : Quoted s cs) : Starts cs := by
  obtain ⟨t, rfl, -⟩ := h.read
  exact ⟨'"', t, rfl, rfl, by decide⟩

theorem step_text (h : Quoted s cs) (hg : Gap g) (limit : Nat) (frames : List Frame)
    (rest : List Char) (n : Nat) :
    step limit frames ⟨g ++ (cs ++ rest), n⟩ =
      deliver (.text s) frames ⟨rest, n + byteCount g + byteCount cs⟩ := by
  obtain ⟨t, rfl, ht⟩ := h.read
  have hscalar : readScalar? ⟨'"' :: (t ++ rest), n + byteCount g⟩ =
      some ((readString [] ⟨t ++ rest, n + byteCount g + 1⟩).map fun r => (.text r.1, r.2)) := rfl
  rw [ht] at hscalar
  rw [byteCount_cons, ← Nat.add_assoc, List.cons_append]
  simp only [step, Cursor.skipGaps_before hg (c := '"') rfl, hscalar]
  rfl

theorem deliver_close (hg : Gap g) (held : List Value) (rest : List Char) (n : Nat) :
    deliver value [.list held] ⟨g ++ ']' :: rest, n⟩ =
      .ok (.done (.list (value :: held).reverse) ⟨rest, n + byteCount g + 1⟩) := by
  simp only [deliver, Cursor.skipGaps_before hg (c := ']') rfl]
  rfl

theorem deliver_comma (hg : Gap g) (hg' : Gap g') (hv : Starts v) (held : List Value)
    (rest : List Char) (n : Nat) :
    deliver value [.list held] ⟨g ++ ',' :: (g' ++ (v ++ rest)), n⟩ =
      .ok (.next [.list (value :: held)] ⟨v ++ rest, n + byteCount g + 1 + byteCount g'⟩) := by
  have hskip : (Cursor.advance ⟨',' :: (g' ++ (v ++ rest)), n + byteCount g⟩).skipGaps =
      ⟨v ++ rest, n + byteCount g + 1 + byteCount g'⟩ := hv.skipGaps hg' rest _
  obtain ⟨c, t, rfl, -, hne⟩ := hv
  simp only [deliver, Cursor.skipGaps_before hg (c := ',') rfl, hskip]
  split
  · next heq => cases heq
  · next heq =>
    cases heq
    exact absurd rfl hne
  · rfl

theorem readWithin_texts {ss : List String} (h : Continued items t) (hs : Quoted s cs)
    (hi : List.Forall₂ Quoted ss items) (limit : Nat) (held : List Value) (rest : List Char) (n : Nat) :
    readWithin limit [.list held] ⟨cs ++ (t ++ ']' :: rest), n⟩ =
      .ok (.list (held.reverse ++ .text s :: ss.map .text),
        ⟨rest, n + byteCount cs + byteCount t + 1⟩) := by
  have hstep (k : Nat) (more : List Char) : step limit [.list held] ⟨cs ++ more, k⟩ =
      deliver (.text s) [.list held] ⟨more, k + byteCount cs⟩ :=
    step_text hs (g := []) gap_nil limit _ more k
  induction h generalizing s cs ss held n with
  | close hg =>
    cases hi
    rw [readWithin_done ((hstep n _).trans (deliver_close hg held rest _))]
    simp
  | @more g g' p ps t hg hg' h ih =>
    obtain ⟨s', ss, hp, hps, rfl⟩ := List.forall₂_cons_right_iff.1 hi
    simp only [List.append_assoc, List.cons_append]
    rw [readWithin_next ((hstep n _).trans (deliver_comma hg hg' hp.starts held (t ++ ']' :: rest) _)),
      ih hp hps _ _ fun k more => step_text hp (g := []) gap_nil limit _ more k]
    simp only [List.reverse_cons, List.append_assoc, List.singleton_append, List.map_cons,
      byteCount_append, byteCount_cons, utf8Size_signs, Nat.add_assoc]

theorem reads_readValue_text (h : Quoted s cs) (limit : Nat) :
    Reads (readValue limit) cs (.text s) := by
  intro g rest n hg _
  exact readWithin_done (step_text h hg limit [] rest n)

theorem step_list_empty (hg : Gap g) (hg' : Gap g') (hl : 1 < limit) (rest : List Char) (n : Nat) :
    step limit [] ⟨g ++ '[' :: (g' ++ ']' :: rest), n⟩ =
      .ok (.done (.list []) ⟨rest, n + byteCount g + 1 + byteCount g' + 1⟩) := by
  have hopen : ∀ cs, readScalar? ⟨'[' :: cs, n + byteCount g⟩ = none := fun _ => rfl
  have hlimit : ¬limit ≤ ([] : List Frame).length + 1 := by simpa using hl
  have hskip : (Cursor.advance ⟨'[' :: (g' ++ ']' :: rest), n + byteCount g⟩).skipGaps =
      ⟨']' :: rest, n + byteCount g + 1 + byteCount g'⟩ := Cursor.skipGaps_before hg' rfl rest _
  simp only [step, Cursor.skipGaps_before hg (c := '[') rfl, hopen, if_neg hlimit, hskip]
  rfl

theorem step_list_open (hg : Gap g) (hg' : Gap g') (hv : Starts v) (hl : 1 < limit)
    (rest : List Char) (n : Nat) :
    step limit [] ⟨g ++ '[' :: (g' ++ (v ++ rest)), n⟩ =
      .ok (.next [.list []] ⟨v ++ rest, n + byteCount g + 1 + byteCount g'⟩) := by
  have hopen : ∀ cs, readScalar? ⟨'[' :: cs, n + byteCount g⟩ = none := fun _ => rfl
  have hlimit : ¬limit ≤ ([] : List Frame).length + 1 := by simpa using hl
  have hskip : (Cursor.advance ⟨'[' :: (g' ++ (v ++ rest)), n + byteCount g⟩).skipGaps =
      ⟨v ++ rest, n + byteCount g + 1 + byteCount g'⟩ := hv.skipGaps hg' rest _
  obtain ⟨c, t, rfl, -, hne⟩ := hv
  simp only [step, Cursor.skipGaps_before hg (c := '[') rfl, hopen, if_neg hlimit, hskip]
  split
  · next heq => cases heq
  · next heq =>
    cases heq
    exact absurd rfl hne
  · rfl

/-- A list of written strings is read as the list of them. -/
theorem reads_readValue_texts {ss : List String} (h : Parts items t)
    (hi : List.Forall₂ Quoted ss items) (hl : 1 < limit) :
    Reads (readValue limit) ('[' :: (t ++ [']'])) (.list (ss.map .text)) := by
  intro g rest n hg _
  simp only [List.cons_append, List.append_assoc, List.nil_append]
  cases h with
  | empty hg' =>
    cases hi
    rw [readValue, readWithin_done (step_list_empty hg hg' hl rest n)]
    simp only [byteCount_append, byteCount_cons, byteCount_nil, utf8Size_signs, Nat.add_assoc,
      Nat.add_zero, List.map_nil]
  | @parts g' p ps t hg' h =>
    obtain ⟨s, ss, hp, hps, rfl⟩ := List.forall₂_cons_right_iff.1 hi
    simp only [List.append_assoc]
    rw [readValue, readWithin_next (step_list_open hg hg' hp.starts hl (t ++ ']' :: rest) n),
      readWithin_texts h hp hps]
    simp only [List.reverse_nil, List.nil_append, List.map_cons, byteCount_append, byteCount_cons,
      byteCount_nil, utf8Size_signs, Nat.add_assoc, Nat.add_zero]

end Values

/-! ## Lists -/

theorem nextItem_close (first : Bool) (hg : Gap g) (rest : List Char) (n : Nat) :
    nextItem first ⟨g ++ ']' :: rest, n⟩ = .ok (false, ⟨']' :: rest, n + byteCount g⟩) := by
  simp only [nextItem, Cursor.skipGaps_before hg (c := ']') rfl]

theorem nextItem_first (hg : Gap g) (hv : Starts v) (rest : List Char) (n : Nat) :
    nextItem true ⟨g ++ (v ++ rest), n⟩ = .ok (true, ⟨v ++ rest, n + byteCount g⟩) := by
  have hskip := hv.skipGaps hg rest n
  obtain ⟨c, t, rfl, -, hne⟩ := hv
  simp only [nextItem, hskip]
  split
  · next heq => cases heq
  · next heq =>
    cases heq
    exact absurd rfl hne
  · rfl

theorem nextItem_comma (hg : Gap g) (hg' : Gap g') (hv : Starts v) (rest : List Char) (n : Nat) :
    nextItem false ⟨g ++ ',' :: (g' ++ (v ++ rest)), n⟩ =
      .ok (true, ⟨v ++ rest, n + byteCount g + 1 + byteCount g'⟩) := by
  have hskip : (Cursor.advance ⟨',' :: (g' ++ (v ++ rest)), n + byteCount g⟩).skipGaps =
      ⟨v ++ rest, n + byteCount g + 1 + byteCount g'⟩ := hv.skipGaps hg' rest _
  obtain ⟨c, t, rfl, -, hne⟩ := hv
  simp only [nextItem, Cursor.skipGaps_before hg (c := ',') rfl, hskip]
  split <;> rename_i heq <;> cases heq
  rw [if_neg (by decide), if_pos rfl]
  split
  · next heq => cases heq
  · next heq =>
    cases heq
    exact absurd rfl hne
  · rfl

section Items

variable {item : Cursor → Reading α} {shrinks : ∀ c v c', item c = .ok (v, c') → c'.size < c.size}
  {held as : List α} {a : α} {c c₁ c₂ : Cursor}

theorem readItems_stop (hn : nextItem held.isEmpty c = .ok (false, c₁)) :
    readItems item shrinks held c = .ok (held.reverse, c₁) := by
  rw [readItems]
  split <;> simp_all

theorem readItems_more (hn : nextItem held.isEmpty c = .ok (true, c₁)) (hi : item c₁ = .ok (a, c₂)) :
    readItems item shrinks held c = readItems item shrinks (a :: held) c₂ := by
  rw [readItems]
  split
  · next h => simp [hn] at h
  · next h => simp [hn] at h
  · next h =>
    obtain rfl : c₁ = _ := by simpa [hn] using h
    split
    · next h' => simp [hi] at h'
    · next h' =>
      rw [hi] at h'
      cases h'
      rfl

theorem readItems_continued (h : Continued items t) (hs : ∀ i ∈ items, Starts i)
    (hi : List.Forall₂ (Reads item) items as) (hheld : held ≠ []) (rest : List Char) (n : Nat) :
    readItems item shrinks held ⟨t ++ ']' :: rest, n⟩ =
      .ok (held.reverse ++ as, ⟨']' :: rest, n + byteCount t⟩) := by
  have hfirst : held.isEmpty = false := by simpa using hheld
  induction h generalizing held as n with
  | close hg =>
    cases hi
    rw [List.append_nil]
    exact readItems_stop (by rw [hfirst]; exact nextItem_close false hg rest n)
  | @more g g' p ps t hg hg' h ih =>
    obtain ⟨a, as, hp, hps, rfl⟩ := List.forall₂_cons_left_iff.1 hi
    have hrest : Delimited (t ++ ']' :: rest) :=
      h.delimited_append (delimited_cons (.inr (.inl rfl)))
    have hnext := nextItem_comma hg hg' (hs p (by simp)) (t ++ ']' :: rest) n
    simp only [List.append_assoc, List.cons_append]
    rw [readItems_more (by rw [hfirst]; exact hnext) (hp.here hrest _),
      ih (fun i hm => hs i (List.mem_cons_of_mem p hm)) hps (by simp) _ rfl]
    simp only [List.reverse_cons, List.append_assoc, List.singleton_append, byteCount_append,
      byteCount_cons, utf8Size_signs, Nat.add_assoc]

/-- A list is read as what its items are read as. -/
theorem reads_readList (h : Parts items t) (hs : ∀ i ∈ items, Starts i)
    (hi : List.Forall₂ (Reads item) items as) :
    Reads (readList item shrinks) ('[' :: (t ++ [']'])) as := by
  intro g rest n hg hr
  have hitems : readItems item shrinks [] ⟨t ++ ']' :: rest, n + byteCount g + 1⟩ =
      .ok (as, ⟨']' :: rest, n + byteCount g + 1 + byteCount t⟩) := by
    cases h with
    | empty hg' =>
      cases hi
      exact readItems_stop (nextItem_close true hg' rest _)
    | @parts g' p ps t hg' h =>
      obtain ⟨a, as, hp, hps, rfl⟩ := List.forall₂_cons_left_iff.1 hi
      have hrest : Delimited (t ++ ']' :: rest) :=
        h.delimited_append (delimited_cons (.inr (.inl rfl)))
      have hnext : nextItem ([] : List α).isEmpty _ = _ :=
        nextItem_first hg' (hs p (by simp)) (t ++ ']' :: rest) (n + byteCount g + 1)
      simp only [List.append_assoc]
      rw [readItems_more hnext (hp.here hrest _),
        readItems_continued h (fun i hm => hs i (List.mem_cons_of_mem p hm)) hps (by simp)]
      simp only [List.reverse_singleton, List.singleton_append, byteCount_append, Nat.add_assoc]
  have hadvance : Cursor.advance ⟨'[' :: (t ++ ']' :: rest), n + byteCount g⟩ =
      ⟨t ++ ']' :: rest, n + byteCount g + 1⟩ := rfl
  have hend (m : Nat) : endList ⟨']' :: rest, m⟩ = .ok ⟨rest, m + 1⟩ := rfl
  simp only [List.cons_append, List.append_assoc, List.nil_append, readList,
    Cursor.skipGaps_before hg (c := '[') rfl, hadvance, hitems, hend, Except.map]
  simp only [byteCount_append, byteCount_cons, byteCount_nil, Nat.add_assoc, Nat.add_zero]
  rfl

end Items

/-! ## Members -/

theorem reads_readMember {value : Cursor → Inside α} {a : α} (h : Reads value cs a) (hg' : Gap g') :
    Reads (readMember value) (':' :: (g' ++ cs)) a := by
  intro g rest n hg hr
  simp only [List.cons_append, List.append_assoc, readMember, readColon_gap hg,
    h g' rest (n + byteCount g + 1) hg' hr]
  simp only [byteCount_cons, byteCount_append, Nat.add_assoc]
  rfl

/-- A member that nobody asks for changes nothing. -/
theorem reads_skipMember (h : ValueForm v) (hg' : Gap g') (s : σ) :
    Reads (fun c => (skipMember c).map fun c₁ => (s, c₁)) (':' :: (g' ++ v)) s := by
  intro g rest n hg hr
  simp only [List.cons_append, List.append_assoc, skipMember, readColon_gap hg,
    skipValue_form h hg' hr, placed, Except.map]
  simp only [byteCount_cons, byteCount_append, Nat.add_assoc]
  rfl

theorem nextName_close (first : Bool) (hg : Gap g) (rest : List Char) (n : Nat) :
    nextName first ⟨g ++ '}' :: rest, n⟩ = .ok (none, ⟨'}' :: rest, n + byteCount g⟩) := by
  simp only [nextName, Cursor.skipGaps_before hg (c := '}') rfl]

theorem nextName_first (hg : Gap g) (m : NamedMember) (rest : List Char) (n : Nat) :
    nextName true ⟨g ++ (m.text ++ rest), n⟩ =
      .ok (some m.name, ⟨m.tail ++ rest, n + byteCount g + byteCount m.key⟩) := by
  obtain ⟨t, ht, hread⟩ := m.named.read
  have hquote : nextName true ⟨g ++ '"' :: (t ++ (m.tail ++ rest)), n⟩ =
      (readString [] ⟨t ++ (m.tail ++ rest), n + byteCount g + 1⟩).map fun r => (some r.1, r.2) := by
    simp only [nextName, Cursor.skipGaps_before hg (c := '"') rfl]
    rfl
  rw [Member.text, ht, List.cons_append, List.cons_append, List.append_assoc, hquote, hread,
    byteCount_cons, ← Nat.add_assoc]
  rfl

theorem nextName_comma (hg : Gap g) (hg' : Gap g') (m : NamedMember) (rest : List Char) (n : Nat) :
    nextName false ⟨g ++ ',' :: (g' ++ (m.text ++ rest)), n⟩ =
      .ok (some m.name,
        ⟨m.tail ++ rest, n + byteCount g + 1 + byteCount g' + byteCount m.key⟩) := by
  obtain ⟨t, ht, hread⟩ := m.named.read
  have hquote : nextName false ⟨g ++ ',' :: (g' ++ '"' :: (t ++ (m.tail ++ rest))), n⟩ =
      (readString [] ⟨t ++ (m.tail ++ rest), n + byteCount g + 1 + byteCount g' + 1⟩).map
        fun r => (some r.1, r.2) := by
    have hskip : (Cursor.advance
        ⟨',' :: (g' ++ '"' :: (t ++ (m.tail ++ rest))), n + byteCount g⟩).skipGaps =
          ⟨'"' :: (t ++ (m.tail ++ rest)), n + byteCount g + 1 + byteCount g'⟩ :=
      Cursor.skipGaps_before hg' rfl _ _
    simp only [nextName, Cursor.skipGaps_before hg (c := ',') rfl, hskip]
    rfl
  rw [Member.text, ht, List.cons_append, List.cons_append, List.append_assoc, hquote, hread,
    byteCount_cons, ← Nat.add_assoc]
  rfl

/-- The members in turn lead from one state to the other. -/
inductive Leads (take : σ → String → Cursor → Inside σ) : σ → List NamedMember → σ → Prop
  | nil (s : σ) : Leads take s [] s
  | cons {s s₁ s' : σ} {m : NamedMember} {ms : List NamedMember}
      (h : Reads (take s m.name) (':' :: (m.after ++ m.value)) s₁) (hs : Leads take s₁ ms s') :
      Leads take s (m :: ms) s'

section Members

variable {take : σ → String → Cursor → Inside σ}
  {shrinks : ∀ s name c s' c', take s name c = .ok (s', c') → c'.size ≤ c.size}
  {first : Bool} {s s₁ s' : σ} {name : String} {c c₁ c₂ : Cursor} {ms : List NamedMember}

theorem readMembers_stop (hn : nextName first c = .ok (none, c₁)) :
    readMembers take shrinks first s c = .ok (s, c₁) := by
  rw [readMembers]
  split <;> simp_all

theorem readMembers_more (hn : nextName first c = .ok (some name, c₁))
    (ht : take s name c₁ = .ok (s₁, c₂)) :
    readMembers take shrinks first s c = readMembers take shrinks false s₁ c₂ := by
  rw [readMembers]
  split
  · next h => simp [hn] at h
  · next h => simp [hn] at h
  · next h =>
    rw [hn] at h
    cases h
    split
    · next h' => simp [ht] at h'
    · next h' =>
      rw [ht] at h'
      cases h'
      rfl

/-- What a member leads to is read behind its key. -/
theorem take_tail {m : NamedMember} (h : Reads (take s m.name) (':' :: (m.after ++ m.value)) s₁)
    (hr : Delimited rest) (n : Nat) :
    take s m.name ⟨m.tail ++ rest, n⟩ = .ok (s₁, ⟨rest, n + byteCount m.tail⟩) := by
  have hread := h m.before rest n m.gap_before hr
  rw [Member.tail, byteCount_append, List.append_assoc, ← Nat.add_assoc]
  exact hread

theorem readMembers_continued (h : Continued (ms.map fun m => m.text) t) (hl : Leads take s ms s')
    (rest : List Char) (n : Nat) :
    readMembers take shrinks false s ⟨t ++ '}' :: rest, n⟩ =
      .ok (s', ⟨'}' :: rest, n + byteCount t⟩) := by
  induction hl generalizing t n with
  | nil s =>
    cases h with
    | close hg => exact readMembers_stop (nextName_close false hg rest n)
  | @cons s s₁ s' m ms hm _ ih =>
    cases h with
    | @more g g' _ _ t hg hg' h =>
      have hrest : Delimited (t ++ '}' :: rest) :=
        h.delimited_append (delimited_cons (.inr (.inr rfl)))
      have hnext := nextName_comma hg hg' m (t ++ '}' :: rest) n
      simp only [List.append_assoc, List.cons_append]
      rw [readMembers_more hnext (take_tail hm hrest _), ih h]
      simp only [byteCount_append, byteCount_cons, utf8Size_signs, Member.text, Nat.add_assoc]

/-- All members of an object lead to the state that reading them ends in. -/
theorem readMembers_parts (h : Parts (ms.map fun m => m.text) t) (hl : Leads take s ms s')
    (rest : List Char) (n : Nat) :
    readMembers take shrinks true s ⟨t ++ '}' :: rest, n⟩ =
      .ok (s', ⟨'}' :: rest, n + byteCount t⟩) := by
  cases hl with
  | nil =>
    cases h with
    | empty hg => exact readMembers_stop (nextName_close true hg rest n)
  | @cons _ s₁ _ m ms hm hl =>
    cases h with
    | @parts g _ _ t hg h =>
      have hrest : Delimited (t ++ '}' :: rest) :=
        h.delimited_append (delimited_cons (.inr (.inr rfl)))
      have hnext := nextName_first hg m (t ++ '}' :: rest) n
      simp only [List.append_assoc]
      rw [readMembers_more hnext (take_tail hm hrest _), readMembers_continued h hl]
      simp only [byteCount_append, Member.text, Nat.add_assoc]

end Members

/-- A record is read from the text of an object as its members are. -/
theorem reads_readRecord {expected : String} {items members : Cursor → Inside α} {a : α}
    {ms : List NamedMember} (ho : ObjectText ms cs)
    (hm : ∀ t rest n, Parts (ms.map fun m => m.text) t →
      members ⟨t ++ '}' :: rest, n⟩ = .ok (a, ⟨'}' :: rest, n + byteCount t⟩)) :
    Reads (readRecord expected items members) cs a := by
  obtain ⟨t, ht, rfl⟩ := ho
  intro g rest n hg _
  have hadvance : Cursor.advance ⟨'{' :: (t ++ '}' :: rest), n + byteCount g⟩ =
      ⟨t ++ '}' :: rest, n + byteCount g + 1⟩ := rfl
  have hend (k : Nat) : endObject ⟨'}' :: rest, k⟩ = .ok ⟨rest, k + 1⟩ := rfl
  simp only [List.cons_append, List.append_assoc, List.nil_append, readRecord,
    Cursor.skipGaps_before hg (c := '{') rfl, hadvance, hm t rest _ ht, finishRecord, hend, Except.map]
  simp only [byteCount_append, byteCount_cons, byteCount_nil, Nat.add_assoc, Nat.add_zero]
  rfl

end PagePrep.Json
