import PagePrep.Proofs.Page.Settled

/-!
# The page made of tidied pieces

A page is made of pieces by writing their lines, tidying them and moving the line numbers of the
contexts to where the lines went. The same text comes of tidying the pieces first, and so do the
places, the scores and the headers of the contexts (`Context.brief`); then no line number has to
move.
-/

set_option autoImplicit false

namespace PagePrep

open Text

theorem wordsFrom_of_all {cs : List Char} (inside : Bool) (h : cs.all isSpace = true) :
    wordsFrom inside cs = 0 := by
  induction cs generalizing inside with
  | nil => rfl
  | cons c cs ih =>
    rw [List.all_cons, Bool.and_eq_true] at h
    rw [wordsFrom, if_pos h.1, ih false h.2]

theorem wordCount_of_isBlank {l : String} (h : isBlank l = true) : wordCount l = 0 :=
  wordsFrom_of_all false h

namespace Piece

/-! ## Lines -/

theorem Proper.spreads_lines {p : Piece} (h : p.Proper) :
    Spreads isBlank Text.isBlank lines p := by
  cases p with
  | mark l => exact ⟨fun hb => ⟨l, rfl, hb⟩, fun hb => hb, fun hb bs => tidy_cons_solid bs hb⟩
  | body l => exact ⟨fun hb => ⟨l, rfl, hb⟩, fun hb => hb, fun hb bs => tidy_cons_solid bs hb⟩
  | opening l =>
    have hl : Text.isBlank l = false := not_isBlank_of_isHeader h
    have hs : Text.isBlank Marker.separator.sentinel = false := by decide
    refine ⟨fun hb => (by cases hb), fun _ => hs, fun _ bs => ?_⟩
    show tidy Text.isBlank (_ :: "" :: l :: bs) = _ :: "" :: l :: tidy Text.isBlank bs
    rw [tidy_cons_solid _ hs, tidy_cons_keep (by simp [hl]), tidy_cons_solid _ hl]

theorem Proper.spreads_line {p : Piece} (h : p.Proper) :
    Spreads isBlank Text.isBlank (fun p => [p.line]) p := by
  cases p with
  | mark l => exact ⟨fun hb => ⟨l, rfl, hb⟩, fun hb => hb, fun hb bs => tidy_cons_solid bs hb⟩
  | body l => exact ⟨fun hb => ⟨l, rfl, hb⟩, fun hb => hb, fun hb bs => tidy_cons_solid bs hb⟩
  | opening l =>
    have hl : Text.isBlank l = false := not_isBlank_of_isHeader h
    exact ⟨fun hb => (by cases hb), fun _ => hl, fun _ bs => tidy_cons_solid bs hl⟩

theorem allLines_tidy {ps : List Piece} (h : ∀ p ∈ ps, p.Proper) :
    allLines (tidy isBlank ps) = tidy Text.isBlank (allLines ps) :=
  (tidy_flatMap fun p hp => (h p hp).spreads_lines).symm

theorem map_line_tidy {ps : List Piece} (h : ∀ p ∈ ps, p.Proper) :
    (tidy isBlank ps).map line = tidy Text.isBlank (ps.map line) := by
  have := tidy_flatMap fun p hp => (h p hp).spreads_line
  simp only [← List.map_eq_flatMap] at this
  exact this.symm

theorem text_ofPieces (file : String) {ps : List Piece} (h : ∀ p ∈ ps, p.Proper) :
    (Document.ofPieces file ps).text = unlines (allLines (tidy isBlank ps)) := by
  rw [allLines_tidy h, ← finishText_collapseBlank]
  rfl

/-! ## Contexts -/

end Piece

/-- What the pieces of a page say about a context: its line, its score and its header. -/
def Context.brief (c : Context) : Nat × Nat × Option String := (c.lineIndex, c.score, c.lines.head?)

namespace Piece

theorem total_sectionBody_tidy (ps : List Piece) :
    total ((sectionBody (tidy isBlank ps)).map wordCount) =
      total ((sectionBody ps).map wordCount) := by
  induction ps with
  | nil => rfl
  | cons p ps ih =>
    cases hd : p.isBlank && ps.head?.all isBlank with
    | false =>
      rw [tidy_cons_keep hd]
      cases p with
      | mark l => exact ih
      | body l => simp [sectionBody, ih]
      | opening l => rfl
    | true =>
      rw [Bool.and_eq_true] at hd
      rw [tidy_cons_drop hd.1 hd.2]
      cases p with
      | mark l => exact ih
      | body l => simp [sectionBody, ih, wordCount_of_isBlank hd.1]
      | opening l => cases hd.1

theorem score_opening (file : String) (i : Nat) (h : String) (ls : List String) :
    Context.score ⟨file, i, h :: ls⟩ = wordCount h + total (ls.map wordCount) := by
  simp [Context.score]

theorem place_eq {c : Collapsed} {i j : Nat} {rest : List (Option Nat)}
    (h : c.indexMap.drop i = some j :: rest) : c.place i = j := by
  have hi : c.indexMap[i]? = some (some j) := by
    have hd : (c.indexMap.drop i)[0]? = c.indexMap[i + 0]? := List.getElem?_drop
    rwa [h, List.getElem?_cons_zero, Nat.add_zero, eq_comm] at hd
  simp [Collapsed.place, hi]

theorem drop_succ_of_drop {α : Type} {as rest : List α} {a : α} {i : Nat}
    (h : as.drop i = a :: rest) : as.drop (i + 1) = rest := by
  rw [← List.drop_drop, h]
  rfl

/-- The contexts behind the first `n` of the lines, of which `k` are left, stand in the places that
tidied pieces give them. -/
theorem map_brief_contexts (file : String) (c : Collapsed) {ps : List Piece} (n k : Nat)
    (hp : ∀ p ∈ ps, p.Proper) (h : c.indexMap.drop n = collapseMap k (allLines ps)) :
    (contexts file n ps).map (fun x => { x with lineIndex := c.place x.lineIndex }.brief) =
      (contexts file k (tidy isBlank ps)).map Context.brief := by
  induction ps generalizing n k with
  | nil => rfl
  | cons p ps ih =>
    have hps : ∀ q ∈ ps, q.Proper := fun q hq => hp q (List.mem_cons_of_mem _ hq)
    -- a piece of one line moves both counts alike, or goes and moves only the first
    have one (l : String) (hl : p.lines = [l]) (hb : p.isBlank = Text.isBlank l)
        (hc : ∀ i qs, contexts file i (p :: qs) = contexts file (i + 1) qs) :
        (contexts file n (p :: ps)).map
            (fun x => { x with lineIndex := c.place x.lineIndex }.brief) =
          (contexts file k (tidy isBlank (p :: ps))).map Context.brief := by
      rw [hc]
      rw [allLines_cons, hl, List.singleton_append, collapseMap] at h
      cases ps with
      | nil =>
        cases hd : p.isBlank with
        | true => rw [tidy_cons_drop hd rfl]; rfl
        | false => rw [tidy_cons_solid _ hd, hc]; rfl
      | cons q qs =>
        have hs : startsBlank (allLines (q :: qs)) = (q :: qs).head?.all isBlank := by
          rw [← head?_flatMap_spreads fun r hr => (hps r hr).spreads_lines]
          exact startsBlank_eq _ (by cases q <;> simp [lines])
        rw [hs, ← hb] at h
        cases hd : p.isBlank && (q :: qs).head?.all isBlank with
        | true =>
          rw [hd, if_pos rfl] at h
          rw [Bool.and_eq_true] at hd
          rw [tidy_cons_drop hd.1 hd.2]
          exact ih (n + 1) k hps (drop_succ_of_drop h)
        | false =>
          rw [hd, if_neg (by simp)] at h
          rw [tidy_cons_keep hd, hc]
          exact ih (n + 1) (k + 1) hps (drop_succ_of_drop h)
    cases p with
    | mark l => exact one l rfl rfl fun _ _ => rfl
    | body l => exact one l rfl rfl fun _ _ => rfl
    | opening l =>
      have hl : Text.isBlank l = false := not_isBlank_of_isHeader (hp (.opening l) (by simp))
      have hs : Text.isBlank Marker.separator.sentinel = false := by decide
      have hm : c.indexMap.drop n =
          some k :: some (k + 1) :: some (k + 2) :: collapseMap (k + 3) (allLines ps) := by
        rw [h]
        simp [lines, collapseMap, hs, hl, startsBlank]
      have hn : c.indexMap.drop (n + 3) = collapseMap (k + 3) (allLines ps) :=
        drop_succ_of_drop (drop_succ_of_drop (drop_succ_of_drop hm))
      rw [tidy_cons_solid _ rfl]
      simp only [contexts, List.map_cons, Context.brief, place_eq hm, score_opening,
        total_sectionBody_tidy]
      exact congrArg _ (ih (n + 3) (k + 3) hps hn)

/-- The contexts of a page stand where its tidied pieces have them. -/
theorem map_brief_ofPieces (file : String) {ps : List Piece} (h : ∀ p ∈ ps, p.Proper) :
    (Document.ofPieces file ps).contexts.map Context.brief =
      (contexts file 0 (tidy isBlank ps)).map Context.brief := by
  show (List.map _ (contexts file 0 ps)).map Context.brief = _
  rw [List.map_map]
  exact map_brief_contexts file (Collapsed.ofLines (allLines ps)) 0 0 h rfl

/-! ## The pieces of a text -/

/-- The pieces of a whole text. -/
def ofText (text : String) : List Piece := ofLines .start false (Text.lines text)

theorem settled_ofText (text : String) : Settled .start false (ofText text) :=
  settled_ofLines false _ (.refl _)

theorem proper_ofText (text : String) : ∀ p ∈ ofText text, p.Proper :=
  (settled_ofText text).proper

theorem line_mem_of_mem_ofLines {before : Lookback} {inCode : Bool} {ls : List String} {p : Piece}
    (h : p ∈ ofLines before inCode ls) : p.line ∈ ls := by
  induction before, inCode, ls using reading_induction with
  | nil => simp [ofLines] at h
  | line before inCode l rest hl ih =>
    rw [ofLines_cons _ hl] at h
    rcases List.mem_cons.1 h with rfl | h
    · simp [line_ofLine]
    · exact List.mem_cons_of_mem _ (ih h)
  | separator before inCode l rest hl hr ih =>
    rw [ofLines_separator hl hr] at h
    exact List.mem_cons_of_mem _ (ih h)
  | restated before l blank below hl hb hh ih =>
    rw [ofLines_restated hl (restates_cons hb hh)] at h
    exact List.mem_cons_of_mem _ (List.mem_cons_of_mem _ (ih h))

theorem mem_lines {p : Piece} {l : String} (h : l ∈ p.lines) :
    l = p.line ∨ l = Marker.separator.sentinel ∨ l = "" := by
  cases p with
  | mark k => exact .inl (List.mem_singleton.1 h)
  | body k => exact .inl (List.mem_singleton.1 h)
  | opening k =>
    simp only [lines, List.mem_cons, List.not_mem_nil, or_false] at h
    rcases h with rfl | rfl | rfl
    · exact .inr (.inl rfl)
    · exact .inr (.inr rfl)
    · exact .inl rfl

/-- A line that is written was read, or belongs to the block of a separator. -/
theorem mem_allLines_of_subset {before : Lookback} {inCode : Bool} {ls : List String}
    {ps : List Piece} {l : String} (hp : ps ⊆ ofLines before inCode ls) (h : l ∈ allLines ps) :
    l ∈ ls ∨ l = Marker.separator.sentinel ∨ l = "" := by
  obtain ⟨p, hm, hl⟩ := List.mem_flatMap.1 h
  rcases mem_lines hl with rfl | hs
  · exact .inl (line_mem_of_mem_ofLines (hp hm))
  · exact .inr hs

/-- The pieces of some lines without the blank ones that go. -/
def tidied (before : Lookback) (inCode : Bool) (ls : List String) : List Piece :=
  tidy isBlank (ofLines before inCode ls)

theorem mem_allLines_tidied {before : Lookback} {inCode : Bool} {ls : List String} {l : String}
    (h : l ∈ allLines (tidied before inCode ls)) :
    l ∈ ls ∨ l = Marker.separator.sentinel ∨ l = "" :=
  mem_allLines_of_subset (fun _ => mem_of_mem_tidy) h

theorem settled_tidied (before : Lookback) (inCode : Bool) (ls : List String) :
    Settled before inCode (tidied before inCode ls) :=
  (settled_ofLines inCode ls (.refl _)).tidy (.refl _)

/-- The lines of tidied pieces are read back as they were written. -/
theorem tidied_allLines_tidied (before : Lookback) (inCode : Bool) (ls : List String) :
    tidied before inCode (allLines (tidied before inCode ls)) = tidied before inCode ls := by
  rw [tidied, (settled_tidied before inCode ls).ofLines_allLines, tidied, tidy_tidy]

theorem newline_not_mem_allLines {text l : String}
    (h : l ∈ allLines (tidy isBlank (ofText text))) : '\n' ∉ l.toList := by
  rcases mem_allLines_tidied h with hl | rfl | rfl
  · exact newline_not_mem_of_mem_lines hl
  · decide
  · decide

end Piece

/-! ## Segmented texts -/

variable {file text : String} {d : Document}

theorem segment_eq_rewritten_iff :
    segment file text = .rewritten d ↔
      isExcluded text = false ∧ d = Document.ofPieces file (Piece.ofText text) := by
  unfold segment
  split
  · rename_i h
    simp [h]
  · rename_i h
    simp only [Segmented.rewritten.injEq, h, true_and]
    exact eq_comm

theorem text_of_segment (h : segment file text = .rewritten d) :
    d.text = unlines (Piece.allLines (tidy Piece.isBlank (Piece.ofText text))) := by
  rw [(segment_eq_rewritten_iff.1 h).2, Piece.text_ofPieces _ (Piece.proper_ofText text)]

theorem map_brief_of_segment (h : segment file text = .rewritten d) :
    d.contexts.map Context.brief =
      (Piece.contexts file 0 (tidy Piece.isBlank (Piece.ofText text))).map Context.brief := by
  rw [(segment_eq_rewritten_iff.1 h).2, Piece.map_brief_ofPieces _ (Piece.proper_ofText text)]

end PagePrep
