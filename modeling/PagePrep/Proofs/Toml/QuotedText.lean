import PagePrep.Toml.Text
import PagePrep.Toml.Writer

/-!
# Quoted texts read back

A text is written in one of four ways. Each is undone by the reader that its quotes call for: a step of
the writer is undone by a step of the reader (`readBasic_escape`, `readLongBasic_escapeChar`), and by
induction over the characters the whole text is read back (`readText_quotedChars`). Over several lines the
reader takes quotes at the end of the text for its own, and the writer never leaves it more than two.
-/

set_option autoImplicit false

namespace PagePrep.Toml

variable {c quote : Char} {cs rest held : List Char}

/-! ## Characters -/

/-- No quote comes next. -/
def NoQuote (rest : List Char) : Prop := rest.head? ≠ some '"' ∧ rest.head? ≠ some '\''

theorem isTextChar_of_not_needsEscape (h : needsEscape c = false) (hn : c ≠ '\n') :
    isTextChar c = true := by
  have hle : c ≤ '\x1f' ∨ ' ' ≤ c := by
    rcases Nat.lt_or_ge c.toNat 32 with hc | hc
    · exact .inl (Nat.le_of_lt_succ hc)
    · exact .inr hc
  simp only [needsEscape, isTextChar] at *
  grind

theorem toNat_lt_of_needsEscape (h : needsEscape c = true) : c.toNat < 128 := by
  simp only [needsEscape, Bool.and_eq_true, Bool.or_eq_true, decide_eq_true_eq, beq_iff_eq] at h
  rcases h.2 with h | rfl
  · have hc : c.toNat ≤ 0x1f := h
    omega
  · decide

/-- The code of a control character is read back. -/
theorem ofCode?_codeDigits (h : needsEscape c = true) :
    (codeDigits c).length = 4 ∧ ofCode? (codeDigits c) = some c := by
  have hall : ∀ n < 128, (codeDigits (Char.ofNat n)).length = 4 ∧
      ofCode? (codeDigits (Char.ofNat n)) = some (Char.ofNat n) := by decide +kernel
  have hc := hall c.toNat (toNat_lt_of_needsEscape h)
  rwa [Char.ofNat_toNat] at hc

/-- What an escape is made of: it starts with a letter, and is read as one character. -/
structure Escapes (es : List Char) (c : Char) : Prop where
  read : ∀ rest, readEscape (es ++ rest) = some (c, rest)
  letter : ∃ d ds, es = d :: ds ∧ isWhite d = false ∧ d ≠ '\n' ∧ d ≠ '\r'

theorem escapes_code (h : needsEscape c = true) : Escapes ('u' :: codeDigits c) c where
  read := by
    intro rest
    obtain ⟨hl, hc⟩ := ofCode?_codeDigits h
    have htake : (codeDigits c ++ rest).take 4 = codeDigits c := List.take_left' hl
    have hdrop : (codeDigits c ++ rest).drop 4 = rest := List.drop_left' hl
    have hlen : ¬ (codeDigits c ++ rest).length < 4 := by
      rw [List.length_append]
      omega
    rw [List.cons_append, readEscape, readCode, if_neg hlen, htake, hdrop, hc]
    rfl
  letter := ⟨'u', _, rfl, by decide, by decide, by decide⟩

theorem escapes_plain {d : Char} (h : plainEscape? d = some c) : Escapes [d] c := by
  unfold plainEscape? at h
  split at h <;> cases h <;> exact ⟨fun _ => rfl, _, [], rfl, by decide, by decide, by decide⟩

/-- How a character other than a double quote is written: as it is, or as an escape. -/
theorem escapeChar_cases (long : Bool) (c : Char) :
    (escapeChar long c = [c] ∧ c ≠ '\\' ∧ (isTextChar c = true ∨ long = true ∧ c = '\n')) ∨
      ∃ es, escapeChar long c = '\\' :: es ∧ Escapes es c := by
  unfold escapeChar
  split
  · exact .inr ⟨_, rfl, escapes_plain rfl⟩
  · exact .inr ⟨_, rfl, escapes_plain rfl⟩
  · split
    · exact .inl ⟨rfl, by decide, .inr ⟨‹_›, rfl⟩⟩
    · exact .inr ⟨_, rfl, escapes_plain rfl⟩
  · exact .inr ⟨_, rfl, escapes_plain rfl⟩
  · exact .inr ⟨_, rfl, escapes_plain rfl⟩
  · exact .inr ⟨_, rfl, escapes_plain rfl⟩
  · next hn _ _ hb =>
    split
    · next h => exact .inr ⟨_, rfl, escapes_code h⟩
    · next h =>
      exact .inl ⟨rfl, hb, .inl (isTextChar_of_not_needsEscape (by simpa using h) hn)⟩

/-! ## Texts on one line -/

theorem readBasic_quote : readBasic held ('"' :: rest) = some (String.ofList held.reverse, rest) := by
  rw [readBasic, if_pos rfl]

theorem readBasic_char (hq : c ≠ '"') (hb : c ≠ '\\') (ht : isTextChar c = true) :
    readBasic held (c :: rest) = readBasic (c :: held) rest := by
  rw [readBasic, if_neg hq, if_neg hb, if_pos ht]

theorem readBasic_escape {es : List Char} (h : Escapes es c) :
    readBasic held ('\\' :: (es ++ rest)) = readBasic (c :: held) rest := by
  rw [readBasic, if_neg (by decide), if_pos rfl]
  split
  · next hn => simp [h.read] at hn
  · next x more hx =>
    rw [h.read] at hx
    obtain ⟨rfl, rfl⟩ := Prod.mk.inj (Option.some.inj hx)
    rfl

theorem readBasic_escapeChars (run : Nat) (cs held : List Char) :
    readBasic held (escapeChars false run cs ++ '"' :: rest) =
      some (String.ofList (held.reverse ++ cs), rest) := by
  induction cs generalizing run held with
  | nil => rw [escapeChars, List.nil_append, readBasic_quote, List.append_nil]
  | cons c cs ih =>
    have hlast : held.reverse ++ c :: cs = (c :: held).reverse ++ cs := by simp
    rw [escapeChars, hlast]
    by_cases hq : c = '"'
    · subst hq
      rw [if_pos rfl]
      show readBasic held ('\\' :: (['"'] ++ (escapeChars false 0 cs ++ '"' :: rest))) = _
      rw [readBasic_escape (escapes_plain rfl), ih]
    · rw [if_neg hq, List.append_assoc]
      rcases escapeChar_cases false c with ⟨he, hb, ht⟩ | ⟨es, he, hes⟩
      · have ht : isTextChar c = true := by simpa using ht
        rw [he, List.singleton_append, readBasic_char hq hb ht, ih]
      · rw [he, List.cons_append, readBasic_escape hes, ih]

theorem readLiteral_chars (cs held : List Char) (hq : '\'' ∉ cs)
    (ht : ∀ c ∈ cs, isTextChar c = true) :
    readLiteral held (cs ++ '\'' :: rest) = some (String.ofList (held.reverse ++ cs), rest) := by
  induction cs generalizing held with
  | nil => rw [List.nil_append, readLiteral, if_pos rfl, List.append_nil]
  | cons c cs ih =>
    rw [List.mem_cons, not_or] at hq
    rw [List.cons_append, readLiteral, if_neg (Ne.symm hq.1), if_pos (ht c (by simp)),
      ih (c :: held) hq.2 fun d hd => ht d (List.mem_cons_of_mem _ hd)]
    simp

/-! ## Texts over several lines -/

/-- Up to two quotes behind three more belong to the text. -/
theorem closeLong_replicate {k : Nat} (hk : k ≤ 2) (hr : rest.head? ≠ some quote) (held : List Char) :
    closeLong quote held (List.replicate k quote ++ rest) =
      (String.ofList (held.reverse ++ List.replicate k quote), rest) := by
  match k, hk with
  | 0, _ =>
    match rest, hr with
    | [], _ => simp [closeLong]
    | [c], hr => simp_all [closeLong]
    | c :: d :: cs, hr => simp_all [closeLong]
  | 1, _ =>
    match rest, hr with
    | [], _ => simp [closeLong]
    | c :: cs, hr => simp_all [closeLong]
  | 2, _ => simp [closeLong, List.replicate]

theorem closesLong_three (quote : Char) (cs : List Char) :
    closesLong quote (quote :: quote :: quote :: cs) = true := by
  simp [closesLong]

theorem not_closesLong_of_ne (h : c ≠ quote) : closesLong quote (c :: cs) = false := by
  simp [closesLong, List.isPrefixOf, Ne.symm h]

/-- Up to two quotes before the closing three stand at the closing three just as well. -/
theorem replicate_append_three {k : Nat} (hk : k ≤ 2) (quote : Char) (rest : List Char) :
    List.replicate k quote ++ (quote :: quote :: quote :: rest) =
      quote :: quote :: quote :: (List.replicate k quote ++ rest) := by
  match k, hk with
  | 0, _ => rfl
  | 1, _ => rfl
  | 2, _ => rfl

theorem lineEnd?_of_isTextChar (h : isTextChar c = true) : lineEnd? (c :: rest) = none := by
  unfold lineEnd?
  split
  · next he =>
    cases he
    cases h
  · next he =>
    cases he
    cases h
  · rfl

theorem skipJoin?_of_escapes {es : List Char} (h : Escapes es c) : skipJoin? (es ++ rest) = none := by
  obtain ⟨d, ds, rfl, hw, hn, hr⟩ := h.letter
  rw [skipJoin?, skipWhite, List.cons_append, List.dropWhile_cons_of_neg (by simp [hw])]
  simp [lineEnd?, hn, hr]

/-- A run of quotes ends a text with at most two of them. -/
theorem readLongBasic_quotes {k : Nat} (hk : k ≤ 2) (hr : rest.head? ≠ some '"') (held : List Char) :
    readLongBasic held (List.replicate k '"' ++ ('"' :: '"' :: '"' :: rest)) =
      some (String.ofList (held.reverse ++ List.replicate k '"'), rest) := by
  rw [replicate_append_three hk, readLongBasic, if_pos (closesLong_three '"' _)]
  exact congrArg some (closeLong_replicate hk hr held)

theorem readLongBasic_char (hc : closesLong '"' (c :: rest) = false) (hb : c ≠ '\\')
    (ht : isTextChar c = true ∨ c = '\n') :
    readLongBasic held (c :: rest) = readLongBasic (c :: held) rest := by
  rw [readLongBasic, if_neg (by simp [hc]), if_neg hb]
  rcases ht with ht | rfl
  · split
    · next he => simp [lineEnd?_of_isTextChar ht] at he
    · rw [if_pos ht]
  · split
    · next he =>
      obtain rfl : rest = _ := Option.some.inj he
      rfl
    · next he => cases he

theorem readLongBasic_escape {es : List Char} (h : Escapes es c) :
    readLongBasic held ('\\' :: (es ++ rest)) = readLongBasic (c :: held) rest := by
  rw [readLongBasic, if_neg (by simp [not_closesLong_of_ne]), if_pos rfl]
  split
  · next he => simp [skipJoin?_of_escapes h] at he
  · split
    · next hn => simp [h.read] at hn
    · next x more hx =>
      rw [h.read] at hx
      obtain ⟨rfl, rfl⟩ := Prod.mk.inj (Option.some.inj hx)
      rfl

theorem readLongBasic_escapeChar (hq : c ≠ '"') :
    readLongBasic held (escapeChar true c ++ rest) = readLongBasic (c :: held) rest := by
  rcases escapeChar_cases true c with ⟨he, hb, ht⟩ | ⟨es, he, hes⟩
  · rw [he]
    exact readLongBasic_char (not_closesLong_of_ne hq) hb (by simpa using ht)
  · rw [he]
    exact readLongBasic_escape hes

/-- A reader that takes a quote as it is, where it is not the first of three, takes up to two quotes
before another character as they are. -/
theorem quotes_before {α : Type} (read : List Char → List Char → α)
    (step : ∀ held rest, closesLong quote (quote :: rest) = false →
      read held (quote :: rest) = read (quote :: held) rest)
    {k : Nat} (hk : k ≤ 2) (hd : c ≠ quote) (held : List Char) :
    read held (List.replicate k quote ++ c :: cs) = read (List.replicate k quote ++ held) (c :: cs) := by
  have hone : closesLong quote (quote :: c :: cs) = false := by
    simp [closesLong, List.isPrefixOf, Ne.symm hd]
  have htwo : closesLong quote (quote :: quote :: c :: cs) = false := by
    simp [closesLong, List.isPrefixOf, Ne.symm hd]
  match k, hk with
  | 0, _ => rfl
  | 1, _ => exact step held (c :: cs) hone
  | 2, _ => exact (step held (quote :: c :: cs) htwo).trans (step (quote :: held) (c :: cs) hone)

/-- A text is up to two quotes, or goes on behind them: with another character, or with a third quote. -/
theorem quotes_cases (quote : Char) (cs : List Char) :
    (∃ k ≤ 2, cs = List.replicate k quote) ∨
      ∃ k ≤ 2, ∃ d ds, (d ≠ quote ∨ k = 2) ∧ cs = List.replicate k quote ++ d :: ds := by
  match cs with
  | [] => exact .inl ⟨0, by omega, rfl⟩
  | [c] =>
    by_cases hc : c = quote
    · exact .inl ⟨1, by omega, by rw [hc]; rfl⟩
    · exact .inr ⟨0, by omega, c, [], .inl hc, rfl⟩
  | c :: d :: ds =>
    by_cases hc : c = quote
    · subst hc
      by_cases hd : d = c
      · subst hd
        cases ds with
        | nil => exact .inl ⟨2, by omega, rfl⟩
        | cons e es => exact .inr ⟨2, by omega, e, es, .inr rfl, rfl⟩
      · exact .inr ⟨1, by omega, d, ds, .inl hd, rfl⟩
    · exact .inr ⟨0, by omega, c, d :: ds, .inl hc, rfl⟩

theorem escapeChars_quotes {k : Nat} (hk : k ≤ 2) :
    escapeChars true 0 (List.replicate k '"') = List.replicate k '"' := by
  match k, hk with
  | 0, _ => rfl
  | 1, _ => rfl
  | 2, _ => rfl

/-- Behind up to two quotes, a character is written so that it is read as itself and the quotes before it
are no three in a row. -/
theorem exists_piece {k : Nat} (hk : k ≤ 2) {d : Char} (hd : d ≠ '"' ∨ k = 2) (ds : List Char) :
    ∃ e es, escapeChars true 0 (List.replicate k '"' ++ d :: ds) =
        List.replicate k '"' ++ e :: (es ++ escapeChars true 0 ds) ∧ e ≠ '"' ∧
      ∀ held rest, readLongBasic held (e :: (es ++ rest)) = readLongBasic (d :: held) rest := by
  by_cases hq : d = '"'
  · obtain rfl : k = 2 := by simpa [hq] using hd
    subst hq
    exact ⟨'\\', ['"'], rfl, by decide, fun held rest => readLongBasic_escape (escapes_plain rfl)⟩
  · have hread (held rest : List Char) :
        readLongBasic held (escapeChar true d ++ rest) = readLongBasic (d :: held) rest :=
      readLongBasic_escapeChar hq
    have hwrite : escapeChars true 0 (List.replicate k '"' ++ d :: ds) =
        List.replicate k '"' ++ (escapeChar true d ++ escapeChars true 0 ds) := by
      match k, hk with
      | 0, _ => simp [escapeChars, hq]
      | 1, _ => simp [escapeChars, hq]
      | 2, _ => simp [escapeChars, hq, List.replicate]
    rcases escapeChar_cases true d with ⟨he, -⟩ | ⟨es, he, -⟩
    · rw [he] at hread hwrite
      exact ⟨d, [], hwrite, hq, hread⟩
    · rw [he] at hread hwrite
      exact ⟨'\\', es, hwrite, by decide, hread⟩

/-- The reader takes back what the writer does. It never takes quotes of the text for the closing three,
since the writer escapes every third quote in a row. -/
theorem readLongBasic_escapeChars (hr : rest.head? ≠ some '"') (cs held : List Char) :
    readLongBasic held (escapeChars true 0 cs ++ ('"' :: '"' :: '"' :: rest)) =
      some (String.ofList (held.reverse ++ cs), rest) := by
  have hstep (held rest : List Char) (hc : closesLong '"' ('"' :: rest) = false) :
      readLongBasic held ('"' :: rest) = readLongBasic ('"' :: held) rest :=
    readLongBasic_char hc (by decide) (.inl (by decide))
  generalize hn : cs.length = n
  induction n using Nat.strongRecOn generalizing cs held with
  | ind n ih =>
    subst hn
    rcases quotes_cases '"' cs with ⟨k, hk, rfl⟩ | ⟨k, hk, d, ds, hd, rfl⟩
    · rw [escapeChars_quotes hk]
      exact readLongBasic_quotes hk hr held
    · obtain ⟨e, es, hwrite, he, hread⟩ := exists_piece hk hd ds
      have hl : ds.length < (List.replicate k '"' ++ d :: ds).length := by simp; omega
      rw [hwrite, List.append_assoc, List.cons_append, List.append_assoc,
        quotes_before readLongBasic hstep hk he, hread, ih _ hl ds _ rfl]
      simp

/-! ## Texts over several lines without escapes -/

theorem le_longestRun (c : Char) (run : Nat) (cs : List Char) : run ≤ longestRun c run cs := by
  induction cs generalizing run with
  | nil => exact Nat.le_refl _
  | cons d cs ih =>
    rw [longestRun]
    split
    · exact Nat.le_of_succ_le (ih (run + 1))
    · exact Nat.le_max_left _ _

theorem longestRun_mono (c : Char) {run run' : Nat} (h : run ≤ run') (cs : List Char) :
    longestRun c run cs ≤ longestRun c run' cs := by
  induction cs generalizing run run' with
  | nil => exact h
  | cons d cs ih =>
    rw [longestRun, longestRun]
    split
    · exact ih (by omega)
    · omega

theorem longestRun_le_cons (c d : Char) (cs : List Char) :
    longestRun c 0 cs ≤ longestRun c 0 (d :: cs) := by
  rw [longestRun]
  split
  · exact longestRun_mono c (by omega) cs
  · exact Nat.le_max_right _ _

theorem not_mem_of_longestRun_eq_zero (h : longestRun c 0 cs = 0) : c ∉ cs := by
  induction cs with
  | nil => simp
  | cons d cs ih =>
    have hcs := longestRun_le_cons c d cs
    intro hm
    rcases List.mem_cons.1 hm with rfl | hm
    · rw [longestRun, if_pos rfl] at h
      have := le_longestRun c (0 + 1) cs
      omega
    · exact ih (by omega) hm

theorem longestRun_append (c : Char) (as cs : List Char) :
    longestRun c 0 cs ≤ longestRun c 0 (as ++ cs) := by
  induction as with
  | nil => exact Nat.le_refl _
  | cons a as ih => exact Nat.le_trans ih (longestRun_le_cons c a _)

theorem readLongLiteral_quotes {k : Nat} (hk : k ≤ 2) (hr : rest.head? ≠ some '\'')
    (held : List Char) :
    readLongLiteral held (List.replicate k '\'' ++ ('\'' :: '\'' :: '\'' :: rest)) =
      some (String.ofList (held.reverse ++ List.replicate k '\''), rest) := by
  rw [replicate_append_three hk, readLongLiteral, if_pos (closesLong_three '\'' _)]
  exact congrArg some (closeLong_replicate hk hr held)

theorem readLongLiteral_char (hc : closesLong '\'' (c :: rest) = false)
    (ht : isTextChar c = true ∨ c = '\n') :
    readLongLiteral held (c :: rest) = readLongLiteral (c :: held) rest := by
  rw [readLongLiteral, if_neg (by simp [hc])]
  rcases ht with ht | rfl
  · split
    · next he => simp [lineEnd?_of_isTextChar ht] at he
    · rw [if_pos ht]
  · split
    · next he =>
      obtain rfl : rest = _ := Option.some.inj he
      rfl
    · next he => cases he

/-- A text with no three quotes in a row is taken as it is. -/
theorem readLongLiteral_chars (hr : rest.head? ≠ some '\'') (cs held : List Char)
    (hq : longestRun '\'' 0 cs ≤ 2) (ht : ∀ c ∈ cs, isTextChar c = true ∨ c = '\n') :
    readLongLiteral held (cs ++ ('\'' :: '\'' :: '\'' :: rest)) =
      some (String.ofList (held.reverse ++ cs), rest) := by
  have hstep (held rest : List Char) (hc : closesLong '\'' ('\'' :: rest) = false) :
      readLongLiteral held ('\'' :: rest) = readLongLiteral ('\'' :: held) rest :=
    readLongLiteral_char hc (.inl (by decide))
  generalize hn : cs.length = n
  induction n using Nat.strongRecOn generalizing cs held with
  | ind n ih =>
    subst hn
    rcases quotes_cases '\'' cs with ⟨k, hk, rfl⟩ | ⟨k, hk, d, ds, hd, rfl⟩
    · exact readLongLiteral_quotes hk hr held
    · have hne : d ≠ '\'' := by
        rintro rfl
        obtain rfl : k = 2 := by simpa using hd
        have := le_longestRun '\'' (0 + 1 + 1 + 1) ds
        have : longestRun '\'' (0 + 1 + 1 + 1) ds ≤ 2 := by simpa [longestRun, List.replicate] using hq
        omega
      have hl : ds.length < (List.replicate k '\'' ++ d :: ds).length := by simp; omega
      have hq' : longestRun '\'' 0 ds ≤ 2 :=
        Nat.le_trans (Nat.le_trans (longestRun_le_cons _ d ds) (longestRun_append _ _ _)) hq
      rw [List.append_assoc, List.cons_append, quotes_before readLongLiteral hstep hk hne,
        readLongLiteral_char (not_closesLong_of_ne hne) (ht d (by simp)),
        ih _ hl ds _ hq' (fun c hc => ht c (by simp [hc])) rfl]
      simp

/-! ## The four ways -/

theorem Quoting.of_literal {t : Traits} (h : ofTraits t = .literal) :
    t.control = false ∧ t.singles = 0 ∧ t.newline = false := by
  unfold ofTraits at h
  grind

theorem Quoting.of_longLiteral {t : Traits} (h : ofTraits t = .longLiteral) :
    t.control = false ∧ t.singles ≤ 2 := by
  unfold ofTraits at h
  grind

theorem isTextChar_of_ofChars (h : (Traits.ofChars cs).control = false) :
    ∀ c ∈ cs, isTextChar c = true ∨ c = '\n' := by
  intro c hc
  by_cases hn : c = '\n'
  · exact .inr hn
  · have hall : ∀ d ∈ cs, needsEscape d = false := by simpa [Traits.ofChars] using h
    exact .inl (isTextChar_of_not_needsEscape (hall c hc) hn)

theorem not_mem_of_newline (h : (Traits.ofChars cs).newline = false) : '\n' ∉ cs := by
  simpa [Traits.ofChars] using h

/-- The line end that opens a text with line ends is dropped, and nothing else is. -/
theorem skipFirstEnd_start {newline : Bool} (h : newline = false → lineEnd? cs = none) :
    skipFirstEnd ((if newline then ['\n'] else []) ++ cs) = cs := by
  cases newline with
  | true => rfl
  | false =>
    show (lineEnd? cs).getD cs = cs
    rw [h rfl]
    rfl

theorem lineEnd?_escapeChars (h : '\n' ∉ cs) (rest : List Char) :
    lineEnd? (escapeChars true 0 cs ++ '"' :: rest) = none := by
  cases cs with
  | nil => exact lineEnd?_of_isTextChar (by decide)
  | cons c cs =>
    rw [escapeChars]
    by_cases hq : c = '"'
    · rw [if_pos hq]
      exact lineEnd?_of_isTextChar (by decide)
    · rw [if_neg hq]
      rcases escapeChar_cases true c with ⟨he, -, ht | ⟨-, rfl⟩⟩ | ⟨es, he, -⟩
      · rw [he]
        exact lineEnd?_of_isTextChar ht
      · simp at h
      · rw [he]
        exact lineEnd?_of_isTextChar (by decide)

theorem lineEnd?_chars (ht : ∀ c ∈ cs, isTextChar c = true ∨ c = '\n') (h : '\n' ∉ cs)
    (rest : List Char) : lineEnd? (cs ++ '\'' :: rest) = none := by
  cases cs with
  | nil => exact lineEnd?_of_isTextChar (by decide)
  | cons c cs =>
    rcases ht c (by simp) with ht | rfl
    · exact lineEnd?_of_isTextChar ht
    · simp at h

/-- A text in single quotes that no quote follows is none in three. -/
theorem not_closesLong_short (h : cs.head? ≠ some quote) (hr : rest.head? ≠ some quote) :
    closesLong quote (quote :: (cs ++ quote :: rest)) = false := by
  cases cs with
  | nil =>
    cases rest with
    | nil => simp [closesLong, List.isPrefixOf]
    | cons d ds =>
      have hd : d ≠ quote := by simpa using hr
      simp [closesLong, List.isPrefixOf, Ne.symm hd]
  | cons c cs =>
    have hc : c ≠ quote := by simpa using h
    simp [closesLong, List.isPrefixOf, Ne.symm hc]

theorem head?_escapeChars_short (run : Nat) (cs : List Char) :
    (escapeChars false run cs).head? ≠ some '"' := by
  cases cs with
  | nil => simp [escapeChars]
  | cons c cs =>
    rw [escapeChars]
    by_cases hq : c = '"'
    · simp [hq]
    · rw [if_neg hq]
      rcases escapeChar_cases false c with ⟨he, -⟩ | ⟨es, he, -⟩ <;> simp [he, hq]

theorem readText_longBasic (cs : List Char) :
    readText ('"' :: '"' :: '"' :: cs) = readLongBasic [] (skipFirstEnd cs) := by
  rw [readText, if_pos (closesLong_three '"' cs)]
  rfl

theorem readText_longLiteral (cs : List Char) :
    readText ('\'' :: '\'' :: '\'' :: cs) = readLongLiteral [] (skipFirstEnd cs) := by
  rw [readText, not_closesLong_of_ne (by decide), if_neg (by simp),
    if_pos (closesLong_three '\'' cs)]
  rfl

/-- **A quoted text is read back**, whatever characters it holds and whatever else than a quote follows. -/
theorem readText_quotedChars (hr : NoQuote rest) (cs : List Char) :
    readText (quotedChars cs ++ rest) = some (String.ofList cs, rest) := by
  cases hw : Quoting.ofTraits (Traits.ofChars cs) with
  | basic =>
    have hlong := not_closesLong_short (head?_escapeChars_short 0 cs) hr.1
    simp only [quotedChars, hw, List.cons_append, List.append_assoc, List.nil_append]
    rw [readText, hlong, not_closesLong_of_ne (by decide)]
    exact readBasic_escapeChars 0 cs []
  | literal =>
    obtain ⟨hc, hs, hn⟩ := Quoting.of_literal hw
    have hq : '\'' ∉ cs := not_mem_of_longestRun_eq_zero hs
    have ht : ∀ c ∈ cs, isTextChar c = true := by
      intro c hm
      refine (isTextChar_of_ofChars hc c hm).resolve_right ?_
      rintro rfl
      exact not_mem_of_newline hn hm
    have hhead : cs.head? ≠ some '\'' := fun he => hq (List.mem_of_mem_head? he)
    have hlong := not_closesLong_short hhead hr.2
    simp only [quotedChars, hw, List.cons_append, List.append_assoc, List.nil_append]
    rw [readText, not_closesLong_of_ne (by decide), hlong]
    exact readLiteral_chars cs [] hq ht
  | longBasic =>
    have hstart := skipFirstEnd_start fun hn : (Traits.ofChars cs).newline = false =>
      lineEnd?_escapeChars (not_mem_of_newline hn) ('"' :: '"' :: rest)
    simp only [quotedChars, hw, List.cons_append, List.append_assoc, List.nil_append]
    rw [readText_longBasic, hstart]
    exact readLongBasic_escapeChars hr.1 cs []
  | longLiteral =>
    obtain ⟨hc, hs⟩ := Quoting.of_longLiteral hw
    have ht := isTextChar_of_ofChars hc
    have hstart := skipFirstEnd_start fun hn : (Traits.ofChars cs).newline = false =>
      lineEnd?_chars ht (not_mem_of_newline hn) ('\'' :: '\'' :: rest)
    simp only [quotedChars, hw, List.cons_append, List.append_assoc, List.nil_append]
    rw [readText_longLiteral, hstart]
    exact readLongLiteral_chars hr.2 cs [] hs ht

end PagePrep.Toml
