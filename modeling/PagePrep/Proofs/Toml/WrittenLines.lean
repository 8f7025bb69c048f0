import PagePrep.Proofs.Toml.QuotedText
import PagePrep.Toml.Reader

/-!
# Written lines read back

A document is written line by line: headers, settings and lines that say nothing. Texts, lists of texts and
numbers are read back as the values that were written (`readValue_quoted`, `readValue_quotedList`,
`readValue_nat`). So each line says one thing whatever follows it (`Says`), and the whole document says what
its lines say, in order (`readStatements_lines`).
-/

set_option autoImplicit false

namespace PagePrep.Toml

variable {rest : List Char}

/-! ## Texts -/

theorem exists_quote (cs : List Char) :
    ∃ quote ds, quotedChars cs = quote :: ds ∧ (quote = '"' ∨ quote = '\'') := by
  cases hw : Quoting.ofTraits (Traits.ofChars cs) <;> simp [quotedChars, hw]

theorem readScalar_quoted (hr : NoQuote rest) (cs : List Char) :
    readScalar (quotedChars cs ++ rest) = some (.text (String.ofList cs), rest) := by
  have hread := readText_quotedChars hr cs
  obtain ⟨quote, ds, he, hq⟩ := exists_quote cs
  rw [he] at hread ⊢
  have hc : (decide (quote = '"') || decide (quote = '\'')) = true := by simpa using hq
  rw [List.cons_append, readScalar]
  simp only [hc, if_true]
  rw [← List.cons_append, hread]
  rfl

/-- What is no container is read alike at any depth. -/
theorem readValue_eq_readScalar {c : Char} {cs : List Char} (hl : c ≠ '[') (ht : c ≠ '\x7b')
    (depth : Nat) : readValue depth (c :: cs) = readScalar (c :: cs) := by
  cases depth with
  | zero => rw [readValue]
  | succ depth =>
    rw [readValue] <;> grind

theorem readValue_quoted (hr : NoQuote rest) (depth : Nat) (s : String) :
    readValue depth ((quoted s).toList ++ rest) = some (.text s, rest) := by
  have hread := readScalar_quoted hr s.toList
  obtain ⟨quote, ds, he, hq⟩ := exists_quote s.toList
  rw [quoted, String.toList_ofList]
  rw [String.ofList_toList] at hread
  rw [he] at hread ⊢
  rw [List.cons_append, readValue_eq_readScalar, ← List.cons_append, hread]
  · rcases hq with rfl | rfl <;> decide
  · rcases hq with rfl | rfl <;> decide

/-! ## Lists -/

/-- The items of a list, each on a line of its own. -/
def itemLines (ss : List String) : List Char :=
  ss.flatMap fun s => '\n' :: ' ' :: ' ' :: ' ' :: ' ' :: ((quoted s).toList ++ [','])

theorem skipGaps_of_solid {c : Char} {cs : List Char} (hn : c ≠ '\n') (hr : c ≠ '\r') (hc : c ≠ '#')
    (hw : isWhite c = false) : skipGaps false (c :: cs) = some (c :: cs) := by
  simp [skipGaps, hn, hr, hc, hw]

theorem skipGaps_quoted (s : String) (cs : List Char) :
    skipGaps false ((quoted s).toList ++ cs) = some ((quoted s).toList ++ cs) := by
  obtain ⟨quote, ds, he, hq⟩ := exists_quote s.toList
  rw [quoted, String.toList_ofList, he, List.cons_append]
  rcases hq with rfl | rfl <;> exact skipGaps_of_solid (by decide) (by decide) (by decide) (by decide)

section Items

variable {cs more : List Char} {s : String} {depth : Nat}
  (hg : skipGaps false cs = some ((quoted s).toList ++ rest)) (hr : NoQuote rest)
include hg hr

theorem readItems_quoted_comma (hm : skipGaps false rest = some (',' :: more)) (held : List Node)
    (fuel : Nat) :
    readItems (readValue depth) held (fuel + 1) cs =
      readItems (readValue depth) (.text s :: held) fuel more := by
  have hv := readValue_quoted hr depth s
  obtain ⟨quote, ds, he, hq⟩ := exists_quote s.toList
  rw [quoted, String.toList_ofList, he, List.cons_append] at hg hv
  rw [readItems, hg]
  rcases hq with rfl | rfl <;> simp [hv, hm]

theorem readItems_quoted_close (hm : skipGaps false rest = some (']' :: more)) (held : List Node)
    (fuel : Nat) :
    readItems (readValue depth) held (fuel + 1) cs = some (held.reverse ++ [.text s], more) := by
  have hv := readValue_quoted hr depth s
  obtain ⟨quote, ds, he, hq⟩ := exists_quote s.toList
  rw [quoted, String.toList_ofList, he, List.cons_append] at hg hv
  rw [readItems, hg]
  rcases hq with rfl | rfl <;> simp [hv, hm]

end Items

/-- A list is read to its end, with its items behind those that are held. -/
theorem readItems_itemLines (depth : Nat) (ss : List String) (held : List Node) (rest : List Char)
    {fuel : Nat} (hf : ss.length < fuel) :
    readItems (readValue depth) held fuel (itemLines ss ++ '\n' :: ']' :: rest) =
      some (held.reverse ++ ss.map .text, rest) := by
  induction ss generalizing held fuel with
  | nil =>
    obtain ⟨fuel, rfl⟩ := Nat.exists_eq_succ_of_ne_zero (Nat.ne_of_gt hf)
    have hgap : skipGaps false ('\n' :: ']' :: rest) = some (']' :: rest) := by
      simp [skipGaps, isWhite]
    simp [itemLines, readItems, hgap]
  | cons s ss ih =>
    obtain ⟨fuel, rfl⟩ := Nat.exists_eq_succ_of_ne_zero (Nat.ne_of_gt (Nat.zero_lt_of_lt hf))
    let below := itemLines ss ++ '\n' :: ']' :: rest
    have hlines : itemLines (s :: ss) ++ '\n' :: ']' :: rest =
        '\n' :: ' ' :: ' ' :: ' ' :: ' ' :: ((quoted s).toList ++ ',' :: below) := by
      simp [itemLines, below]
    have hgap : skipGaps false
        ('\n' :: ' ' :: ' ' :: ' ' :: ' ' :: ((quoted s).toList ++ ',' :: below)) =
          some ((quoted s).toList ++ ',' :: below) := by
      rw [← skipGaps_quoted s (',' :: below)]
      simp [skipGaps, isWhite]
    have hcomma : skipGaps false (',' :: below) = some (',' :: below) :=
      skipGaps_of_solid (by decide) (by decide) (by decide) (by decide)
    rw [hlines, readItems_quoted_comma hgap ⟨by simp, by simp⟩ hcomma,
      ih _ (Nat.lt_of_succ_lt_succ hf)]
    simp

/-- The lines of a list of two items or more, with the line ends in front. -/
theorem cons_toList_join (ss : List String) :
    '\n' :: (String.join (ss.map fun s => "    " ++ quoted s ++ ",\n")).toList =
      itemLines ss ++ ['\n'] := by
  induction ss with
  | nil => rfl
  | cons s ss ih =>
    calc '\n' :: (String.join ((s :: ss).map fun s => "    " ++ quoted s ++ ",\n")).toList
      _ = '\n' :: ' ' :: ' ' :: ' ' :: ' ' :: ((quoted s).toList ++ ',' ::
            ('\n' :: (String.join (ss.map fun s => "    " ++ quoted s ++ ",\n")).toList)) := by
          simp [String.join_cons]
      _ = itemLines (s :: ss) ++ ['\n'] := by
          rw [ih]
          simp [itemLines]

theorem toList_quotedList (s s' : String) (ss : List String) :
    (quotedList (s :: s' :: ss)).toList = '[' :: (itemLines (s :: s' :: ss) ++ ['\n', ']']) := by
  calc (quotedList (s :: s' :: ss)).toList
    _ = '[' :: (('\n' :: (String.join ((s :: s' :: ss).map fun s => "    " ++ quoted s ++ ",\n")).toList) ++
          [']']) := by simp only [quotedList, String.toList_append]; rfl
    _ = _ := by rw [cons_toList_join, List.append_assoc]; rfl

/-- What puts out something for each item puts out at least as much as there are items. -/
theorem length_le_flatMap {α β : Type} (f : α → List β) (hf : ∀ a, f a ≠ []) (as : List α) :
    as.length ≤ (as.flatMap f).length := by
  induction as with
  | nil => exact Nat.le_refl _
  | cons a as ih =>
    have ha : 0 < (f a).length := List.length_pos_iff.2 (hf a)
    rw [List.flatMap_cons, List.length_append, List.length_cons]
    omega

theorem readValue_list {depth : Nat} {cs rest : List Char} {items : List Node}
    (h : readItems (readValue depth) [] (cs.length + 1) cs = some (items, rest)) :
    readValue (depth + 1) ('[' :: cs) = some (.list items, rest) := by
  rw [readValue, h]
  rfl

theorem readValue_quotedList (depth : Nat) (ss : List String) (rest : List Char) :
    readValue (depth + 1) ((quotedList ss).toList ++ rest) = some (.list (ss.map .text), rest) := by
  match ss with
  | [] =>
    show readValue (depth + 1) ('[' :: ']' :: rest) = _
    apply readValue_list
    simp [readItems, skipGaps, isWhite]
  | [s] =>
    have htext : (quotedList [s]).toList ++ rest = '[' :: ((quoted s).toList ++ ']' :: rest) := by
      simp [quotedList]
    have hend : skipGaps false (']' :: rest) = some (']' :: rest) :=
      skipGaps_of_solid (by decide) (by decide) (by decide) (by decide)
    rw [htext]
    apply readValue_list
    exact readItems_quoted_close (skipGaps_quoted s _) ⟨by simp, by simp⟩ hend [] _
  | s :: s' :: ss =>
    have hl : (s :: s' :: ss).length ≤ (itemLines (s :: s' :: ss)).length :=
      length_le_flatMap _ (by simp) _
    rw [toList_quotedList, List.cons_append, List.append_assoc]
    apply readValue_list
    apply readItems_itemLines depth (s :: s' :: ss) []
    rw [List.length_append]
    omega

/-! ## Numbers -/

section Numbers

variable {ds more : List Char} (hd : ∀ c ∈ ds, c.isDigit = true)
include hd

theorem takeDigits_digits : takeDigits Char.isDigit (ds ++ '\n' :: more) = (ds, '\n' :: more) := by
  have hn : Char.isDigit '\n' = false := by decide
  induction ds with
  | nil => cases more <;> simp [takeDigits, hn]
  | cons c ds ih =>
    have hc : c.isDigit = true := hd c (by simp)
    have hrest := ih fun d hm => hd d (List.mem_cons_of_mem _ hm)
    cases ds with
    | nil =>
      rw [List.nil_append] at hrest
      simp [takeDigits, hc, hrest]
    | cons d ds =>
      rw [List.cons_append] at hrest
      simp [takeDigits, hc, hrest]

/-- Behind a field of digits are more digits and what is behind them. -/
theorem exists_of_readField {n low high value : Nat} {rest : List Char}
    (h : readField n low high (ds ++ '\n' :: more) = some (value, rest)) :
    ∃ ds', rest = ds' ++ '\n' :: more ∧ ∀ c ∈ ds', c.isDigit = true := by
  unfold readField at h
  simp only [Option.ite_none_right_eq_some, Bool.and_eq_true, decide_eq_true_eq, List.all_eq_true,
    Option.some.injEq, Prod.mk.injEq] at h
  obtain ⟨⟨⟨⟨hl, hall⟩, -⟩, -⟩, -, rfl⟩ := h
  -- a longer field would reach over the line end
  have hn : n ≤ ds.length := by
    apply Nat.le_of_not_lt
    intro hlt
    have hm : '\n' ∈ (ds ++ '\n' :: more).take n := by
      rw [List.take_append, List.mem_append]
      right
      obtain ⟨k, hk⟩ : ∃ k, n - ds.length = k + 1 := ⟨n - ds.length - 1, by omega⟩
      simp [hk]
    exact absurd (hall _ hm) (by decide)
  refine ⟨ds.drop n, List.drop_append_of_le_length hn, ?_⟩
  exact fun c hc => hd c (List.mem_of_mem_drop hc)

theorem expectChar_digits {c : Char} (hc : c.isDigit = false) (hn : c ≠ '\n') :
    expectChar c (ds ++ '\n' :: more) = none := by
  cases ds with
  | nil => simp [expectChar, Ne.symm hn]
  | cons d ds =>
    have hdc : d ≠ c := by
      rintro rfl
      rw [hd d (by simp)] at hc
      cases hc
    simp [expectChar, hdc]

/-- Digits are no date and no time. -/
theorem readMoment_digits : readMoment (ds ++ '\n' :: more) = none := by
  have hdate : readDate (ds ++ '\n' :: more) = none := by
    unfold readDate
    cases hf : readField 4 0 9999 (ds ++ '\n' :: more) with
    | none => rfl
    | some r =>
      obtain ⟨ds', hr, hd'⟩ := exists_of_readField hd hf
      have he : expectChar '-' (ds' ++ '\n' :: more) = none :=
        expectChar_digits hd' (by decide) (by decide)
      simp [hr, he]
  have htime : readTime (ds ++ '\n' :: more) = none := by
    unfold readTime
    cases hf : readField 2 0 23 (ds ++ '\n' :: more) with
    | none => rfl
    | some r =>
      obtain ⟨ds', hr, hd'⟩ := exists_of_readField hd hf
      have he : expectChar ':' (ds' ++ '\n' :: more) = none :=
        expectChar_digits hd' (by decide) (by decide)
      simp [hr, he]
  rw [readMoment, hdate, htime]

theorem ofDigits_eq_ofDigitChars (init : Nat) :
    ds.foldl (fun n d => 10 * n + (Text.hexValue? d).getD 0) init = Nat.ofDigitChars 10 ds init := by
  induction ds generalizing init with
  | nil => rfl
  | cons c ds ih =>
    have hc : Text.hexValue? c = some (c.toNat - '0'.toNat) := by
      have hb : '0' ≤ c ∧ c ≤ '9' := by
        have := hd c (by simp)
        simp only [Char.isDigit, Bool.and_eq_true, decide_eq_true_eq] at this
        exact this
      rw [Text.hexValue?, if_pos hb]
    rw [List.foldl_cons, hc, Nat.ofDigitChars_cons, ih fun d hm => hd d (List.mem_cons_of_mem _ hm)]
    rfl

end Numbers

theorem isDigit_of_mem_digits {n : Nat} {c : Char} (h : c ∈ Nat.toDigits 10 n) : c.isDigit = true :=
  Nat.isDigit_of_mem_toDigits (by omega) (by omega) h

theorem exists_digit (n : Nat) : ∃ c ds, Nat.toDigits 10 n = c :: ds ∧ c.isDigit = true := by
  obtain ⟨c, ds, he⟩ := List.exists_cons_of_ne_nil (Nat.toDigits_ne_nil (n := n) (b := 10))
  exact ⟨c, ds, he, isDigit_of_mem_digits (n := n) (by simp [he])⟩

/-- Only zero starts with a zero. -/
theorem eq_zero_of_digits {n : Nat} {cs : List Char} (h : Nat.toDigits 10 n = '0' :: cs) : n = 0 := by
  induction n using Nat.strongRecOn generalizing cs with
  | ind n ih =>
    rw [Nat.toDigits_eq_if (by omega)] at h
    split at h
    · simpa using (List.cons.inj h).1
    · next hn =>
      obtain ⟨c, ds, hc, -⟩ := exists_digit (n / 10)
      rw [hc, List.cons_append] at h
      obtain ⟨rfl, -⟩ := List.cons.inj h
      have := ih (n / 10) (by omega) hc
      omega

/-- A number is written as a zero, or as digits the first of which is none. -/
theorem digits_cases (n : Nat) :
    (n = 0 ∧ Nat.toDigits 10 n = ['0']) ∨
      ∃ c ds, Nat.toDigits 10 n = c :: ds ∧ c.isDigit = true ∧ c ≠ '0' := by
  by_cases hn : n = 0
  · exact .inl ⟨hn, by rw [hn, Nat.toDigits_zero]⟩
  · obtain ⟨c, ds, he, hc⟩ := exists_digit n
    refine .inr ⟨c, ds, he, hc, ?_⟩
    rintro rfl
    exact hn (eq_zero_of_digits he)

/-- What a digit is not. -/
theorem ne_of_isDigit {c d : Char} (hc : c.isDigit = true) (hd : d.isDigit = false) : c ≠ d := by
  rintro rfl
  rw [hc] at hd
  cases hd

theorem readDecimal_digits (n : Nat) (more : List Char) :
    readDecimal (Nat.toDigits 10 n ++ '\n' :: more) =
      some ((false, Nat.toDigits 10 n), '\n' :: more) := by
  have htake : takeDigits Char.isDigit (Nat.toDigits 10 n ++ '\n' :: more) =
      (Nat.toDigits 10 n, '\n' :: more) := takeDigits_digits fun _ => isDigit_of_mem_digits
  rcases digits_cases n with ⟨-, he⟩ | ⟨c, ds, he, hc, h0⟩
  · rw [he]
    rfl
  · have hminus : c ≠ '-' := ne_of_isDigit hc (by decide)
    have hplus : c ≠ '+' := ne_of_isDigit hc (by decide)
    rw [he, List.cons_append] at htake ⊢
    simp [readDecimal, readSign, hminus, hplus, h0, readDigits, hc, htake]

theorem readInteger_digits {n : Nat} (h : n < integerBound) (more : List Char) :
    readInteger (Nat.toDigits 10 n ++ '\n' :: more) = some ((n : Int), '\n' :: more) := by
  have hdec := readDecimal_digits n more
  have hval : ofDigits 10 (Nat.toDigits 10 n) = n := by
    rw [ofDigits, ofDigits_eq_ofDigitChars fun c => isDigit_of_mem_digits]
    exact Nat.ofDigitChars_toDigits (by omega) (by omega)
  have hread (cs : List Char) (hcs : readDecimal cs = some ((false, Nat.toDigits 10 n), '\n' :: more))
      (hx : ∀ rest, cs ≠ '0' :: 'x' :: rest) (ho : ∀ rest, cs ≠ '0' :: 'o' :: rest)
      (hb : ∀ rest, cs ≠ '0' :: 'b' :: rest) : readInteger cs = some ((n : Int), '\n' :: more) := by
    unfold readInteger
    split
    · exact absurd rfl (hx _)
    · exact absurd rfl (ho _)
    · exact absurd rfl (hb _)
    · simp [hcs, hval, h]
  rcases digits_cases n with ⟨-, he⟩ | ⟨c, ds, he, hc, h0⟩
  · apply hread _ hdec <;> simp [he]
  · apply hread _ hdec <;> simp [he, h0]

theorem readNumber_digits {n : Nat} (h : n < integerBound) (more : List Char) :
    readNumber (Nat.toDigits 10 n ++ '\n' :: more) = some (.integer n, '\n' :: more) := by
  have hfloat : readFloat (Nat.toDigits 10 n ++ '\n' :: more) = none := by
    simp [readFloat, readDecimal_digits, readExponent]
  have hspecial : readSpecial (Nat.toDigits 10 n ++ '\n' :: more) = none := by
    obtain ⟨c, ds, he, hc⟩ := exists_digit n
    have hminus : c ≠ '-' := ne_of_isDigit hc (by decide)
    have hplus : c ≠ '+' := ne_of_isDigit hc (by decide)
    have hi : 'i' ≠ c := (ne_of_isDigit hc (by decide)).symm
    have hn : 'n' ≠ c := (ne_of_isDigit hc (by decide)).symm
    simp [he, readSpecial, readSign, hminus, hplus, List.isPrefixOf, hi, hn]
  rw [readNumber, readMoment_digits fun c => isDigit_of_mem_digits, hfloat, hspecial,
    readInteger_digits h]
  rfl

theorem readValue_nat (depth : Nat) {n : Nat} (h : n < integerBound) (more : List Char) :
    readValue depth ((toString n).toList ++ '\n' :: more) = some (.integer n, '\n' :: more) := by
  obtain ⟨c, ds, he, hc⟩ := exists_digit n
  have hread := readNumber_digits h more
  rw [Nat.toString_eq_repr, Nat.toList_repr]
  rw [he, List.cons_append] at hread ⊢
  rw [readValue_eq_readScalar (ne_of_isDigit hc (by decide)) (ne_of_isDigit hc (by decide)), readScalar]
  have hdouble : c ≠ '"' := ne_of_isDigit hc (by decide)
  have hsingle : c ≠ '\'' := ne_of_isDigit hc (by decide)
  have ht : c ≠ 't' := ne_of_isDigit hc (by decide)
  have hf : c ≠ 'f' := ne_of_isDigit hc (by decide)
  simp [hdouble, hsingle, ht, hf, hread]

/-! ## Keys -/

/-- A key that needs no quotes. -/
def IsBare (key : List Char) : Prop := key ≠ [] ∧ ∀ c ∈ key, isBareChar c = true

instance (key : List Char) : Decidable (IsBare key) :=
  decidable_of_iff (key ≠ [] ∧ key.all isBareChar = true) (by simp [IsBare])

theorem IsBare.exists_cons {key : List Char} (h : IsBare key) :
    ∃ c cs, key = c :: cs ∧ isBareChar c = true := by
  obtain ⟨c, cs, rfl⟩ := List.exists_cons_of_ne_nil h.1
  exact ⟨c, cs, rfl, h.2 c (by simp)⟩

theorem ne_of_isBareChar {c d : Char} (hc : isBareChar c = true) (hd : isBareChar d = false) : c ≠ d := by
  rintro rfl
  rw [hc] at hd
  cases hd

theorem not_isWhite_of_isBareChar {c : Char} (h : isBareChar c = true) : isWhite c = false := by
  have hs : c ≠ ' ' := ne_of_isBareChar h (by decide)
  have ht : c ≠ '\t' := ne_of_isBareChar h (by decide)
  simp [isWhite, hs, ht]

theorem skipWhite_of_cons {c : Char} {cs : List Char} (h : isWhite c = false) :
    skipWhite (c :: cs) = c :: cs := by
  rw [skipWhite, List.dropWhile_cons_of_neg (by simp [h])]

/-- A bare key is read up to a character that is none of it. -/
theorem readKey_bare {key : List Char} (hk : IsBare key) {d : Char} {ds : List Char}
    (hd : isBareChar d = false) (hdot : (skipWhite (d :: ds)).head? ≠ some '.') :
    readKey (key ++ d :: ds) = some ((String.ofList key, []), skipWhite (d :: ds)) := by
  have hstep : readStep (key ++ d :: ds) = some (String.ofList key, d :: ds) := by
    have htake : (key ++ d :: ds).takeWhile isBareChar = key := by
      rw [List.takeWhile_append_of_pos hk.2, List.takeWhile_cons_of_neg (by simp [hd]), List.append_nil]
    have hdrop : (key ++ d :: ds).dropWhile isBareChar = d :: ds := by
      rw [List.dropWhile_append_of_pos hk.2, List.dropWhile_cons_of_neg (by simp [hd])]
    obtain ⟨c, cs, rfl, hc⟩ := hk.exists_cons
    have hdouble : c ≠ '"' := ne_of_isBareChar hc (by decide)
    have hsingle : c ≠ '\'' := ne_of_isBareChar hc (by decide)
    rw [List.cons_append] at htake hdrop ⊢
    simp only [readStep, hdouble, hsingle, decide_false, Bool.or_self, Bool.false_eq_true, if_false,
      hc, if_true, htake, hdrop]
  have hwhite : skipWhite (key ++ d :: ds) = key ++ d :: ds := by
    obtain ⟨c, cs, rfl, hc⟩ := hk.exists_cons
    exact skipWhite_of_cons (not_isWhite_of_isBareChar hc)
  rw [readKey, readSteps, hwhite, hstep]
  simp only
  split
  · next he => simp [he] at hdot
  · rfl

/-! ## Lines -/

/-- `value` writes the node `n`: it does not start with white space, and is read as `n` up to the end of
its line. -/
structure Writes (value : List Char) (n : Node) : Prop where
  head : ∃ c cs, value = c :: cs ∧ isWhite c = false
  read : ∀ more, readValue depthLimit (value ++ '\n' :: more) = some (n, '\n' :: more)

theorem writes_quoted (s : String) : Writes (quoted s).toList (.text s) where
  head := by
    obtain ⟨quote, ds, he, hq⟩ := exists_quote s.toList
    refine ⟨quote, ds, by rw [quoted, String.toList_ofList, he], ?_⟩
    rcases hq with rfl | rfl <;> decide
  read := fun more => readValue_quoted ⟨by simp, by simp⟩ depthLimit s

theorem writes_quotedList (ss : List String) : Writes (quotedList ss).toList (.list (ss.map .text)) where
  head := by
    match ss with
    | [] => exact ⟨'[', _, rfl, by decide⟩
    | [s] => exact ⟨'[', (quoted s).toList ++ [']'], by simp [quotedList], by decide⟩
    | s :: s' :: ss => exact ⟨'[', _, toList_quotedList s s' ss, by decide⟩
  read := fun more => readValue_quotedList _ ss ('\n' :: more)

theorem writes_nat {n : Nat} (h : n < integerBound) : Writes (toString n).toList (.integer n) where
  head := by
    obtain ⟨c, ds, he, hc⟩ := exists_digit n
    have hs : c ≠ ' ' := ne_of_isDigit hc (by decide)
    have ht : c ≠ '\t' := ne_of_isDigit hc (by decide)
    exact ⟨c, ds, by rw [Nat.toString_eq_repr, Nat.toList_repr, he], by simp [isWhite, hs, ht]⟩
  read := readValue_nat depthLimit h

/-- A line says some statements, whatever lines follow it. -/
def Says (line : List Char) (said : List Statement) : Prop :=
  ∀ fuel more, readStatements (fuel + 1) (line ++ '\n' :: more) =
    (readStatements fuel more).map (said ++ ·)

theorem says_nothing : Says [] [] := by
  intro fuel more
  have hw : skipWhite ('\n' :: more) = '\n' :: more := skipWhite_of_cons (by decide)
  rw [List.nil_append, readStatements, hw]
  simp [saysNothing, endLine]

/-- A statement is all that a line says which starts with it. -/
theorem says_of_readStatement {c : Char} {cs : List Char} {said : Statement} (hw : isWhite c = false)
    (hn : c ≠ '\n') (hr : c ≠ '\r') (hc : c ≠ '#')
    (h : ∀ more, readStatement (c :: (cs ++ '\n' :: more)) = some (said, '\n' :: more)) :
    Says (c :: cs) [said] := by
  intro fuel more
  rw [List.cons_append, readStatements, skipWhite_of_cons hw]
  simp [saysNothing, hn, hr, hc, h, endLine]

theorem says_header {key : List Char} (hk : IsBare key) :
    Says ('[' :: (key ++ [']'])) [.header (String.ofList key) []] := by
  apply says_of_readStatement (by decide) (by decide) (by decide) (by decide)
  intro more
  have hw : skipWhite (']' :: '\n' :: more) = ']' :: '\n' :: more := skipWhite_of_cons (by decide)
  have hkey : readKey (key ++ ']' :: '\n' :: more) =
      some ((String.ofList key, []), ']' :: '\n' :: more) := by
    rw [readKey_bare hk (by decide) (by rw [hw]; simp), hw]
  obtain ⟨c, cs, rfl, hc⟩ := hk.exists_cons
  have hopen : c ≠ '[' := ne_of_isBareChar hc (by decide)
  rw [List.cons_append] at hkey
  simp [readStatement, hopen, hkey, closeHeader, List.replicate]

theorem says_setting {key value : List Char} {n : Node} (hk : IsBare key) (hv : Writes value n) :
    Says (key ++ ' ' :: '=' :: ' ' :: value) [.setting (String.ofList key) [] n] := by
  obtain ⟨d, ds, rfl, hd⟩ := hv.head
  have hread (more : List Char) : readSetting (readValue depthLimit)
      (key ++ ' ' :: '=' :: ' ' :: (d :: ds ++ '\n' :: more)) =
        some ((String.ofList key, [], n), '\n' :: more) := by
    have hw (cs : List Char) : skipWhite (' ' :: '=' :: cs) = '=' :: cs := by
      simp [skipWhite, isWhite]
    have hvalue : skipWhite (' ' :: (d :: ds ++ '\n' :: more)) = d :: ds ++ '\n' :: more := by
      have hs : skipWhite (' ' :: (d :: ds ++ '\n' :: more)) =
          skipWhite (d :: ds ++ '\n' :: more) := by simp [skipWhite, isWhite]
      rw [hs, List.cons_append, skipWhite_of_cons hd]
    rw [readSetting, readKey_bare hk (by decide) (by rw [hw]; simp), hw]
    simp only [hvalue, hv.read, Option.map_some]
  obtain ⟨c, cs, rfl, hc⟩ := hk.exists_cons
  have hopen : c ≠ '[' := ne_of_isBareChar hc (by decide)
  rw [List.cons_append]
  apply says_of_readStatement (not_isWhite_of_isBareChar hc) (ne_of_isBareChar hc (by decide))
    (ne_of_isBareChar hc (by decide)) (ne_of_isBareChar hc (by decide))
  intro more
  have hm := hread more
  simp only [List.cons_append, List.append_assoc] at hm ⊢
  simp [readStatement, hopen, hm]

/-- **A document says what its lines say**, in order. -/
theorem readStatements_lines (document : List (List Char × List Statement))
    (h : ∀ p ∈ document, Says p.1 p.2) {fuel : Nat} (hf : document.length < fuel) :
    readStatements fuel (document.flatMap fun p => p.1 ++ ['\n']) = some (document.flatMap Prod.snd) := by
  induction document generalizing fuel with
  | nil =>
    obtain ⟨fuel, rfl⟩ := Nat.exists_eq_succ_of_ne_zero (Nat.ne_of_gt hf)
    rfl
  | cons p document ih =>
    obtain ⟨fuel, rfl⟩ := Nat.exists_eq_succ_of_ne_zero (Nat.ne_of_gt (Nat.zero_lt_of_lt hf))
    have hrest := ih (fun q hq => h q (List.mem_cons_of_mem _ hq)) (Nat.lt_of_succ_lt_succ hf)
    rw [List.flatMap_cons, List.append_assoc, List.singleton_append, h p (by simp), hrest]
    rfl

end PagePrep.Toml
