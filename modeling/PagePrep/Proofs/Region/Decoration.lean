import PagePrep.Failure
import PagePrep.Proofs.Region.Layout

/-!
# The comment around an address

A line that opens a region is read without the signs of the comment and the white space around them,
and neither the word in front of the payload nor the width of the gap between them matters. So the
address is that of the payload, or the fault is one of the payload (`addressOfLine_eq_ok_iff`).
-/

set_option autoImplicit false

namespace PagePrep

open Text

namespace Text

/-! ## Replacement around white space -/

/-- A piece of text without white space. -/
structure Solid (s : String) : Prop where
  nonempty : s ≠ ""
  chars : ∀ c ∈ s.toList, isSpace c = false

instance (s : String) : Decidable (Solid s) :=
  decidable_of_iff (s ≠ "" ∧ (s.toList.all fun c => !isSpace c) = true)
    ⟨fun ⟨h, hc⟩ => ⟨h, by simpa using hc⟩, fun ⟨h, hc⟩ => ⟨h, by simpa using hc⟩⟩

theorem solid_open : Solid "<!--" := by decide

theorem solid_close : Solid "-->" := by decide

theorem isBlank_append (v w : String) : isBlank (v ++ w) = (isBlank v && isBlank w) := by
  simp [isBlank]

section Gaps

variable {needle w : String} (hn : Solid needle) (hw : isBlank w = true)
include hn hw

/-- White space is part of no occurrence. -/
theorem Solid.not_mem {c : Char} (hc : c ∈ w.toList) : c ∉ needle.toList := by
  intro h
  have hs : isSpace c = true := List.all_eq_true.1 hw c hc
  rw [hn.chars c h] at hs
  cases hs

theorem Solid.replaceAll_blank_append (new t : String) :
    replaceAll (w ++ t) needle new = w ++ replaceAll t needle new := by
  have hne : needle.toList ≠ [] := by simpa using hn.nonempty
  apply String.toList_injective
  rw [replaceAll_of_ne_empty hn.nonempty, replaceAll_of_ne_empty hn.nonempty]
  simp only [String.toList_append, String.toList_ofList]
  have hc : ∀ c ∈ w.toList, c ∉ needle.toList := fun c hc => hn.not_mem hw hc
  generalize w.toList = cs at hc
  induction cs with
  | nil => rfl
  | cons c cs ih =>
    have ih := ih fun d hd => hc d (List.mem_cons_of_mem _ hd)
    have hfirst : substitute needle.toList new.toList 0 ([] ++ c :: (cs ++ t.toList)) =
        [] ++ c :: substitute needle.toList new.toList 0 (cs ++ t.toList) :=
      substitute_append_cons (hc c (by simp)) hne _ (Nat.zero_le _)
    rw [List.nil_append] at hfirst
    rw [List.cons_append, hfirst, ih]
    rfl

/-- What stands on the two sides of white space is replaced apart. -/
theorem Solid.replaceAll_gap (new s t : String) (h : w ≠ "") :
    replaceAll (s ++ w ++ t) needle new = replaceAll s needle new ++ w ++ replaceAll t needle new := by
  have hne : needle.toList ≠ [] := by simpa using hn.nonempty
  obtain ⟨c, cs, hcs⟩ := List.exists_cons_of_ne_nil (l := w.toList) (by simpa using h)
  have hc : c ∉ needle.toList := hn.not_mem hw (by simp [hcs])
  have hrest : isBlank (String.ofList cs) = true := by
    have : isBlank w = true := hw
    simp only [isBlank, hcs, List.all_cons, Bool.and_eq_true] at this
    simpa [isBlank] using this.2
  have hblank := congrArg String.toList (hn.replaceAll_blank_append hrest new t)
  rw [replaceAll_of_ne_empty hn.nonempty, replaceAll_of_ne_empty hn.nonempty] at hblank
  apply String.toList_injective
  rw [replaceAll_of_ne_empty hn.nonempty, replaceAll_of_ne_empty hn.nonempty,
    replaceAll_of_ne_empty hn.nonempty]
  simp only [String.toList_append, String.toList_ofList, hcs, List.append_assoc,
    List.cons_append] at hblank ⊢
  rw [substitute_append_cons hc hne _ (Nat.zero_le _), hblank]

theorem Solid.replaceAll_append_blank (new s : String) :
    replaceAll (s ++ w) needle new = replaceAll s needle new ++ w := by
  by_cases h : w = ""
  · simp [h]
  · have he : replaceAll "" needle new = "" := by
      rw [replaceAll_of_ne_empty hn.nonempty]
      rfl
    have := hn.replaceAll_gap hw new s "" h
    simpa [he] using this

end Gaps

/-! ## White space at the ends -/

/-- A text that neither begins nor ends in white space. -/
structure Trimmed (s : String) : Prop where
  starts : ∃ c, s.toList.head? = some c ∧ isSpace c = false
  ends : ∃ c, s.toList.getLast? = some c ∧ isSpace c = false

theorem Trimmed.trim_eq {v s w : String} (hs : Trimmed s) (hv : isBlank v = true)
    (hw : isBlank w = true) : trim (v ++ s ++ w) = s := by
  obtain ⟨a, ha, hsa⟩ := hs.starts
  obtain ⟨b, hb, hsb⟩ := hs.ends
  obtain ⟨as, has⟩ := List.head?_eq_some_iff.1 ha
  obtain ⟨bs, hbs⟩ := List.getLast?_eq_some_iff.1 hb
  have hstart : trimStart (v ++ s ++ w).toList = s.toList ++ w.toList := by
    simp only [trimStart, String.toList_append, List.append_assoc]
    rw [List.dropWhile_append_of_pos (List.all_eq_true.1 hv), has, List.cons_append,
      List.dropWhile_cons_of_neg (by simp [hsa])]
  have hend : trimEnd (s.toList ++ w.toList) = s.toList := by
    have hall : ∀ c ∈ w.toList.reverse, isSpace c = true := fun c hc =>
      List.all_eq_true.1 hw c (List.mem_reverse.1 hc)
    rw [trimEnd, List.reverse_append, List.dropWhile_append_of_pos hall, hbs, List.reverse_concat,
      List.dropWhile_cons_of_neg (by simp [hsb]), List.reverse_cons, List.reverse_reverse]
  rw [trim, hstart, hend, String.ofList_toList]

end Text

/-! ## Lines that open regions -/

/-- A word and a payload that a line may hold inside its comment. -/
structure Decorable (word payload : String) : Prop where
  solid : Solid word
  trimmed : Trimmed payload
  unsigned : ∀ s ∈ [word, payload], contains s "<!--" = false ∧ contains s "-->" = false

/-- A line without the signs of a comment, but with the white space around them. -/
def withoutSigns (line : String) : String := replaceAll (replaceAll line "<!--" "") "-->" ""

theorem withoutSigns_gap (s t : String) {w : String} (hw : isBlank w = true) (h : w ≠ "") :
    withoutSigns (s ++ w ++ t) = withoutSigns s ++ w ++ withoutSigns t := by
  rw [withoutSigns, solid_open.replaceAll_gap hw _ _ _ h, solid_close.replaceAll_gap hw _ _ _ h]
  rfl

theorem withoutSigns_blank_append (t : String) {w : String} (hw : isBlank w = true) :
    withoutSigns (w ++ t) = w ++ withoutSigns t := by
  rw [withoutSigns, solid_open.replaceAll_blank_append hw, solid_close.replaceAll_blank_append hw]
  rfl

theorem withoutSigns_append_blank (s : String) {w : String} (hw : isBlank w = true) :
    withoutSigns (s ++ w) = withoutSigns s ++ w := by
  rw [withoutSigns, solid_open.replaceAll_append_blank hw, solid_close.replaceAll_append_blank hw]
  rfl

theorem withoutSigns_eq_self {s : String} (h : contains s "<!--" = false ∧ contains s "-->" = false) :
    withoutSigns s = s := by
  rw [withoutSigns, (replaceAll_eq_self_iff (by decide)).2 h.1,
    (replaceAll_eq_self_iff (by decide)).2 h.2]

namespace Decorable

variable {word payload w₀ w₁ w₂ w₃ w₄ : String} (h : Decorable word payload)
include h

theorem withoutSigns_word : withoutSigns word = word :=
  withoutSigns_eq_self (h.unsigned word (by simp))

theorem withoutSigns_payload : withoutSigns payload = payload :=
  withoutSigns_eq_self (h.unsigned payload (by simp))

theorem trimmed_content (w : String) : Trimmed (word ++ w ++ payload) := by
  obtain ⟨c, cs, hcs⟩ := List.exists_cons_of_ne_nil (l := word.toList) (by simpa using h.solid.nonempty)
  obtain ⟨b, hb, hsb⟩ := h.trimmed.ends
  refine ⟨⟨c, by simp [hcs], h.solid.chars c (by simp [hcs])⟩, b, ?_, hsb⟩
  simp [hb]

/-- The payload is what follows the word and the gap behind it. -/
theorem afterFirstWord?_eq (hw : isBlank w₂ = true) (hne : w₂ ≠ "") :
    afterFirstWord? (word ++ w₂ ++ payload) = some payload := by
  obtain ⟨c, cs, hcs⟩ := List.exists_cons_of_ne_nil (l := w₂.toList) (by simpa using hne)
  have hw' : isSpace c = true ∧ cs.all isSpace = true := by simpa [isBlank, hcs] using hw
  have hdrop : (word ++ w₂ ++ payload).toList.dropWhile (fun c => !isSpace c) =
      c :: (cs ++ payload.toList) := by
    rw [String.toList_append, String.toList_append, List.append_assoc,
      List.dropWhile_append_of_pos fun d hd => by simp [h.solid.chars d hd], hcs, List.cons_append,
      List.dropWhile_cons_of_neg (by simp [hw'.1])]
  have htrim := h.trimmed.trim_eq (v := String.ofList cs) (w := "") (by simpa [isBlank] using hw'.2)
    rfl
  rw [afterFirstWord?, hdrop]
  simpa using htrim

theorem commentText_bare (hw₂ : isBlank w₂ = true) (hne : w₂ ≠ "") :
    commentText (word ++ w₂ ++ payload) = word ++ w₂ ++ payload := by
  have hs : withoutSigns (word ++ w₂ ++ payload) = word ++ w₂ ++ payload := by
    rw [withoutSigns_gap _ _ hw₂ hne, h.withoutSigns_word,
      h.withoutSigns_payload]
  have ht := (h.trimmed_content w₂).trim_eq (v := "") (w := "") rfl rfl
  rw [String.empty_append, String.append_empty] at ht
  show trim (withoutSigns _) = _
  rw [hs, ht]

/-- Inside the comment stands what would stand there without the comment. -/
theorem commentText_decorated (hw₀ : isBlank w₀ = true) (hw₁ : isBlank w₁ = true)
    (hw₂ : isBlank w₂ = true) (hw₃ : isBlank w₃ = true) (hw₄ : isBlank w₄ = true) (hne₁ : w₁ ≠ "")
    (hne₂ : w₂ ≠ "") (hne₃ : w₃ ≠ "") :
    commentText (w₀ ++ "<!--" ++ w₁ ++ word ++ w₂ ++ payload ++ w₃ ++ "-->" ++ w₄) =
      word ++ w₂ ++ payload := by
  have ho : withoutSigns "<!--" = "" := by decide
  have hc : withoutSigns "-->" = "" := by decide
  have hs : withoutSigns (w₀ ++ "<!--" ++ w₁ ++ word ++ w₂ ++ payload ++ w₃ ++ "-->" ++ w₄) =
      w₀ ++ w₁ ++ (word ++ w₂ ++ payload) ++ (w₃ ++ w₄) := by
    rw [withoutSigns_append_blank _ hw₄, withoutSigns_gap _ _ hw₃ hne₃, withoutSigns_gap _ _ hw₂ hne₂,
      withoutSigns_gap _ _ hw₁ hne₁, withoutSigns_blank_append _ hw₀, ho, hc,
      h.withoutSigns_word, h.withoutSigns_payload]
    simp only [String.append_empty, String.append_assoc]
  show trim (withoutSigns _) = _
  rw [hs]
  exact (h.trimmed_content w₂).trim_eq (by rw [isBlank_append, hw₀, hw₁]; rfl)
    (by rw [isBlank_append, hw₃, hw₄]; rfl)

end Decorable

/-! ## The address of a payload -/

theorem Json.Value.member?_eq_some_iff {members : List (String × Json.Value)} {name : String}
    {v : Json.Value} :
    member? members name = some v ↔
      ∃ above below, members = above ++ (name, v) :: below ∧ ∀ m ∈ below, m.1 ≠ name := by
  rw [member?, Option.map_eq_some_iff]
  constructor
  · rintro ⟨⟨k, w⟩, hf, rfl⟩
    obtain ⟨hk, below, above, hm, hb⟩ := List.find?_eq_some_iff_append.1 hf
    obtain rfl : k = name := by simpa using hk
    refine ⟨above.reverse, below.reverse, ?_, fun m hm => by simpa using hb m (List.mem_reverse.1 hm)⟩
    rw [← List.reverse_inj, hm]
    simp
  · rintro ⟨above, below, rfl, hb⟩
    refine ⟨(name, v), List.find?_eq_some_iff_append.2 ⟨by simp, below.reverse, above.reverse, ?_, ?_⟩,
      rfl⟩
    · simp
    · exact fun m hm => by simpa using hb m (List.mem_reverse.1 hm)

/-- The payload is a JSON object in which the last member `url` is a string that writes the URL. -/
def NamesUrl (payload : String) (url : Url) : Prop :=
  ∃ above raw below,
    Json.Value.ofText payload = .ok (.object (above ++ ("url", .text raw) :: below)) ∧
      (∀ m ∈ below, m.1 ≠ "url") ∧ Url.ofText raw = .ok url

theorem Json.Value.text?_eq_some_iff {v : Json.Value} {s : String} :
    v.text? = some s ↔ v = .text s := by
  cases v <;> simp [text?]

theorem addressOfPayload_object_eq_ok_iff {content : String} {members : List (String × Json.Value)}
    {url : Url} :
    addressOfPayload content (.object members) = .ok url ↔
      ∃ raw, Json.Value.member? members "url" = some (.text raw) ∧ Url.ofText raw = .ok url := by
  rw [addressOfPayload]
  cases hm : (Json.Value.member? members "url").bind Json.Value.text? with
  | none =>
    constructor
    · intro h
      cases h
    · rintro ⟨raw, hr, -⟩
      simp [hr, Json.Value.text?] at hm
  | some raw =>
    obtain ⟨v, hv, ht⟩ := Option.bind_eq_some_iff.1 hm
    obtain rfl := Json.Value.text?_eq_some_iff.1 ht
    show (Url.ofText raw).mapError _ = _ ↔ _
    rw [hv]
    cases hu : Url.ofText raw with
    | error f => simp [Except.mapError, hu]
    | ok u => simp [Except.mapError, hu]

/-- A line gives the URL that its payload names, and no other. -/
theorem addressOfLine_eq_ok_iff {line payload : String} {url : Url}
    (h : afterFirstWord? (commentText line) = some payload) :
    addressOfLine line = .ok url ↔ NamesUrl payload url := by
  unfold addressOfLine NamesUrl
  simp only [h]
  cases hv : Json.Value.ofText payload with
  | error f => simp
  | ok v =>
    cases v with
    | object members =>
      rw [addressOfPayload_object_eq_ok_iff]
      simp only [Json.Value.member?_eq_some_iff, Except.ok.injEq, Json.Value.object.injEq]
      constructor
      · rintro ⟨raw, ⟨above, below, hm, hb⟩, hu⟩
        exact ⟨above, raw, below, hm, hb, hu⟩
      · rintro ⟨above, raw, below, hm, hb, hu⟩
        exact ⟨raw, ⟨above, below, hm, hb⟩, hu⟩
    | _ => simp [addressOfPayload]

/-- **Decoration.** Inside a comment, with white space of any kind in the gaps, a word and a payload give
what they give without the comment: the URL that the payload names, and a fault of the region if it
names none. -/
theorem address_in_decoration {word payload w₀ w₁ w₂ w₃ w₄ : String} (h : Decorable word payload)
    (hw : ∀ w ∈ [w₀, w₁, w₂, w₃, w₄], isBlank w = true) (hne : ∀ w ∈ [w₁, w₂, w₃], w ≠ "") :
    ∀ line ∈ [w₀ ++ "<!--" ++ w₁ ++ word ++ w₂ ++ payload ++ w₃ ++ "-->" ++ w₄,
        word ++ w₂ ++ payload],
      (∀ url, NamesUrl payload url → addressOfLine line = .ok url) ∧
      ((∀ url, ¬ NamesUrl payload url) →
        ∃ f, addressOfLine line = .error f ∧ (Failure.region f).topic = .directive) := by
  simp only [List.forall_mem_cons, List.not_mem_nil, IsEmpty.forall_iff, implies_true,
    and_true] at hw hne
  obtain ⟨hw₀, hw₁, hw₂, hw₃, hw₄⟩ := hw
  obtain ⟨hne₁, hne₂, hne₃⟩ := hne
  intro line hline
  have hcontent : commentText line = word ++ w₂ ++ payload := by
    rcases List.mem_pair.1 hline with rfl | rfl
    · exact h.commentText_decorated hw₀ hw₁ hw₂ hw₃ hw₄ hne₁ hne₂ hne₃
    · exact h.commentText_bare hw₂ hne₂
  have hpayload : afterFirstWord? (commentText line) = some payload := by
    rw [hcontent, h.afterFirstWord?_eq hw₂ hne₂]
  refine ⟨fun url => (addressOfLine_eq_ok_iff hpayload).2, fun hnone => ?_⟩
  cases ha : addressOfLine line with
  | ok url => exact absurd ((addressOfLine_eq_ok_iff hpayload).1 ha) (hnone url)
  | error f => exact ⟨f, rfl, rfl⟩

/-- A payload of two lines with signs of a comment in part, and with a member `url` given twice. -/
def dashedPayload : String :=
  "\x7b\"url\":1, \"--\":[\"->\"],\n\"url\":\"file:/part.md\"\x7d"

def partUrl : Url := ⟨"file", some ⟨"", "", .name "", none⟩, .steps ["part.md"], none, none⟩

theorem address_in_decoration_dashed :
    Decorable "-BEGIN_NOTEBOOK<!-" dashedPayload ∧ NamesUrl dashedPayload partUrl ∧
      addressOfLine ("\u2003" ++ "<!--" ++ "\u3000 " ++ "-BEGIN_NOTEBOOK<!-" ++ "\n\t" ++ dashedPayload ++
        "\u0085" ++ "-->" ++ "\r") = .ok partUrl := by
  have h : Decorable "-BEGIN_NOTEBOOK<!-" dashedPayload :=
    ⟨by decide, ⟨⟨'\x7b', by decide⟩, '\x7d', by decide⟩, by decide⟩
  have hbare : addressOfLine ("-BEGIN_NOTEBOOK<!-" ++ "\n\t" ++ dashedPayload) = .ok partUrl :=
    eq_ok_of_toOption (by decide +kernel)
  have hn : NamesUrl dashedPayload partUrl :=
    (addressOfLine_eq_ok_iff (by rw [h.commentText_bare (by decide) (by decide),
      h.afterFirstWord?_eq (by decide) (by decide)])).1 hbare
  have hd := @address_in_decoration _ _ "\u2003" "\u3000 " "\n\t" "\u0085" "\r" h (by decide) (by decide)
    _ List.mem_cons_self
  exact ⟨h, hn, hd.1 _ hn⟩

end PagePrep
