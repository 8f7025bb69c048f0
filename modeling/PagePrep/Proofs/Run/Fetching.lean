import PagePrep.Proofs.Region.RepeatedBuild
import PagePrep.Proofs.Run.Action
import PagePrep.Proofs.Run.Discovery
import PagePrep.Run.Rendering

/-!
# Fetching what a page needs

The lines that open regions are read twice: once to collect the addresses, and again when the page is
filled. Each address is asked for once, in the order in which the page names it, and no further than the
first that brings nothing (`runOn_fetchAll`). So a page is filled from a network as a function of its text
(`Network.rendered`, `runOn_renderText`), and never for want of content: when all of it is there, only the
lines that open and close regions can be at fault (`rendering_fetches_addresses`).
-/

set_option autoImplicit false

namespace PagePrep

open Text

/-! ## What a network brings -/

namespace Network

variable (network : Network)

/-- The text at an address. -/
def text (url : Url) : Except Failure String := (network.fetch url).result.mapError (.fetch url)

/-- The notebook at an address. -/
def notebook (url : Url) : Except Failure Notebook := do
  let text ← network.text url
  (Notebook.ofJson text).mapError (.notebook (some url) text)

/-- The requests that asking for an address takes. -/
def requests (url : Url) : List Event := (network.fetch url).requests.map .request

end Network

/-- The failure, if there is one. -/
def failure? {α : Type} : Except Failure α → Option Failure
  | .ok _ => none
  | .error f => some f

/-- Why regions of a kind cannot be filled from an address, if they cannot. -/
def Network.fault? (network : Network) (kind : RegionKind) (url : Url) : Option Failure :=
  match kind with
  | .fragment => failure? (network.text url)
  | .notebook => failure? (network.notebook url)

namespace Action

variable (network : Network) (url : Url) (s : Session)

/-- Addresses that are asked for are noted. -/
theorem runOn_requests (rs : List String) (s : Session) :
    (rs.forM fun r => note (.request r)).runOn s = (.ok (), s.noting (rs.map .request)) := by
  induction rs generalizing s with
  | nil =>
    rw [List.map_nil, Session.noting_nil]
    rfl
  | cons r rs ih =>
    show (note (.request r) >>= fun _ => rs.forM fun r => note (.request r)).runOn s = _
    rw [runOn_bind_ok _ (runOn_note s _)]
    exact (ih _).trans (by rw [List.map_cons]; exact congrArg _ (Session.noting_noting s [_] _))

/-- The requests of a fetch are noted, and then it comes to what the network brings. -/
theorem runOn_fetch :
    (fetch network url).runOn s = (network.text url, s.noting (network.requests url)) := by
  rw [fetch, runOn_bind_ok _ (runOn_requests _ s), Network.text]
  cases (network.fetch url).result <;> rfl

theorem runOn_fetchNotebook :
    (fetchNotebook network url).runOn s =
      (network.notebook url, s.noting (network.requests url)) := by
  rw [fetchNotebook, Network.notebook]
  cases ht : network.text url with
  | error f =>
    rw [runOn_bind_error _ (by rw [runOn_fetch, ht])]
    rfl
  | ok text =>
    rw [runOn_bind_ok _ (by rw [runOn_fetch, ht])]
    show _ = ((Notebook.ofJson text).mapError _, _)
    cases Notebook.ofJson text <;> rfl

theorem runOn_orFail {α : Type} (x : Except RegionFault α) :
    (orFail x).runOn s = (x.mapError .region, s) := by
  cases x <;> rfl

end Action

/-! ## Each address once -/

/-- The addresses up to the first that has a fault. -/
def reached (fault? : Url → Option Failure) : List Url → List Url
  | [] => []
  | url :: rest =>
    match fault? url with
    | none => url :: reached fault? rest
    | some _ => [url]

/-- The content at some addresses, or the first failure to get it. -/
def gather {α : Type} (outcome : Url → Except Failure α) : List Url → Except Failure (Fetched α)
  | [] => .ok []
  | url :: rest => do
    let content ← outcome url
    let others ← gather outcome rest
    return (url, content) :: others

section Gather

variable {α : Type} {outcome : Url → Except Failure α} {fetched held : Fetched α} {urls : List Url}
  {url : Url} {f : Failure}

theorem Fetched.get?_concat (held : Fetched α) (url : Url) (content : α) (other : Url) :
    Fetched.get? (held ++ [(url, content)]) other =
      if url == other then some content else held.get? other := by
  rw [get?, List.reverse_concat, List.find?_cons]
  cases url == other <;> rfl

theorem Fetched.exists_get?_of_mem {e : Url × α} (h : e ∈ fetched) :
    ∃ content, fetched.get? e.1 = some content := by
  cases hf : fetched.reverse.find? fun e' => e'.1 == e.1 with
  | none =>
    have := List.find?_eq_none.1 hf e (List.mem_reverse.2 h)
    simp at this
  | some e' => exact ⟨e'.2, by rw [get?, hf]; rfl⟩

theorem map_fst_of_gather (h : gather outcome urls = .ok fetched) : fetched.map Prod.fst = urls := by
  induction urls generalizing fetched with
  | nil =>
    obtain rfl : [] = fetched := Except.ok.inj h
    rfl
  | cons url rest ih =>
    obtain ⟨content, -, h⟩ := bind_eq_ok_iff.1 h
    obtain ⟨others, ho, h⟩ := bind_eq_ok_iff.1 h
    obtain rfl : (url, content) :: others = fetched := Except.ok.inj h
    rw [List.map_cons, ih ho]

/-- There is content for all addresses, and none has a fault, or the first fault is the failure. -/
theorem gather_cases {β : Type} (outcome : Url → Except Failure α) (urls : List Url)
    (make : Fetched α → β) :
    (∃ b, (gather outcome urls).map make = .ok b ∧
        (∀ url ∈ urls, failure? (outcome url) = none) ∧
        reached (fun url => failure? (outcome url)) urls = urls) ∨
      ∃ before url after f, urls = before ++ url :: after ∧
        (∀ earlier ∈ before, failure? (outcome earlier) = none) ∧ failure? (outcome url) = some f ∧
        (gather outcome urls).map make = .error f ∧
        reached (fun url => failure? (outcome url)) urls = before ++ [url] := by
  induction urls generalizing make with
  | nil => exact .inl ⟨make [], rfl, by simp, rfl⟩
  | cons url rest ih =>
    cases ho : outcome url with
    | error f =>
      exact .inr ⟨[], url, rest, f, rfl, by simp, by rw [ho]; rfl, by rw [gather, ho]; rfl,
        by rw [reached, ho]; rfl⟩
    | ok content =>
      have hg : (gather outcome (url :: rest)).map make =
          (gather outcome rest).map fun others => make ((url, content) :: others) := by
        rw [gather, ho]
        cases gather outcome rest <;> rfl
      have hr : reached (fun url => failure? (outcome url)) (url :: rest) =
          url :: reached (fun url => failure? (outcome url)) rest := by
        rw [reached, ho]
        rfl
      have hn : failure? (outcome url) = none := by rw [ho]; rfl
      rw [hg, hr]
      rcases ih fun others => make ((url, content) :: others) with
        ⟨b, hb, hns, hrs⟩ | ⟨before, bad, after, f, rfl, hns, hf, hb, hrs⟩
      · exact .inl ⟨b, hb, by simpa [hn] using hns, by rw [hrs]⟩
      · exact .inr ⟨url :: before, bad, after, f, rfl, by simpa [hn] using hns, hf, hb,
          by rw [hrs]; rfl⟩

end Gather

section FetchAll

variable {α : Type} {fetch : Url → Action α} {outcome : Url → Except Failure α}
  {requests : Url → List Event}

/-- The addresses that nothing is held for, each once. -/
def missing (held : Fetched α) (urls : List Url) : List Url :=
  (urls.filter fun url => (held.get? url).isNone).eraseDups

theorem missing_cons_held {held : Fetched α} {url : Url} {content : α} (rest : List Url)
    (h : held.get? url = some content) : missing held (url :: rest) = missing held rest := by
  rw [missing, List.filter_cons_of_neg (by simp [h]), missing]

theorem missing_cons_new {held : Fetched α} {url : Url} (content : α) (rest : List Url)
    (h : held.get? url = none) :
    missing held (url :: rest) = url :: missing (held ++ [(url, content)]) rest := by
  rw [missing, List.filter_cons_of_pos (by simp [h]), List.eraseDups_cons, List.filter_filter, missing]
  congr 2
  apply List.filter_congr
  intro other _
  rw [Fetched.get?_concat]
  cases hu : url == other with
  | true => simp [eq_of_beq hu]
  | false =>
    have hne : other ≠ url := fun he => by simp [he] at hu
    simp [hne]

/-- Fetching asks for each address that nothing is held for once, and stops at the first failure. -/
theorem runOn_fetchAll
    (hf : ∀ url s, (fetch url).runOn s = (outcome url, s.noting (requests url)))
    (held : Fetched α) (urls : List Url) (s : Session) :
    (fetchAll fetch held urls).runOn s =
      ((gather outcome (missing held urls)).map (held ++ ·),
        s.noting ((reached (fun url => failure? (outcome url)) (missing held urls)).flatMap
          requests)) := by
  induction urls generalizing held s with
  | nil =>
    show (Except.ok held, s) = (Except.ok (held ++ []), s.noting [])
    rw [List.append_nil, Session.noting_nil]
  | cons url rest ih =>
    rw [fetchAll]
    cases hh : held.get? url with
    | some content => rw [missing_cons_held rest hh, ← ih]
    | none =>
      cases ho : outcome url with
      | error f =>
        have hm : ∃ below, missing held (url :: rest) = url :: below := by
          rw [missing, List.filter_cons_of_pos (by simp [hh]), List.eraseDups_cons]
          exact ⟨_, rfl⟩
        obtain ⟨below, hm⟩ := hm
        have hr : reached (fun url => failure? (outcome url)) (url :: below) = [url] := by
          rw [reached, ho]
          rfl
        rw [Action.runOn_bind_error _ (by rw [hf, ho]), hm, hr, gather, ho, List.flatMap_singleton]
        rfl
      | ok content =>
        rw [Action.runOn_bind_ok _ (by rw [hf, ho]), ih, missing_cons_new content rest hh,
          Session.noting_noting, gather, ho, reached, ho]
        show _ = (Except.map _ (gather _ _ >>= _), _)
        cases gather outcome (missing (held ++ [(url, content)]) rest) with
        | error f => rfl
        | ok fetched => exact congrArg (fun l => (Except.ok l, _)) (List.append_assoc held _ _)

theorem missing_nil (urls : List Url) : missing (α := α) [] urls = urls.eraseDups := by
  rw [missing]
  congr 1
  exact List.filter_eq_self.2 fun _ _ => rfl

/-- Filling a page with what is fetched for it. -/
theorem runOn_fetchAll_orFail
    (hf : ∀ url s, (fetch url).runOn s = (outcome url, s.noting (requests url)))
    (fill : Fetched α → Except RegionFault String) (urls : List Url) (s : Session) :
    (fetchAll fetch [] urls >>= fun fetched => orFail (fill fetched)).runOn s =
      (gather outcome urls.eraseDups >>= fun fetched => (fill fetched).mapError .region,
        s.noting ((reached (fun url => failure? (outcome url)) urls.eraseDups).flatMap requests)) := by
  have ha := runOn_fetchAll hf [] urls s
  rw [missing_nil] at ha
  cases hg : gather outcome urls.eraseDups with
  | error f =>
    rw [hg] at ha
    exact Action.runOn_bind_error _ ha
  | ok fetched =>
    rw [hg] at ha
    exact (Action.runOn_bind_ok _ ha).trans (Action.runOn_orFail _ _)

end FetchAll

/-! ## Filling a page from a network -/

/-- The content for regions of a kind at some addresses, or the first failure to get it. -/
def Content.gather (network : Network) (kind : RegionKind) (siteRoot : String) (urls : List Url) :
    Except Failure Content :=
  match kind with
  | .fragment => (PagePrep.gather network.text urls).map .fragments
  | .notebook => (PagePrep.gather network.notebook urls).map (.notebooks siteRoot)

namespace Network

variable (network : Network) (kind : RegionKind) (siteRoot text : String)

/-- The text of a page with its regions filled from a network, or the first failure. -/
def rendered : Except Failure String := do
  let urls ← (kind.addresses text).mapError .region
  let content ← Content.gather network kind siteRoot urls.eraseDups
  (content.fill text).mapError .region

/-- The requests that filling a page takes. -/
def requestsFor : List Event :=
  match kind.addresses text with
  | .error _ => []
  | .ok urls => (reached (network.fault? kind) urls.eraseDups).flatMap network.requests

variable {kind text}

theorem rendered_of_malformed {f : RegionFault} (h : kind.addresses text = .error f) :
    network.rendered kind siteRoot text = .error (.region f) ∧
      network.requestsFor kind text = [] := by
  rw [rendered, requestsFor, h]
  exact ⟨rfl, rfl⟩

theorem rendered_of_addresses {urls : List Url} (h : kind.addresses text = .ok urls) :
    (network.rendered kind siteRoot text =
        Content.gather network kind siteRoot urls.eraseDups >>= fun content =>
          (content.fill text).mapError .region) ∧
      network.requestsFor kind text =
        (reached (network.fault? kind) urls.eraseDups).flatMap network.requests := by
  rw [rendered, requestsFor, h]
  exact ⟨rfl, rfl⟩

end Network

/-- Rendering a text comes to the text filled from the network and notes the requests it takes. -/
theorem runOn_renderText (network : Network) (kind : RegionKind) (siteRoot text : String)
    (s : Session) :
    (renderText network kind siteRoot text).runOn s =
      (network.rendered kind siteRoot text, s.noting (network.requestsFor kind text)) := by
  rw [renderText]
  cases ha : kind.addresses text with
  | error f =>
    obtain ⟨hr, hq⟩ := Network.rendered_of_malformed network siteRoot ha
    rw [hr, hq, Action.runOn_bind_error _ (Action.runOn_orFail s (.error f)), Session.noting_nil]
  | ok urls =>
    obtain ⟨hr, hq⟩ := Network.rendered_of_addresses network siteRoot ha
    rw [hr, hq, Action.runOn_bind_ok _ (Action.runOn_orFail s (.ok urls))]
    cases kind with
    | fragment =>
      refine (runOn_fetchAll_orFail (Action.runOn_fetch network)
        (fun fetched => fillFragments fetched text) urls s).trans ?_
      rw [Content.gather]
      cases gather network.text urls.eraseDups <;> rfl
    | notebook =>
      refine (runOn_fetchAll_orFail (Action.runOn_fetchNotebook network)
        (fun fetched => fillNotebooks siteRoot fetched text) urls s).trans ?_
      rw [Content.gather]
      cases gather network.notebook urls.eraseDups <;> rfl

/-! ## Faults of a page that has all its content -/

namespace RegionKind

variable {ε : Type} {kind : RegionKind} {refuse : RegionFault → ε}
  {fill : Url → Except ε (List String)} {ls : List String} {e : ε}

/-- The lines that open and close regions do not match. -/
inductive Unbalanced (kind : RegionKind) : RegionFault → Prop
  | nested (line earlier : Nat) : Unbalanced kind (.nested kind line earlier)
  | strayEnd (line : Nat) : Unbalanced kind (.strayEnd kind line)
  | unclosed (line : Nat) : Unbalanced kind (.unclosed kind line)

/-- With content for every line that opens a region, only these lines and those that close one can be at
fault. -/
theorem unbalanced_of_fillFrom_eq_error {opened : Option Nat} {n : Nat}
    (hb : ∀ o ∈ ls, kind.opens o = true → ∃ body, linesFor refuse fill o = .ok body)
    (h : kind.fillFrom refuse fill opened n ls = .error e) :
    ∃ f, e = refuse f ∧ kind.Unbalanced f := by
  induction ls generalizing opened n with
  | nil =>
    cases opened with
    | none => cases h
    | some earlier => exact ⟨_, (Except.error.inj h).symm, .unclosed earlier⟩
  | cons l ls ih =>
    have below {opened : Option Nat} (h : kind.fillFrom refuse fill opened (n + 1) ls = .error e) :=
      ih (fun o ho => hb o (List.mem_cons_of_mem _ ho)) h
    cases ho : kind.opens l with
    | true =>
      cases opened with
      | some earlier =>
        simp only [fillFrom, ho, if_true] at h
        exact ⟨_, (Except.error.inj h).symm, .nested n earlier⟩
      | none =>
        obtain ⟨body, hl⟩ := hb l (by simp) ho
        rw [fillFrom_opening ho, hl] at h
        exact below (map_eq_error_iff.1 h)
    | false =>
      cases hc : kind.closes l with
      | true =>
        cases opened with
        | some earlier =>
          rw [fillFrom_closing ho hc] at h
          exact below (map_eq_error_iff.1 h)
        | none =>
          simp only [fillFrom, ho, hc, Bool.false_eq_true, if_true, if_false] at h
          exact ⟨_, (Except.error.inj h).symm, .strayEnd n⟩
      | false =>
        have hp : kind.isPlain l = true := isPlain_eq_true_iff.2 ⟨ho, hc⟩
        cases opened with
        | some earlier =>
          rw [fillFrom_inner hp] at h
          exact below h
        | none =>
          rw [fillFrom_plain hp] at h
          exact below (map_eq_error_iff.1 h)

end RegionKind

namespace Content

variable {network : Network} {kind : RegionKind} {siteRoot text : String} {urls : List Url}
  {content : Content}

theorem kind_of_gather (h : gather network kind siteRoot urls = .ok content) :
    content.kind = kind := by
  cases kind with
  | fragment => obtain ⟨_, -, rfl⟩ := map_eq_ok_iff.1 h; rfl
  | notebook => obtain ⟨_, -, rfl⟩ := map_eq_ok_iff.1 h; rfl

/-- Gathered content holds something for each address. -/
theorem exists_linesAt_of_gather (h : gather network kind siteRoot urls = .ok content) {url : Url}
    (hu : url ∈ urls) : ∃ ls, content.linesAt url = .ok ls := by
  have held {α : Type} {outcome : Url → Except Failure α} {fetched : Fetched α}
      (hg : PagePrep.gather outcome urls = .ok fetched) : ∃ a, fetched.get? url = some a := by
    rw [← map_fst_of_gather hg] at hu
    obtain ⟨e, he, rfl⟩ := List.mem_map.1 hu
    exact Fetched.exists_get?_of_mem he
  cases kind with
  | fragment =>
    obtain ⟨fetched, hg, rfl⟩ := map_eq_ok_iff.1 h
    obtain ⟨body, hb⟩ := held hg
    exact ⟨_, Fetched.fill_eq_ok_iff.2 ⟨body, hb, rfl⟩⟩
  | notebook =>
    obtain ⟨fetched, hg, rfl⟩ := map_eq_ok_iff.1 h
    obtain ⟨n, hn⟩ := held hg
    exact ⟨_, Fetched.fill_eq_ok_iff.2 ⟨n, hn, rfl⟩⟩

/-- A network has content for all addresses, or there is a first one at fault. -/
theorem gather_cases (network : Network) (kind : RegionKind) (siteRoot : String) (urls : List Url) :
    (∃ content, gather network kind siteRoot urls = .ok content ∧
        (∀ url ∈ urls, network.fault? kind url = none) ∧
        reached (network.fault? kind) urls = urls) ∨
      ∃ before url after f, urls = before ++ url :: after ∧
        (∀ earlier ∈ before, network.fault? kind earlier = none) ∧
        network.fault? kind url = some f ∧ gather network kind siteRoot urls = .error f ∧
        reached (network.fault? kind) urls = before ++ [url] := by
  cases kind with
  | fragment => exact PagePrep.gather_cases network.text urls fragments
  | notebook => exact PagePrep.gather_cases network.notebook urls (notebooks siteRoot)

/-- Content for all addresses of a page leaves only its regions to be at fault. -/
theorem unbalanced_of_fill_eq_error {f : RegionFault} (ha : kind.addresses text = .ok urls)
    (hc : content.kind = kind) (hu : ∀ url ∈ urls, ∃ ls, content.linesAt url = .ok ls)
    (h : content.fill text = .error f) : kind.Unbalanced f := by
  have hf : content.fill text =
      (content.kind.fillFrom id content.linesAt none 1 (lines text)).map unlines := by
    cases content <;> rfl
  rw [hf, map_eq_error_iff, hc] at h
  have hb : ∀ o ∈ lines text, kind.opens o = true →
      ∃ body, RegionKind.linesFor id content.linesAt o = .ok body := by
    intro o ho hop
    obtain ⟨url, hm, hl⟩ := exists_mem_of_mapM_eq_ok ha (List.mem_filter.2 ⟨ho, hop⟩)
    obtain ⟨ls, hls⟩ := hu url hm
    exact ⟨ls, by rw [RegionKind.linesFor, hl]; exact hls⟩
  obtain ⟨g, rfl, hg⟩ := RegionKind.unbalanced_of_fillFrom_eq_error hb h
  exact hg

end Content

/-- **Fetching agrees with filling.** Where a line that opens a region is malformed, the first such line
is the failure and nothing is asked for. Otherwise each address is asked for once, in page order, up to
and including the first that brings nothing, which is the failure then. With all content there, the page is
filled with it, and only unmatched lines can be at fault. -/
theorem rendering_fetches_addresses (network : Network) (kind : RegionKind) (siteRoot text : String)
    (s : Session) :
    (∃ above line below f, (lines text).filter kind.opens = above ++ line :: below ∧
        (∀ l ∈ above, ∃ url, addressOfLine l = .ok url) ∧ addressOfLine line = .error f ∧
        (renderText network kind siteRoot text).runOn s = (.error (.region f), s)) ∨
      ∃ urls, kind.addresses text = .ok urls ∧
        ((∃ before url after f, urls.eraseDups = before ++ url :: after ∧
            (∀ earlier ∈ before, network.fault? kind earlier = none) ∧
            network.fault? kind url = some f ∧
            (renderText network kind siteRoot text).runOn s =
              (.error f, s.noting ((before ++ [url]).flatMap network.requests))) ∨
          ∃ content, Content.gather network kind siteRoot urls.eraseDups = .ok content ∧
            (∀ url ∈ urls, network.fault? kind url = none) ∧
            (∀ f, content.fill text = .error f → kind.Unbalanced f) ∧
            (renderText network kind siteRoot text).runOn s =
              ((content.fill text).mapError .region,
                s.noting (urls.eraseDups.flatMap network.requests))) := by
  cases ha : kind.addresses text with
  | error f =>
    obtain ⟨hr, hq⟩ := Network.rendered_of_malformed network siteRoot ha
    obtain ⟨above, line, below, hl, hok, hf⟩ := exists_of_mapM_eq_error ha
    refine .inl ⟨above, line, below, f, hl, hok, hf, ?_⟩
    rw [runOn_renderText, hr, hq, Session.noting_nil]
  | ok urls =>
    obtain ⟨hr, hq⟩ := Network.rendered_of_addresses network siteRoot ha
    refine .inr ⟨urls, rfl, ?_⟩
    rcases Content.gather_cases network kind siteRoot urls.eraseDups with
      ⟨content, hg, hn, he⟩ | ⟨before, url, after, f, hu, hn, hf, hg, he⟩
    · refine .inr ⟨content, hg, fun url hm => hn url (List.mem_eraseDups.2 hm), ?_, ?_⟩
      · intro f
        apply Content.unbalanced_of_fill_eq_error ha (Content.kind_of_gather hg)
        intro url hm
        exact Content.exists_linesAt_of_gather hg (List.mem_eraseDups.2 hm)
      · rw [runOn_renderText, hr, hq, hg, he]
        rfl
    · refine .inl ⟨before, url, after, f, hu, hn, hf, ?_⟩
      rw [runOn_renderText, hr, hq, hg, he]
      rfl

end PagePrep
