import PagePrep.Proofs.Run.Fetching

/-!
# Fetching over redirects

A fetch asks for one address after the other, as long as it is sent on, and for six at most. The
redirects from an address make one chain, so what a fetch comes to is decided by the answer at the end of
the chain (`Site.follow_of_leadsOver`); and it brings a text over no more redirects than it may follow
(`Site.exists_of_follow_eq_ok`).
-/

set_option autoImplicit false

namespace PagePrep

/-- The request for a URL. -/
def Url.request (url : Url) : String := url.withoutFragment.text

namespace Response

/-- A success, no longer than allowed and complete, with this text for a body. -/
structure Brings (r : Response) (text : String) : Prop where
  success : 200 ≤ r.status ∧ r.status ≤ 299
  size : r.declared ≤ 10485760
  complete : r.declared ≤ r.body.size
  body : text = Text.lossy r.body

variable {r : Response} {text : String}

theorem isSuccess_iff : Status.isSuccess r.status = true ↔ 200 ≤ r.status ∧ r.status ≤ 299 := by
  simp [Status.isSuccess]

theorem text_eq_ok_iff : r.text = .ok text ↔ r.Brings text := by
  unfold Response.text
  constructor
  · intro h
    split at h
    · cases h
    · split at h
      · cases h
      · split at h
        · cases h
        · rename_i hs hl hb
          exact ⟨isSuccess_iff.1 (by simpa using hs), Nat.not_lt.1 hl, Nat.not_lt.1 hb,
            (Except.ok.inj h).symm⟩
  · intro h
    rw [if_neg (by simp [isSuccess_iff.2 h.success]), if_neg (show ¬ lengthLimit < _ from h.size.not_gt),
      if_neg h.complete.not_gt, h.body]

theorem text_of_no_success (h : ¬(200 ≤ r.status ∧ r.status ≤ 299)) :
    r.text = .error (.status r.status) := by
  rw [Response.text, if_pos (by simp [Bool.eq_false_iff.2 (mt isSuccess_iff.1 h)])]

theorem text_of_oversized (h : 200 ≤ r.status ∧ r.status ≤ 299) (hl : 10485760 < r.declared) :
    r.text = .error (.oversized r.declared) := by
  rw [Response.text, if_neg (by simp [isSuccess_iff.2 h]), if_pos (show lengthLimit < _ from hl)]

end Response

namespace Site

variable (site : Site)

/-- The answer to the request for a URL. -/
def reply (url : Url) : Response := site.answer url.request

/-- The answer for `url` sends the reader to `next`. -/
def SendsTo (url next : Url) : Prop :=
  (site.reply url).status ∈ [301, 302, 303, 307, 308] ∧
    ∃ location, (site.reply url).location = some location ∧ url.join location = .ok next

/-- The same, and `next` can be asked for. -/
def Redirects (url next : Url) : Prop := site.SendsTo url next ∧ next.scheme = "http"

/-- A fetch of `url` is led over the URLs `rest`, by one redirect each. -/
def LeadsOver (url : Url) (rest : List Url) : Prop := (url :: rest).IsChain site.Redirects

variable {site} {url next : Url} {rest : List Url} {hops : Nat} {text : String}

theorem redirect?_reply : (site.reply url).redirect? url = some next ↔ site.SendsTo url next := by
  rw [Response.redirect?, SendsTo]
  cases hr : Status.isRedirect (site.reply url).status with
  | false =>
    have hn : (site.reply url).status ∉ [301, 302, 303, 307, 308] := by
      simpa [Status.isRedirect] using hr
    simp [hn]
  | true =>
    have hm : (site.reply url).status ∈ [301, 302, 303, 307, 308] := by
      simpa [Status.isRedirect] using hr
    simp only [if_true, hm, true_and, Option.bind_eq_some_iff]
    refine exists_congr fun location => and_congr_right fun _ => ?_
    cases url.join location <;> simp [Except.toOption]

theorem redirect?_eq_none (h : ∀ next, ¬ site.SendsTo url next) :
    (site.reply url).redirect? url = none :=
  Option.eq_none_iff_forall_ne_some.2 fun next hn => h next (redirect?_reply.1 hn)

/-- A success sends the reader nowhere. -/
theorem not_sendsTo_of_success
    (h : 200 ≤ (site.reply url).status ∧ (site.reply url).status ≤ 299) :
    ¬ site.SendsTo url next := by
  rintro ⟨hs, -⟩
  simp only [List.mem_cons, List.not_mem_nil, or_false] at hs
  omega

/-! ## One request -/

theorem follow_of_http (hops : Nat) (hurl : url.scheme = "http") :
    site.follow hops url =
      match (site.reply url).redirect? url, hops with
      | none, _ => ⟨[url.request], (site.reply url).text⟩
      | some _, 0 => ⟨[url.request], .error (.tooManyRedirects url)⟩
      | some next, hops + 1 =>
        ⟨url.request :: (site.follow hops next).requests, (site.follow hops next).result⟩ := by
  have hr : (site.answer url.withoutFragment.text).redirect? url = (site.reply url).redirect? url := rfl
  conv_lhs => unfold follow
  rw [if_pos hurl]
  simp only [hr]
  cases (site.reply url).redirect? url with
  | none => rfl
  | some next => cases hops <;> rfl

/-- Where the reader is sent nowhere, the answer decides. -/
theorem follow_end (hops : Nat) (hurl : url.scheme = "http") (h : ∀ next, ¬ site.SendsTo url next) :
    site.follow hops url = ⟨[url.request], (site.reply url).text⟩ := by
  rw [follow_of_http hops hurl, redirect?_eq_none h]

/-- A redirect takes one request, and the rest is a fetch of its own. -/
theorem follow_succ (hops : Nat) (hurl : url.scheme = "http") (h : site.SendsTo url next) :
    site.follow (hops + 1) url =
      ⟨url.request :: (site.follow hops next).requests, (site.follow hops next).result⟩ := by
  rw [follow_of_http _ hurl, redirect?_reply.2 h]

/-- A redirect too many ends the fetch. -/
theorem follow_zero (hurl : url.scheme = "http") (h : site.SendsTo url next) :
    site.follow 0 url = ⟨[url.request], .error (.tooManyRedirects url)⟩ := by
  rw [follow_of_http _ hurl, redirect?_reply.2 h]

/-- An address of another kind is not asked for. -/
theorem follow_of_ne (site : Site) (hops : Nat) (hurl : url.scheme ≠ "http") :
    ∃ f, site.follow hops url = ⟨[], .error f⟩ := by
  unfold follow
  rw [if_neg hurl]
  split
  · exact ⟨_, rfl⟩
  · exact ⟨_, rfl⟩

theorem scheme_of_follow_eq_ok (h : (site.follow hops url).result = .ok text) :
    url.scheme = "http" := by
  by_contra hn
  obtain ⟨f, hf⟩ := site.follow_of_ne hops hn
  rw [hf] at h
  cases h

/-- What a fetch over at most `hops` redirects does about its first address. -/
inductive FirstTurn (site : Site) (url : Url) : Nat → Prop
  /-- The address is of another kind, and is not asked for. -/
  | refused {hops : Nat} {f : FetchFault} (result : site.follow hops url = ⟨[], .error f⟩) :
    FirstTurn site url hops
  /-- The answer is the last. -/
  | answered {hops : Nat} (last : ∀ next, ¬ site.SendsTo url next)
    (result : site.follow hops url = ⟨[url.request], (site.reply url).text⟩) : FirstTurn site url hops
  /-- The answer sends the reader on, and that is once too often. -/
  | exhausted {f : FetchFault} (result : site.follow 0 url = ⟨[url.request], .error f⟩) :
    FirstTurn site url 0
  /-- The fetch goes on from the next address. -/
  | redirected {hops : Nat} {next : Url} (sends : site.SendsTo url next)
    (result : site.follow (hops + 1) url =
      ⟨url.request :: (site.follow hops next).requests, (site.follow hops next).result⟩) :
    FirstTurn site url (hops + 1)

theorem firstTurn (site : Site) (hops : Nat) (url : Url) : FirstTurn site url hops := by
  by_cases hurl : url.scheme = "http"
  · by_cases hs : ∃ next, site.SendsTo url next
    · obtain ⟨next, hs⟩ := hs
      cases hops with
      | succ hops => exact .redirected hs (follow_succ hops hurl hs)
      | zero => exact .exhausted (follow_zero hurl hs)
    · exact .answered (not_exists.1 hs) (follow_end hops hurl (not_exists.1 hs))
  · obtain ⟨f, hf⟩ := site.follow_of_ne hops hurl
    exact .refused hf

/-! ## Chains of redirects -/

/-- A fetch that may follow all redirects of a chain asks for its URLs in turn, and the answer at its end
decides. -/
theorem follow_of_leadsOver (hurl : url.scheme = "http") (h : site.LeadsOver url rest)
    (hlen : rest.length ≤ hops) (hend : ∀ next, ¬ site.SendsTo (rest.getLastD url) next) :
    site.follow hops url =
      ⟨(url :: rest).map Url.request, (site.reply (rest.getLastD url)).text⟩ := by
  induction rest generalizing url hops with
  | nil => exact follow_end hops hurl hend
  | cons next rest ih =>
    obtain ⟨⟨hsends, hnext⟩, hrest⟩ := List.isChain_cons_cons.1 h
    obtain _ | hops := hops
    · simp at hlen
    · rw [List.getLastD_cons] at hend ⊢
      rw [follow_succ hops hurl hsends, ih hnext hrest (Nat.le_of_succ_le_succ hlen) hend]
      rfl

/-- A fetch that brings a text was led over a chain of redirects to an answer with this text. -/
theorem exists_of_follow_eq_ok (h : (site.follow hops url).result = .ok text) :
    ∃ rest, rest.length ≤ hops ∧ site.LeadsOver url rest ∧
      (site.reply (rest.getLastD url)).Brings text := by
  induction hops generalizing url with
  | zero =>
    cases site.firstTurn 0 url with
    | refused hr => rw [hr] at h; cases h
    | exhausted hr => rw [hr] at h; cases h
    | answered _ hr =>
      rw [hr] at h
      exact ⟨[], Nat.zero_le _, .singleton url, Response.text_eq_ok_iff.1 h⟩
  | succ hops ih =>
    cases site.firstTurn (hops + 1) url with
    | refused hr => rw [hr] at h; cases h
    | answered _ hr =>
      rw [hr] at h
      exact ⟨[], Nat.zero_le _, .singleton url, Response.text_eq_ok_iff.1 h⟩
    | @redirected _ next hs hr =>
      rw [hr] at h
      obtain ⟨rest, hlen, hrest, hb⟩ := ih h
      exact ⟨next :: rest, Nat.succ_le_succ hlen,
        .cons_cons ⟨hs, scheme_of_follow_eq_ok h⟩ hrest, by rwa [List.getLastD_cons]⟩

/-- A fetch takes no more than one request beyond the redirects it may follow. -/
theorem length_requests_le (site : Site) (hops : Nat) (url : Url) :
    (site.follow hops url).requests.length ≤ hops + 1 := by
  induction hops generalizing url with
  | zero => cases site.firstTurn 0 url <;> simp_all
  | succ hops ih =>
    cases site.firstTurn (hops + 1) url with
    | refused hr => simp [hr]
    | answered _ hr => simp [hr]
    | @redirected _ next _ hr =>
      rw [hr]
      exact Nat.succ_le_succ (ih next)

end Site

/-! ## The outcome -/

namespace Failure

theorem detail_status (url : Url) (code : Nat) :
    (fetch url (.status code)).detail = url.text ++ ": HTTP " ++ Status.text code := by
  have hc : ": HTTP " = ": " ++ "HTTP " := by decide
  show url.text ++ ": " ++ ("HTTP " ++ Status.text code) = _
  rw [hc, ← String.append_assoc, ← String.append_assoc]

theorem detail_oversized (url : Url) (length : Nat) :
    (fetch url (.oversized length)).detail =
      url.text ++ ": response too large (" ++ toString length ++ " bytes, max 10485760)" := by
  have hl : toString lengthLimit = "10485760" := by decide
  have ho : ": response too large (" = ": " ++ "response too large (" := by decide
  have hc : " bytes, max 10485760)" = " bytes, max " ++ "10485760" ++ ")" := by decide
  show url.text ++ ": " ++ ("response too large (" ++ toString length ++ " bytes, max " ++
    toString lengthLimit ++ ")") = _
  rw [hl, ho, hc]
  simp only [← String.append_assoc]

end Failure

/-- **The outcome of a fetch.** A fetch of an HTTP address issues six requests at most, and brings a text
only if at most five redirects lead to an answer with that text. Where at most five redirects lead to an
answer that sends the reader no further, the addresses on the way are asked for in turn, and this answer
decides: it brings its text, or is reported under the first address as a fault of the network if it is no
success, and as one of validation if it is said to be too long. -/
theorem outcome_of_fetch (site : Site) {url : Url} (hurl : url.scheme = "http") (s : Session) :
    ∃ requests outcome,
      (Action.fetch (.up site) url).runOn s = (outcome, s.noting (requests.map .request)) ∧
      requests.length ≤ 6 ∧
      (∀ text, outcome = .ok text → ∃ rest, rest.length ≤ 5 ∧ site.LeadsOver url rest ∧
        (site.reply (rest.getLastD url)).Brings text) ∧
      ∀ rest, rest.length ≤ 5 → site.LeadsOver url rest →
        let last := site.reply (rest.getLastD url)
        (∀ text, last.Brings text →
          outcome = .ok text ∧ requests = (url :: rest).map fun u => u.withoutFragment.text) ∧
        ((∀ next, ¬ site.SendsTo (rest.getLastD url) next) →
          ¬(200 ≤ last.status ∧ last.status ≤ 299) →
          ∃ f, outcome = .error f ∧ f.topic = .network ∧
            f.detail = url.text ++ ": HTTP " ++ Status.text last.status) ∧
        (200 ≤ last.status ∧ last.status ≤ 299 → 10485760 < last.declared →
          ∃ f, outcome = .error f ∧ f.topic = .validation ∧
            f.detail = url.text ++ ": response too large (" ++ toString last.declared ++
              " bytes, max 10485760)") := by
  refine ⟨_, _, Action.runOn_fetch (.up site) url s, Site.length_requests_le site 5 url, ?_, ?_⟩
  · intro text h
    cases hr : (site.follow 5 url).result with
    | error f =>
      have he : (Network.up site).text url = .error (.fetch url f) := congrArg (Except.mapError _) hr
      rw [he] at h
      cases h
    | ok t =>
      have he : (Network.up site).text url = .ok t := congrArg (Except.mapError _) hr
      obtain rfl : t = text := Except.ok.inj (he.symm.trans h)
      exact Site.exists_of_follow_eq_ok hr
  · intro rest hlen hrest
    -- an answer that ends the chain decides
    have hlast (hend : ∀ next, ¬ site.SendsTo (rest.getLastD url) next) :
        (Network.up site).text url =
            (site.reply (rest.getLastD url)).text.mapError (.fetch url) ∧
          (site.follow 5 url).requests = (url :: rest).map fun u => u.withoutFragment.text := by
      have hf := Site.follow_of_leadsOver hurl hrest hlen hend
      exact ⟨congrArg (fun x => x.result.mapError (Failure.fetch url)) hf, congrArg Fetch.requests hf⟩
    refine ⟨fun text hb => ?_, fun hend hs => ?_, fun hs hl => ?_⟩
    · obtain ⟨ht, hr⟩ := hlast fun _ => Site.not_sendsTo_of_success hb.success
      rw [Response.text_eq_ok_iff.2 hb] at ht
      exact ⟨ht, hr⟩
    · have ht := (hlast hend).1
      rw [Response.text_of_no_success hs] at ht
      exact ⟨.fetch url (.status _), ht, rfl, Failure.detail_status url _⟩
    · have ht := (hlast fun _ => Site.not_sendsTo_of_success hs).1
      rw [Response.text_of_oversized hs hl] at ht
      exact ⟨.fetch url (.oversized _), ht, rfl, Failure.detail_oversized url _⟩

/-- The address of a page on one host. -/
def hostUrl (page : String) (query fragment : Option String) : Url :=
  ⟨"http", some ⟨"", "", .name "h", none⟩, .steps [page], query, fragment⟩

/-- A site with five redirects in a row, told in different ways, to a page that is not UTF-8. -/
def windingSite : Site :=
  ⟨[("http://h/a", ⟨302, .empty, some "b#there", 0⟩), ("http://h/b", ⟨301, .empty, some "/c", 0⟩),
    ("http://h/c", ⟨307, .empty, some "x/../d", 0⟩), ("http://h/d", ⟨308, .empty, some "http:e?q", 0⟩),
    ("http://h/e?q", ⟨303, .empty, some "f", 0⟩), ("http://h/f", ⟨200, ⟨#[0x6f, 0xff]⟩, some "a", 2⟩)]⟩

theorem outcome_of_fetch_winding :
    (Action.fetch (.up windingSite) (hostUrl "a" none (some "here"))).runOn ⟨.empty [], []⟩ =
      (.ok "o\uFFFD", ⟨.empty [], ["http://h/a", "http://h/b", "http://h/c", "http://h/d",
        "http://h/e?q", "http://h/f"].map .request⟩) := by
  let rest := [hostUrl "b" none (some "there"), hostUrl "c" none none, hostUrl "d" none none,
    hostUrl "e" (some "q") none, hostUrl "f" none none]
  have hl : windingSite.LeadsOver (hostUrl "a" none (some "here")) rest := by
    have redirects {url next : Url} (h : (windingSite.reply url).redirect? url = some next)
        (hs : next.scheme = "http") : windingSite.Redirects url next :=
      ⟨Site.redirect?_reply.1 h, hs⟩
    refine .cons_cons (redirects ?_ rfl) (.cons_cons (redirects ?_ rfl) (.cons_cons (redirects ?_ rfl)
      (.cons_cons (redirects ?_ rfl) (.cons_cons (redirects ?_ rfl) (.singleton _))))) <;>
      decide +kernel
  have hb : (windingSite.reply (hostUrl "f" none none)).Brings "o\uFFFD" :=
    Response.text_eq_ok_iff.1 (eq_ok_of_toOption (by decide +kernel))
  obtain ⟨requests, outcome, hrun, -, -, hends⟩ :=
    @outcome_of_fetch windingSite (hostUrl "a" none (some "here")) rfl ⟨.empty [], []⟩
  obtain ⟨rfl, hr⟩ := (hends rest (by decide) hl).1 _ hb
  have hrequests : requests = ["http://h/a", "http://h/b", "http://h/c", "http://h/d", "http://h/e?q",
      "http://h/f"] := by
    rw [hr]
    decide +kernel
  rw [hrun, hrequests]
  rfl

end PagePrep
