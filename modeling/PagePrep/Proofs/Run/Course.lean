import PagePrep.Proofs.Files.Rewriting
import PagePrep.Proofs.Page.MarkedText
import PagePrep.Proofs.Run.Fetching

/-!
# The course of a build

A build takes one step after the other: it renders or marks one page, and goes on to the next. A step
reads its page, makes another text of it, and writes that where it differs. What the files go through is
told without the actions (`Course`); an action follows some steps if it ends with the last of them, or
before the first that fails, with the files as the steps up to there leave them (`Follows`). A loop follows
its pages if one turn of it takes one step (`Follows.cons`).
-/

set_option autoImplicit false

namespace PagePrep

/-- A step of a build: what is done to the page at a path. -/
inductive BuildStep where
  | render (kind : RegionKind) (path : String)
  | mark (path : String)
  deriving DecidableEq, Repr

namespace BuildStep

/-- The path of the page. -/
def path : BuildStep → String
  | render _ path => path
  | mark path => path

variable (network : Network) (siteRoot : String)

/-- The text that the step makes of the page's text. -/
def newText : BuildStep → String → Except Failure String
  | render kind _, text => network.rendered kind siteRoot text
  | mark path, text => .ok (markedText path text)

/-- The text that the page has in a tree, and the one that the step makes of it. -/
def texts (t : FileTree) (step : BuildStep) : Except Failure (String × String) :=
  match t.readText step.path with
  | .error f => .error (.file step.path f)
  | .ok text => (step.newText network siteRoot text).map (text, ·)

section Texts

variable {network siteRoot} {t : FileTree} {step : BuildStep}

theorem texts_eq_ok_iff {before after : String} :
    step.texts network siteRoot t = .ok (before, after) ↔
      t.readText step.path = .ok before ∧ step.newText network siteRoot before = .ok after := by
  unfold texts
  cases t.readText step.path with
  | error g => simp
  | ok text =>
    rw [map_eq_ok_iff]
    constructor
    · rintro ⟨new, hn, h⟩
      obtain ⟨rfl, rfl⟩ := Prod.mk.inj h
      exact ⟨rfl, hn⟩
    · rintro ⟨h, hn⟩
      obtain rfl := Except.ok.inj h
      exact ⟨after, hn, rfl⟩

/-- A step fails where its page cannot be read, or where no new text can be made. -/
theorem texts_eq_error_iff {f : Failure} :
    step.texts network siteRoot t = .error f ↔
      (∃ g, t.readText step.path = .error g ∧ Failure.file step.path g = f) ∨
        ∃ text, t.readText step.path = .ok text ∧ step.newText network siteRoot text = .error f := by
  unfold texts
  cases t.readText step.path with
  | error g => simp
  | ok text => simp [map_eq_error_iff]

end Texts

end BuildStep

/-- A step that was taken, with the text of its page before and after it. -/
structure Turn where
  step : BuildStep
  before : String
  after : String
  deriving DecidableEq, Repr

namespace Turn

def path (u : Turn) : String := u.step.path

/-- Whether the step altered the text. -/
def changed (u : Turn) : Bool := u.after != u.before

end Turn

/-- `t'` is `t` after the turn of a page: the same tree if the text stays as it was, and else the tree with
the new text in the page's file. -/
inductive FileTree.Updates (t : FileTree) (path before after : String) : FileTree → Prop
  | kept (same : after = before) : Updates t path before after t
  | written {t' : FileTree} (other : after ≠ before) (replaces : t.Replaces path after t') :
    Updates t path before after t'

/-- What files go through while steps are taken one after the other. -/
inductive Course (network : Network) (siteRoot : String) : FileTree → List Turn → FileTree → Prop
  | done (t : FileTree) : Course network siteRoot t [] t
  | turn {t t' t'' : FileTree} {u : Turn} {turns : List Turn}
    (texts : u.step.texts network siteRoot t = .ok (u.before, u.after))
    (updates : t.Updates u.path u.before u.after t') (later : Course network siteRoot t' turns t'') :
    Course network siteRoot t (u :: turns) t''

variable {network : Network} {siteRoot : String} {t t' t'' : FileTree} {turns turns' : List Turn}

theorem FileTree.Updates.alike {path before after : String} (h : t.Updates path before after t') :
    t.Alike t' := by
  cases h with
  | kept _ => exact .refl t
  | written _ hr => exact hr.alike

namespace Course

theorem append (h : Course network siteRoot t turns t') (h' : Course network siteRoot t' turns' t'') :
    Course network siteRoot t (turns ++ turns') t'' := by
  induction h with
  | done t => exact h'
  | turn ht hu _ ih => exact .turn ht hu (ih h')

/-- No step does more than to alter contents of files. -/
theorem alike (h : Course network siteRoot t turns t') : t.Alike t' := by
  induction h with
  | done t => exact .refl t
  | turn _ hu _ ih => exact hu.alike.trans ih

end Course

/-! ## Sessions -/

namespace Event

/-- The page that a step notes as done with. -/
def page? : Event → Option String
  | page path _ _ => some path
  | _ => none

/-- Whether an address is asked for. -/
def isRequest : Event → Bool
  | request _ => true
  | _ => false

end Event

/-- A session that goes through some turns. It notes each page once it is done with, in order, and else
only such steps as are `allowed`. -/
structure Trail (network : Network) (siteRoot : String) (allowed : Event → Bool) (s : Session)
    (turns : List Turn) (s' : Session) : Prop where
  course : Course network siteRoot s.files turns s'.files
  log : ∃ events, s'.log = s.log ++ events ∧ events.filterMap Event.page? = turns.map Turn.path ∧
    ∀ e ∈ events, allowed e = true

namespace Trail

variable {allowed : Event → Bool} {s s' s'' : Session}

theorem refl (s : Session) : Trail network siteRoot allowed s [] s :=
  ⟨.done _, [], (List.append_nil _).symm, rfl, by simp⟩

theorem append (h : Trail network siteRoot allowed s turns s')
    (h' : Trail network siteRoot allowed s' turns' s'') :
    Trail network siteRoot allowed s (turns ++ turns') s'' := by
  obtain ⟨events, hl, hp, hq⟩ := h.log
  obtain ⟨events', hl', hp', hq'⟩ := h'.log
  refine ⟨h.course.append h'.course, events ++ events', ?_, ?_, ?_⟩
  · rw [hl', hl, List.append_assoc]
  · rw [List.filterMap_append, hp, hp', List.map_append]
  · intro e he
    rcases List.mem_append.1 he with he | he
    · exact hq e he
    · exact hq' e he

/-- Steps that concern no page leave the files alone. -/
theorem noting {events : List Event} (s : Session)
    (h : ∀ e ∈ events, e.page? = none ∧ allowed e = true) :
    Trail network siteRoot allowed s [] (s.noting events) := by
  refine ⟨.done _, events, rfl, ?_, fun e he => (h e he).2⟩
  rw [List.map_nil, List.filterMap_eq_nil_iff]
  exact fun e he => (h e he).1

end Trail

/-! ## Actions -/

section Actions

variable (network siteRoot) (allowed : Event → Bool) {α β γ : Type}

/-- An action that takes one step, with a value that tells of its turn. If the step fails, so does the
action, and leaves the files alone. -/
structure Takes (x : Action α) (step : BuildStep) (value : Turn → α) : Prop where
  error : ∀ (s : Session) (f : Failure), step.texts network siteRoot s.files = .error f →
    ∃ events, (∀ e ∈ events, e.page? = none ∧ allowed e = true) ∧
      x.runOn s = (.error f, s.noting events)
  ok : ∀ (s : Session) (before after : String),
    step.texts network siteRoot s.files = .ok (before, after) →
    ∃ t' events, s.files.Updates step.path before after t' ∧
      (∀ e ∈ events, e.page? = none ∧ allowed e = true) ∧
      x.runOn s = (.ok (value ⟨step, before, after⟩), Session.noting { s with files := t' } events)

/-- A failure stops a queue of steps in a tree: the first step that is left fails with it. -/
def Stops (queue : List BuildStep) (turns : List Turn) (t : FileTree) (f : Failure) : Prop :=
  ∃ step below, queue = turns.map Turn.step ++ step :: below ∧ step.texts network siteRoot t = .error f

/-- An action that takes some steps one after the other, with a result that tells of all turns. It ends
with the last step, or before the first that fails. -/
def Follows (x : Action α) (steps : List BuildStep) (result : List Turn → α) : Prop :=
  ∀ s, ∃ turns s', Trail network siteRoot allowed s turns s' ∧
    ((turns.map Turn.step = steps ∧ x.runOn s = (.ok (result turns), s')) ∨
      ∃ f, Stops network siteRoot steps turns s'.files f ∧ x.runOn s = (.error f, s'))

variable {network siteRoot allowed}

namespace Follows

theorem nil {a : α} {result : List Turn → α} (h : result [] = a) :
    Follows network siteRoot allowed (pure a) [] result :=
  fun s => ⟨[], s, .refl s, .inl ⟨rfl, by rw [h]; rfl⟩⟩

/-- A step that concerns no page comes first. -/
theorem note {x : Action α} {steps : List BuildStep} {result : List Turn → α} {e : Event}
    (hp : e.page? = none) (ha : allowed e = true) (h : Follows network siteRoot allowed x steps result) :
    Follows network siteRoot allowed (Action.note e >>= fun _ => x) steps result := by
  intro s
  obtain ⟨turns, s', hs, hend⟩ := h (s.noting [e])
  refine ⟨turns, s', (Trail.noting s (by simpa using ⟨hp, ha⟩)).append hs, ?_⟩
  rwa [Action.runOn_bind_ok _ (Action.runOn_note s e)]

/-- A step that concerns no page comes last, and what the action comes to is put to use. -/
theorem finish {x : Action α} {steps : List BuildStep} {result : List Turn → α} (e : α → Event)
    (make : α → β) (hp : ∀ a, (e a).page? = none) (ha : ∀ a, allowed (e a) = true)
    (h : Follows network siteRoot allowed x steps result) :
    Follows network siteRoot allowed
      (do
        let a ← x
        Action.note (e a)
        return make a)
      steps fun turns => make (result turns) := by
  intro s
  obtain ⟨turns, s', hs, ⟨hq, hrun⟩ | ⟨f, hf, hrun⟩⟩ := h s
  · have hn : Trail network siteRoot allowed s' [] (s'.noting [e (result turns)]) :=
      .noting s' (by simpa using ⟨hp _, ha _⟩)
    refine ⟨turns, _, by simpa using hs.append hn, .inl ⟨hq, ?_⟩⟩
    rw [Action.runOn_bind_ok _ hrun, Action.runOn_bind_ok _ (Action.runOn_note s' _)]
    rfl
  · exact ⟨turns, s', hs, .inr ⟨f, hf, Action.runOn_bind_error _ hrun⟩⟩

/-- One action after the other. -/
theorem append {x : Action α} {y : Action β} {steps steps' : List BuildStep}
    {result : List Turn → α} {result' : List Turn → β} {result'' : List Turn → γ}
    (combine : α → β → γ) (hx : Follows network siteRoot allowed x steps result)
    (hy : Follows network siteRoot allowed y steps' result')
    (hr : ∀ us us', us.map Turn.step = steps → us'.map Turn.step = steps' →
      result'' (us ++ us') = combine (result us) (result' us')) :
    Follows network siteRoot allowed
      (do
        let a ← x
        let b ← y
        return combine a b)
      (steps ++ steps') result'' := by
  intro s
  obtain ⟨turns, s₁, hs₁, ⟨hq, hrun⟩ | ⟨f, ⟨step, below, hq, hf⟩, hrun⟩⟩ := hx s
  · obtain ⟨turns', s', hs', ⟨hq', hrun'⟩ | ⟨f, ⟨step, below, hq', hf⟩, hrun'⟩⟩ := hy s₁
    · refine ⟨turns ++ turns', s', hs₁.append hs', .inl ⟨by rw [List.map_append, hq, hq'], ?_⟩⟩
      rw [Action.runOn_bind_ok _ hrun, Action.runOn_bind_ok _ hrun', hr _ _ hq hq']
      rfl
    · refine ⟨turns ++ turns', s', hs₁.append hs', .inr ⟨f, ⟨step, below, ?_, hf⟩, ?_⟩⟩
      · rw [hq', ← hq, List.map_append, List.append_assoc]
      · rw [Action.runOn_bind_ok _ hrun, Action.runOn_bind_error _ hrun']
  · refine ⟨turns, s₁, hs₁, .inr ⟨f, ⟨step, below ++ steps', ?_, hf⟩, ?_⟩⟩
    · rw [hq, List.append_assoc]
      rfl
    · exact Action.runOn_bind_error _ hrun

/-- A turn of a loop and the rest of the loop. -/
theorem cons {x : Action α} {y : Action β} {step : BuildStep} {steps : List BuildStep}
    {value : Turn → α} {others : List Turn → β} {result : List Turn → γ} (combine : α → β → γ)
    {number total : Nat} (hp : ∀ path, allowed (.page path number total) = true)
    (hx : Takes network siteRoot allowed x step value)
    (hy : Follows network siteRoot allowed y steps others)
    (hr : ∀ u us, u.step = step → result (u :: us) = combine (value u) (others us)) :
    Follows network siteRoot allowed
      (do
        let a ← x
        Action.note (.page step.path number total)
        let b ← y
        return combine a b)
      (step :: steps) result := by
  intro s
  cases ht : step.texts network siteRoot s.files with
  | error f =>
    obtain ⟨events, he, hf⟩ := hx.error s f ht
    exact ⟨[], s.noting events, .noting s he, .inr ⟨f, ⟨step, steps, rfl, ht⟩,
      Action.runOn_bind_error _ hf⟩⟩
  | ok p =>
    obtain ⟨before, after⟩ := p
    obtain ⟨t', events, hu, he, hv⟩ := hx.ok s before after ht
    -- the session in which the page is noted, and the rest of the loop begins
    let s₁ : Session := Session.noting { s with files := t' } (events ++ [.page step.path number total])
    have hs₁ : Trail network siteRoot allowed s [⟨step, before, after⟩] s₁ := by
      refine ⟨.turn ht hu (.done t'), events ++ [.page step.path number total], rfl, ?_, ?_⟩
      · rw [List.filterMap_append, List.filterMap_eq_nil_iff.2 fun e h => (he e h).1]
        rfl
      · intro e h
        rcases List.mem_append.1 h with h | h
        · exact (he e h).2
        · rw [List.mem_singleton.1 h]
          exact hp _
    have hn : (Action.note (.page step.path number total)).runOn
        (Session.noting { s with files := t' } events) = (.ok (), s₁) := by
      rw [Action.runOn_note]
      exact congrArg _ (Session.noting_noting _ events [_])
    obtain ⟨turns, s', hs', hend⟩ := hy s₁
    refine ⟨⟨step, before, after⟩ :: turns, s', hs₁.append hs', ?_⟩
    rw [Action.runOn_bind_ok _ hv, Action.runOn_bind_ok _ hn]
    rcases hend with ⟨hsteps, hrun⟩ | ⟨f, ⟨bad, below, hsteps, hbad⟩, hrun⟩
    · refine .inl ⟨by rw [List.map_cons, hsteps], ?_⟩
      rw [Action.runOn_bind_ok _ hrun, hr _ _ rfl]
      rfl
    · refine .inr ⟨f, ⟨bad, below, by rw [hsteps]; rfl, hbad⟩, ?_⟩
      rw [Action.runOn_bind_error _ hrun]

end Follows

end Actions

/-- Writing a page's text where it differs from the one that is there, and going on. -/
theorem Action.runOn_writeChanged {β : Type} {s : Session} {path before : String} (after : String)
    (h : s.files.readText path = .ok before) :
    ∃ t', s.files.Updates path before after t' ∧ ∀ next : Unit → Action β,
      (if (after != before) = true then writeText path after >>= next else next ()).runOn s =
        (next ()).runOn { s with files := t' } := by
  by_cases hc : after = before
  · exact ⟨s.files, .kept hc, fun next => by simp [hc]⟩
  · obtain ⟨t', hw, hr⟩ := FileTree.exists_replaces after h
    refine ⟨t', .written hc hr, fun next => ?_⟩
    rw [if_pos (by simpa using hc), runOn_bind_ok next (runOn_writeText_ok hw)]

end PagePrep
