import PagePrep.Proofs.Run.Course
import PagePrep.Proofs.Run.MarkedTree
import PagePrep.Run.Build

/-!
# Building step by step

A build works through one queue: the pages with fragments, those with notebooks, and then the pages of the
folder. It stops before the first step that fails, and leaves the files as the steps before it made them
(`build_follows_queue`). Marking asks for nothing, so that all requests come before it.
-/

set_option autoImplicit false

namespace PagePrep

variable {network : Network} {siteRoot : String}

/-! ## Rendering -/

/-- Whether a step belongs to the rendering of pages. -/
def Event.isRendering : Event → Bool
  | phase (.rendering _) => true
  | page _ _ _ => true
  | request _ => true
  | _ => false

theorem Network.rendering_of_mem_requestsFor {kind : RegionKind} {text : String} {e : Event}
    (h : e ∈ network.requestsFor kind text) : e.page? = none ∧ e.isRendering = true := by
  unfold requestsFor at h
  split at h
  · cases h
  · obtain ⟨url, -, h⟩ := List.mem_flatMap.1 h
    obtain ⟨request, -, rfl⟩ := List.mem_map.1 h
    exact ⟨rfl, rfl⟩

theorem takes_renderPage (network : Network) (kind : RegionKind) (siteRoot path : String) :
    Takes network siteRoot Event.isRendering (renderPage network kind siteRoot path)
      (.render kind path) Turn.changed where
  error := by
    intro s f h
    rcases BuildStep.texts_eq_error_iff.1 h with ⟨g, hr, rfl⟩ | ⟨text, hr, hn⟩
    · replace hr : s.files.readText path = .error g := hr
      refine ⟨[], by simp, ?_⟩
      rw [renderPage, Action.runOn_bind_error _ (Action.runOn_readText_error hr), Session.noting_nil]
      rfl
    · replace hr : s.files.readText path = .ok text := hr
      replace hn : network.rendered kind siteRoot text = .error f := hn
      refine ⟨network.requestsFor kind text, fun e => Network.rendering_of_mem_requestsFor, ?_⟩
      have ht := runOn_renderText network kind siteRoot text s
      rw [hn] at ht
      rw [renderPage, Action.runOn_bind_ok _ (Action.runOn_readText_ok hr),
        Action.runOn_bind_error _ ht]
  ok := by
    intro s before after h
    obtain ⟨hr, hn⟩ := BuildStep.texts_eq_ok_iff.1 h
    replace hr : s.files.readText path = .ok before := hr
    replace hn : network.rendered kind siteRoot before = .ok after := hn
    have ht := runOn_renderText network kind siteRoot before s
    rw [hn] at ht
    obtain ⟨t', hu, hw⟩ :=
      Action.runOn_writeChanged (s := s.noting (network.requestsFor kind before)) after hr
    refine ⟨t', network.requestsFor kind before, hu,
      fun e => Network.rendering_of_mem_requestsFor, ?_⟩
    rw [renderPage, Action.runOn_bind_ok _ (Action.runOn_readText_ok hr), Action.runOn_bind_ok _ ht]
    exact hw fun _ => pure (after != before)

/-- The pages that steps altered, in order. -/
def Turn.alteredPaths (turns : List Turn) : List String := (turns.filter Turn.changed).map Turn.path

theorem follows_renderFrom (network : Network) (kind : RegionKind) (siteRoot : String)
    (total number : Nat) (paths : List String) :
    Follows network siteRoot Event.isRendering
      (renderFrom network kind siteRoot total number paths) (paths.map (.render kind))
      Turn.alteredPaths := by
  induction paths generalizing number with
  | nil => exact Follows.nil rfl
  | cons path rest ih =>
    rw [renderFrom, List.map_cons]
    refine Follows.cons
      (fun (changed : Bool) (below : List String) => if changed then path :: below else below)
      (fun _ => rfl) (takes_renderPage network kind siteRoot path) (ih (number + 1)) ?_
    intro u us hu
    have hp : u.path = path := by rw [Turn.path, hu]; rfl
    cases hc : u.changed <;> simp [Turn.alteredPaths, hc, hp]

/-- The steps that render pages. -/
def RenderOptions.steps (o : RenderOptions) : List BuildStep :=
  (o.pages.map (Path.join o.root)).map (.render o.kind)

theorem follows_render (network : Network) (o : RenderOptions) :
    Follows network o.siteRoot Event.isRendering (render network o) o.steps Turn.alteredPaths :=
  .note rfl rfl (follows_renderFrom network o.kind o.siteRoot o.pages.length 1 _)

/-- Whether a step fills regions of a kind. -/
def BuildStep.renders (kind : RegionKind) : BuildStep → Bool
  | render other _ => other == kind
  | mark _ => false

/-- The pages that were altered by filling their regions of a kind, in order. -/
def Turn.rendered (kind : RegionKind) (turns : List Turn) : List String :=
  alteredPaths (turns.filter fun u => u.step.renders kind)

/-- The steps that render pages for a configuration. -/
def Config.renderSteps (c : Config) : List BuildStep :=
  (c.renderOptions .fragment).steps ++ (c.renderOptions .notebook).steps

theorem RenderOptions.filter_renders {o : RenderOptions} {us : List Turn}
    (h : us.map Turn.step = o.steps) (kind : RegionKind) :
    us.filter (fun u => u.step.renders kind) = if o.kind = kind then us else [] := by
  have hr : ∀ u ∈ us, u.step.renders kind = (o.kind == kind) := by
    intro u hu
    obtain ⟨path, -, hp⟩ := List.mem_map.1 (h ▸ List.mem_map_of_mem hu : u.step ∈ o.steps)
    rw [← hp]
    rfl
  split
  · next hk => exact List.filter_eq_self.2 fun u hu => by rw [hr u hu, hk]; exact beq_self_eq_true kind
  · next hk => exact List.filter_eq_nil_iff.2 fun u hu => by rw [hr u hu]; simpa using hk

theorem Turn.rendered_append_of_steps (c : Config) {us us' : List Turn}
    (h : us.map Turn.step = (c.renderOptions .fragment).steps)
    (h' : us'.map Turn.step = (c.renderOptions .notebook).steps) :
    rendered .fragment (us ++ us') = alteredPaths us ∧
      rendered .notebook (us ++ us') = alteredPaths us' := by
  constructor <;>
    rw [rendered, List.filter_append, RenderOptions.filter_renders h, RenderOptions.filter_renders h'] <;>
    simp [Config.renderOptions]

/-- The pages of a configuration are rendered, and those that were altered are listed for each kind. -/
theorem follows_renders (network : Network) (c : Config) :
    Follows network c.render.docsUrlRoot Event.isRendering
      (do
        let fragments ← render network (c.renderOptions .fragment)
        let notebooks ← render network (c.renderOptions .notebook)
        return (fragments, notebooks))
      c.renderSteps fun turns => (Turn.rendered .fragment turns, Turn.rendered .notebook turns) := by
  refine Follows.append Prod.mk (follows_render network (c.renderOptions .fragment))
    (follows_render network (c.renderOptions .notebook)) ?_
  intro us us' h h'
  obtain ⟨hf, hn⟩ := Turn.rendered_append_of_steps c h h'
  rw [hf, hn]

/-! ## Marking -/

/-- A page that can be read is given its marked text, and nothing is noted. -/
theorem runOn_markPage_updates {s : Session} {path before : String}
    (h : s.files.readText path = .ok before) :
    ∃ t', s.files.Updates path before (markedText path before) t' ∧
      (markPage false path).runOn s = (.ok (.ofText path before), { s with files := t' }) := by
  obtain ⟨t', hu, hw⟩ := Action.runOn_writeChanged (β := PageFate) (markedText path before) h
  refine ⟨t', hu, ?_⟩
  rw [markPage, Action.runOn_bind_ok _ (Action.runOn_readText_ok h), PageFate.ofText]
  cases hs : segment path before with
  | skipped =>
    have hm : markedText path before = before := by rw [markedText, hs]
    rw [hm] at hw
    simpa using hw fun _ => pure (.skipped path)
  | rewritten d =>
    rw [markedText_of_segment hs] at hw
    have hd := hw fun _ => pure (.processed ⟨path, d.text != before, d⟩)
    simp only [Bool.not_false, Bool.and_true]
    exact hd

theorem takes_markPage (network : Network) (siteRoot path : String) :
    Takes network siteRoot (fun e => !e.isRequest) (markPage false path) (.mark path)
      fun u => .ofText u.path u.before where
  error := by
    intro s f h
    rcases BuildStep.texts_eq_error_iff.1 h with ⟨g, hr, rfl⟩ | ⟨text, hr, hn⟩
    · replace hr : s.files.readText path = .error g := hr
      refine ⟨[], by simp, ?_⟩
      rw [markPage, Action.runOn_bind_error _ (Action.runOn_readText_error hr), Session.noting_nil]
      rfl
    · cases hn
  ok := by
    intro s before after h
    obtain ⟨hr, hn⟩ := BuildStep.texts_eq_ok_iff.1 h
    obtain rfl : markedText path before = after := Except.ok.inj hn
    obtain ⟨t', hu, hm⟩ := runOn_markPage_updates hr
    exact ⟨t', [], hu, by simp, by rw [Session.noting_nil]; exact hm⟩

theorem follows_markFrom (network : Network) (siteRoot : String) (total number : Nat)
    (paths : List String) :
    Follows network siteRoot (fun e => !e.isRequest) (markFrom false total number paths)
      (paths.map .mark) fun turns => turns.map fun u => .ofText u.path u.before := by
  induction paths generalizing number with
  | nil => exact Follows.nil rfl
  | cons path rest ih =>
    rw [markFrom, List.map_cons]
    exact Follows.cons List.cons (fun _ => rfl) (takes_markPage network siteRoot path)
      (ih (number + 1)) fun _ _ _ => rfl

section Mark

variable {o : MarkingOptions} {s : Session} {paths : List String}

/-- Marking works through the pages that are found. -/
theorem runOn_mark_of_pages (network : Network) (siteRoot : String) (hc : o.check = false)
    (h : s.files.pages o.root o.skip = .ok paths) :
    ∃ turns s', Trail network siteRoot (fun e => !e.isRequest) s turns s' ∧
      ((turns.map Turn.step = paths.map .mark ∧ (mark o).runOn s =
          (.ok (.ofFates false (turns.map fun u => .ofText u.path u.before)), s')) ∨
        ∃ f, Stops network siteRoot (paths.map .mark) turns s'.files f ∧
          (mark o).runOn s = (.error f, s')) := by
  have hf := Follows.finish (fun fates => .finished (MarkingReport.ofFates false fates).diagnostics.length)
    (MarkingReport.ofFates false) (fun _ => rfl) (fun _ => rfl)
    (follows_markFrom network siteRoot paths.length 1 paths)
  obtain ⟨turns, s', hs, hend⟩ :=
    Follows.note (e := .phase .marking) rfl rfl hf (s.noting [.phase .discovering])
  have hd : Trail network siteRoot (fun e => !e.isRequest) s [] (s.noting [.phase .discovering]) :=
    .noting s (by simp [Event.page?, Event.isRequest])
  refine ⟨turns, s', hd.append hs, ?_⟩
  rw [mark, Action.runOn_bind_ok _ (Action.runOn_note _ _),
    Action.runOn_bind_ok _ (Action.runOn_files _), h, hc]
  exact hend

end Mark

/-! ## The whole build -/

theorem build_eq (network : Network) (c : Config) :
    build network c =
      (do
        let rendered ← (do
          let fragments ← render network (c.renderOptions .fragment)
          let notebooks ← render network (c.renderOptions .notebook)
          return (fragments, notebooks))
        let marking ← mark (c.markers.options false)
        return ⟨rendered.1, rendered.2, marking⟩) := by
  simp only [build, bind_assoc, pure_bind]

/-- The pages that a configuration has marked. -/
def Config.pagesIn (c : Config) (t : FileTree) : Except Failure (List String) :=
  t.pages c.markers.docsRoot ⟨c.markers.excludeDirs, c.markers.excludeFiles⟩

/-- **A build works through one queue.** First come the steps that render pages, and then, if none of them
fails, those that mark the pages found in the folder. It goes through these steps in order, ends with the
first that fails, and leaves the files as the steps before it made them. Nothing is asked for once pages
are being marked, and the lists of altered pages are those of the steps that altered their page. -/
theorem build_follows_queue (network : Network) (c : Config) (s : Session) :
    ∃ rendered marked s₁ s',
      Trail network c.render.docsUrlRoot Event.isRendering s rendered s₁ ∧
      Trail network c.render.docsUrlRoot (fun e => !e.isRequest) s₁ marked s' ∧
      ((∃ paths report, (build network c).runOn s = (.ok report, s') ∧
          rendered.map Turn.step = c.renderSteps ∧ c.pagesIn s.files = .ok paths ∧
          marked.map Turn.step = paths.map .mark ∧
          report.fragments = Turn.rendered .fragment rendered ∧
          report.notebooks = Turn.rendered .notebook rendered ∧
          report.marking = .ofFates false (marked.map fun u => .ofText u.path u.before)) ∨
        ∃ f, (build network c).runOn s = (.error f, s') ∧
          ((Stops network c.render.docsUrlRoot c.renderSteps rendered s'.files f ∧ marked = []) ∨
            rendered.map Turn.step = c.renderSteps ∧
              match c.pagesIn s.files with
              | .error g => f = g ∧ marked = [] ∧
                (s.files.isFolder c.markers.docsRoot = false →
                  f = .config (.rootNotFolder c.markers.docsRoot))
              | .ok paths =>
                Stops network c.render.docsUrlRoot (paths.map .mark) marked s'.files f)) := by
  obtain ⟨rendered, s₁, h₁, ⟨hq, hrun⟩ | ⟨f, hf, hrun⟩⟩ := follows_renders network c s
  · -- rendering alters no more than contents, so the pages found then are those found before
    have hp : c.pagesIn s₁.files = c.pagesIn s.files := h₁.course.alike.pages_eq _ _
    cases hpages : c.pagesIn s.files with
    | error g =>
      have hm := runOn_mark_of_error (o := c.markers.options false) (hp.trans hpages)
      refine ⟨rendered, [], s₁, s₁.noting [.phase .discovering], h₁, .noting s₁ ?_,
        .inr ⟨g, ?_, .inr ⟨hq, rfl, rfl, fun hn => ?_⟩⟩⟩
      · simp [Event.page?, Event.isRequest]
      · rw [build_eq, Action.runOn_bind_ok _ hrun, Action.runOn_bind_error _ hm]
      · rw [Config.pagesIn, FileTree.pages_of_not_isFolder hn] at hpages
        exact (Except.error.inj hpages).symm
    | ok paths =>
      obtain ⟨marked, s', h', ⟨hq', hm⟩ | ⟨f, hf, hm⟩⟩ := runOn_mark_of_pages network
        c.render.docsUrlRoot (o := c.markers.options false) rfl (hp.trans hpages)
      · refine ⟨rendered, marked, s₁, s', h₁, h', .inl ⟨paths, ⟨Turn.rendered .fragment rendered,
          Turn.rendered .notebook rendered, _⟩, ?_, hq, rfl, hq', rfl, rfl, rfl⟩⟩
        rw [build_eq, Action.runOn_bind_ok _ hrun, Action.runOn_bind_ok _ hm]
        rfl
      · refine ⟨rendered, marked, s₁, s', h₁, h', .inr ⟨f, ?_, .inr ⟨hq, hf⟩⟩⟩
        rw [build_eq, Action.runOn_bind_ok _ hrun, Action.runOn_bind_error _ hm]
  · refine ⟨rendered, [], s₁, s₁, h₁, .refl s₁, .inr ⟨f, ?_, .inl ⟨hf, rfl⟩⟩⟩
    rw [build_eq, Action.runOn_bind_error _ hrun]

end PagePrep
