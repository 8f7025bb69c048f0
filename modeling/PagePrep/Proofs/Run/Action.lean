import PagePrep.Run.Session

/-!
# Running actions

What an action comes to and the session that it leaves behind, for each way to put actions together
and for each basic action.
-/

set_option autoImplicit false

namespace PagePrep

/-- The session with further steps noted. -/
def Session.noting (s : Session) (events : List Event) : Session := { s with log := s.log ++ events }

@[simp] theorem Session.noting_nil (s : Session) : s.noting [] = s := by simp [noting]

theorem Session.noting_noting (s : Session) (events later : List Event) :
    (s.noting events).noting later = s.noting (events ++ later) := by
  simp [noting, List.append_assoc]

namespace Action

variable {α β : Type} (s : Session)

/-- What an action comes to, and the session it leaves behind. -/
def runOn (x : Action α) (s : Session) : Except Failure α × Session := x.run.run s

@[simp] theorem runOn_pure (a : α) : (pure a : Action α).runOn s = (.ok a, s) := rfl

theorem runOn_note (e : Event) : (note e).runOn s = (.ok (), { s with log := s.log ++ [e] }) := rfl

theorem runOn_files : files.runOn s = (.ok s.files, s) := rfl

section Bind

variable {s} {s' : Session} {x : Action α} (next : α → Action β)

/-- An action that succeeds hands its result and its session on. -/
theorem runOn_bind_ok {a : α} (h : x.runOn s = (.ok a, s')) :
    (x >>= next).runOn s = (next a).runOn s' := by
  show (ExceptT.bindCont next (x.runOn s).1).run (x.runOn s).2 = _
  rw [h]
  rfl

/-- An action that fails ends the run. -/
theorem runOn_bind_error {f : Failure} (h : x.runOn s = (.error f, s')) :
    (x >>= next).runOn s = (.error f, s') := by
  show (ExceptT.bindCont next (x.runOn s).1).run (x.runOn s).2 = _
  rw [h]
  rfl

end Bind

section Files

variable {s} {path text : String}

theorem runOn_readText_ok (h : s.files.readText path = .ok text) :
    (readText path).runOn s = (.ok text, s) := by
  rw [readText, runOn_bind_ok _ (runOn_files s), h]
  rfl

theorem runOn_readText_error {f : FileFault} (h : s.files.readText path = .error f) :
    (readText path).runOn s = (.error (.file path f), s) := by
  rw [readText, runOn_bind_ok _ (runOn_files s), h]
  rfl

theorem runOn_writeText_ok {t : FileTree} (h : s.files.writeText path text = .ok t) :
    (writeText path text).runOn s = (.ok (), { s with files := t }) := by
  rw [writeText, runOn_bind_ok _ (runOn_files s), h]
  rfl

end Files

end Action

end PagePrep
