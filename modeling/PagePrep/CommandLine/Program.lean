import PagePrep.CommandLine.Arguments
import PagePrep.CommandLine.Summary
import PagePrep.Config.Lookup

/-!
# The program

A command is run on files and comes to an exit code, the text printed and, if it failed, a message.
-/

set_option autoImplicit false

namespace PagePrep.CommandLine

/-- How a command ends. -/
structure Ending where
  /-- What is printed after a run that took as long as the given words say. -/
  printed : String → String
  /-- Why the command fails although it ran to its end. -/
  objection : Option String

/-- What a call of the program shows. -/
structure Outcome where
  exit : Nat
  /-- What is printed after a run that took as long as the given words say. -/
  printed : String → String
  message : Option String

/-- What is around a run. -/
structure Setting where
  network : Network
  /-- The folder of the user. -/
  home : String

/-- The end of a command that prints some text and succeeds. -/
def Ending.plain (text : String) : Ending := ⟨fun _ => text, none⟩

/-- The configuration with another folder of pages, if one is given. -/
def withRoot (root : Option String) (c : Config) : Config :=
  match root with
  | some r => { c with markers := { c.markers with docsRoot := r } }
  | none => c

/-- Why a check fails, if pages need marking. -/
def checkObjection (r : MarkingReport) : Option String :=
  if r.check && !r.changed.isEmpty then
    some (toString r.changed.length ++
      " page(s) need context markers; run `mxdocs markers` to fix")
  else none

/-- Runs a command. -/
def Command.run (s : Setting) (config : Option String) : Command → Action Ending
  | markers root check => do
    let c := withRoot root (← Config.load s.home config)
    let report ← mark (c.markers.options check)
    return ⟨report.summary, checkObjection report⟩
  | render kind pages root => do
    let c := withRoot root (← Config.load s.home config)
    let usual := c.renderOptions kind
    let options := if pages.isEmpty then usual else { usual with pages := pages }
    let rewritten ← PagePrep.render s.network options
    return .plain (renderSummary rewritten options.pages.length)
  | build root => do
    let c := withRoot root (← Config.load s.home config)
    let report ← PagePrep.build s.network c
    return ⟨report.summary, none⟩
  | configInit => do
    let path := config.getD Config.fileName
    Config.init path
    return .plain ("Config initialized at: " ++ path ++ "\n")
  | configShow => do
    let c ← Config.load s.home config
    match c.text? with
    | some text => return .plain (text ++ "\n")
    | none => return ⟨fun _ => "", some ConfigFault.outOfRange.message⟩

/-- A failure as the program reports it, with what caused it below. -/
def failureReport (f : Failure) : String :=
  match f with
  | .file _ cause => f.message ++ "\n   1: " ++ cause.message
  | _ => f.message

/-- What a run shows. -/
def Outcome.ofEnding : Except Failure Ending → Outcome
  | .error f => ⟨1, fun _ => "", some (failureReport f)⟩
  | .ok e => ⟨if e.objection.isSome then 1 else 0, e.printed, e.objection⟩

/-- Calls the program on some files. -/
def call (s : Setting) (args : List String) (session : Session) : Outcome × Session :=
  match Request.ofArguments args with
  | .refused => (⟨2, fun _ => "", none⟩, session)
  | .version => (⟨0, fun _ => "mxdocs 0.1.0\n", none⟩, session)
  | .run config command =>
    let r := ((command.run s config).run).run session
    (Outcome.ofEnding r.1, r.2)

end PagePrep.CommandLine
