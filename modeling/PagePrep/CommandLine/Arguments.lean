import PagePrep.Region.Basic

/-!
# Arguments of the command line

Arguments are read level by level: those of the program, then those of its command. Options that
every level knows may stand at any of them, and the innermost one counts.
-/

set_option autoImplicit false

namespace PagePrep.CommandLine

/-- What the program is asked to do. -/
inductive Command where
  | markers (root : Option String) (check : Bool)
  | render (kind : RegionKind) (pages : List String) (root : Option String)
  | build (root : Option String)
  | configInit
  | configShow
  deriving DecidableEq, Repr

/-- What the arguments say. -/
inductive Request where
  /-- They cannot be understood. -/
  | refused
  | version
  | run (config : Option String) (command : Command)
  deriving DecidableEq, Repr

/-- What may stand at a level, besides the options that every level knows. -/
structure Level where
  version : Bool
  root : Bool
  check : Bool
  pages : Bool
  commands : List String
  deriving DecidableEq, Repr

/-- What has been given at a level. -/
structure Given where
  config : Option String
  logFormat : Option String
  root : Option String
  check : Bool
  pages : List String
  deriving DecidableEq, Repr

/-- Nothing given. -/
def Given.nothing : Given := ⟨none, none, none, false, []⟩

/-- What the arguments of a level come to. -/
inductive Scan where
  | refused
  | version
  /-- They end. -/
  | done (given : Given)
  /-- A command is named, and its arguments follow. -/
  | command (given : Given) (name : String) (rest : List String)
  deriving DecidableEq, Repr

/-- An argument by its form. -/
inductive Form where
  /-- A word, which may also be the value of an option. -/
  | plain
  /-- The sign that only words follow. -/
  | wordsOnly
  /-- An option with a name, and the value that is written behind it. -/
  | named (name : String) (value : Option String)
  /-- Options of one letter. -/
  | letters (cs : List Char)
  deriving DecidableEq, Repr

/-- The form of an argument. -/
def Form.ofArgument (arg : String) : Form :=
  match arg.toList with
  | ['-'] => .plain
  | ['-', '-'] => .wordsOnly
  | '-' :: '-' :: cs =>
    match cs.dropWhile (· ≠ '=') with
    | [] => .named (String.ofList cs) none
    | _ :: value => .named (String.ofList (cs.takeWhile (· ≠ '='))) (some (String.ofList value))
  | '-' :: cs => .letters cs
  | _ => .plain

/-- What an option of one letter asks for. -/
inductive Letter where
  | refused
  | version
  | more
  deriving DecidableEq, Repr

/-- What some options of one letter ask for: to stop at the first that is not about how much is
logged. -/
def Level.letters (l : Level) : List Char → Letter
  | [] => .more
  | c :: cs =>
    if c = 'v' then l.letters cs
    else if c = 'V' && l.version then .version
    else .refused

/-- The value of an option put where it belongs, if the level knows the option, it was not given
before and the value is fit for it. -/
def Level.setValue (l : Level) (g : Given) (name value : String) : Option Given :=
  match name with
  | "config" =>
    if g.config.isSome || value.isEmpty then none else some { g with config := some value }
  | "log-format" =>
    if g.logFormat.isSome || !(["text", "json"].contains value) then none
    else some { g with logFormat := some value }
  | "root" =>
    if !l.root || g.root.isSome || value.isEmpty then none
    else some { g with root := some value }
  | _ => none

/-- Whether an option takes a value. -/
def takesValue (name : String) : Bool := ["config", "log-format", "root"].contains name

/-- A word at a level that no option takes: a page, if it may be one. -/
def Level.addPage (l : Level) (g : Given) (word : String) : Option Given :=
  if l.pages && !word.isEmpty then some { g with pages := g.pages ++ [word] } else none

/-- The arguments of a level, behind those already given. -/
def Level.scan (l : Level) (g : Given) : List String → Scan
  | [] => .done g
  | arg :: rest =>
    match Form.ofArgument arg with
    | .wordsOnly =>
      match rest.foldlM l.addPage g with
      | some g => .done g
      | none => .refused
    | .plain =>
      if l.commands.contains arg then .command g arg rest
      else
        match l.addPage g arg with
        | some g => l.scan g rest
        | none => .refused
    | .letters cs =>
      match l.letters cs with
      | .more => l.scan g rest
      | .version => .version
      | .refused => .refused
    | .named name (some value) =>
      match l.setValue g name value with
      | some g => l.scan g rest
      | none => .refused
    | .named "verbose" none => l.scan g rest
    | .named "version" none => if l.version then .version else .refused
    | .named "check" none =>
      if l.check && !g.check then l.scan { g with check := true } rest else .refused
    | .named name none =>
      match rest with
      | [] => .refused
      | value :: rest =>
        if takesValue name && Form.ofArgument value = .plain then
          match l.setValue g name value with
          | some g => l.scan g rest
          | none => .refused
        else .refused

/-- The level of the program itself. -/
def programLevel : Level :=
  { version := true, root := false, check := false, pages := false
    commands := ["markers", "render-includes", "render-notebooks", "build", "config"] }

/-- The level of the command for the configuration. -/
def configLevel : Level :=
  { version := false, root := false, check := false, pages := false, commands := ["init", "show"] }

/-- The level of a command without commands of its own. -/
def commandLevel (root check pages : Bool) : Level := ⟨false, root, check, pages, []⟩

/-- What a command without commands of its own is asked for, inside the given configuration. -/
def readCommand (config : Option String) (l : Level) (make : Given → Command)
    (args : List String) : Request :=
  match l.scan .nothing args with
  | .done g => .run (g.config.or config) (make g)
  | _ => .refused

/-- What the command for the configuration is asked for. -/
def readConfigCommand (config : Option String) (args : List String) : Request :=
  match configLevel.scan .nothing args with
  | .command g "init" rest =>
    readCommand (g.config.or config) (commandLevel false false false) (fun _ => .configInit) rest
  | .command g "show" rest =>
    readCommand (g.config.or config) (commandLevel false false false) (fun _ => .configShow) rest
  | _ => .refused

/-- What the arguments of the program say. -/
def Request.ofArguments (args : List String) : Request :=
  match programLevel.scan .nothing args with
  | .refused => .refused
  | .version => .version
  | .done _ => .refused
  | .command g name rest =>
    match name with
    | "markers" =>
      readCommand g.config (commandLevel true true false) (fun g => .markers g.root g.check) rest
    | "render-includes" =>
      readCommand g.config (commandLevel true false true)
        (fun g => .render .fragment g.pages g.root) rest
    | "render-notebooks" =>
      readCommand g.config (commandLevel true false true)
        (fun g => .render .notebook g.pages g.root) rest
    | "build" =>
      readCommand g.config (commandLevel true false false) (fun g => .build g.root) rest
    | _ => readConfigCommand g.config rest

end PagePrep.CommandLine
