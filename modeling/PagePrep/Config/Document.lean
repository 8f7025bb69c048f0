import PagePrep.Config.Basic
import PagePrep.Toml.Reader
import PagePrep.Toml.Writer

/-!
# Configurations in writing

A configuration is a document with the tables `markers` and `render`. Settings that are not given
take their usual values, and settings of other names are passed over.
-/

set_option autoImplicit false

namespace PagePrep

open Toml

/-- The text that a node is. -/
def settingText? : Node → Option String
  | .text s => some s
  | _ => none

/-- The list of texts that a node is. -/
def settingTexts? : Node → Option (List String)
  | .list items => items.mapM settingText?
  | _ => none

/-- The natural number that a node is. -/
def settingNat? : Node → Option Nat
  | .integer i => if 0 ≤ i then some i.toNat else none
  | _ => none

/-- What a part of a configuration gives: its members by name, or its first values in order. -/
inductive Part where
  | named (ms : Members)
  | listed (items : List Node)

namespace Part

/-- The part that a node is. -/
def ofNode? : Node → Option Part
  | .table _ ms => some (.named ms)
  | .tables earlier last =>
    some (.listed ((earlier ++ [last]).map fun ms => .table .header ms))
  | .list items => some (.listed items)
  | _ => none

/-- The value for a setting, if the part gives one. -/
def get? (p : Part) (name : String) (index : Nat) : Option Node :=
  match p with
  | named ms => ms.get? name
  | listed items => items[index]?

/-- A setting, as it is given or else as it usually is. -/
def setting {α : Type} (p : Part) (name : String) (index : Nat) (read : Node → Option α)
    (usual : α) : Option α :=
  match p.get? name index with
  | some n => read n
  | none => some usual

end Part

/-- The marker settings that a part gives. -/
def MarkerSettings.ofPart? (p : Part) : Option MarkerSettings := do
  let usual : MarkerSettings := {}
  let docsRoot ← p.setting "docs_root" 0 settingText? usual.docsRoot
  let excludeDirs ← p.setting "exclude_dirs" 1 settingTexts? usual.excludeDirs
  let excludeFiles ← p.setting "exclude_files" 2 settingTexts? usual.excludeFiles
  return ⟨docsRoot, excludeDirs, excludeFiles⟩

/-- The render settings that a part gives. -/
def RenderSettings.ofPart? (p : Part) : Option RenderSettings := do
  let usual : RenderSettings := {}
  let docsUrlRoot ← p.setting "docs_url_root" 0 settingText? usual.docsUrlRoot
  let includePages ← p.setting "include_pages" 1 settingTexts? usual.includePages
  let notebookPages ← p.setting "notebook_pages" 2 settingTexts? usual.notebookPages
  let timeoutSecs ← p.setting "timeout_secs" 3 settingNat? usual.timeoutSecs
  return ⟨docsUrlRoot, includePages, notebookPages, timeoutSecs⟩

namespace Config

/-- The configuration that the members of a document give. -/
def ofMembers? (ms : Members) : Option Config := do
  let p : Part := .named ms
  let markers ← p.setting "markers" 0 (fun n => (Part.ofNode? n).bind MarkerSettings.ofPart?) {}
  let render ← p.setting "render" 1 (fun n => (Part.ofNode? n).bind RenderSettings.ofPart?) {}
  return ⟨markers, render⟩

/-- The configuration in a text. -/
def ofText? (s : String) : Option Config := (Toml.read s).bind ofMembers?

/-- The configuration in writing. -/
def text (c : Config) : String :=
  "[markers]\n" ++
    settingLine "docs_root" (quoted c.markers.docsRoot) ++
    settingLine "exclude_dirs" (quotedList c.markers.excludeDirs) ++
    settingLine "exclude_files" (quotedList c.markers.excludeFiles) ++
    "\n[render]\n" ++
    settingLine "docs_url_root" (quoted c.render.docsUrlRoot) ++
    settingLine "include_pages" (quotedList c.render.includePages) ++
    settingLine "notebook_pages" (quotedList c.render.notebookPages) ++
    settingLine "timeout_secs" (toString c.render.timeoutSecs)

/-- The configuration in writing, if its number is one that documents can hold. -/
def text? (c : Config) : Option String :=
  if c.render.timeoutSecs < integerBound then some c.text else none

end Config

end PagePrep
