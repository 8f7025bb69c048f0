import PagePrep.CommandLine.Program
import PagePrep.Proofs.Run.Auditing
import PagePrep.Proofs.Toml.Range
import PagePrep.Proofs.Toml.WrittenLines

/-!
# Configurations read back

A configuration in writing is a document of ten lines, and it is read back as the configuration that was
written if its number is in range (`Config.ofText_text`). A configuration that was read is in range
(`Config.inRange_of_ofText`), so that whatever was read can be shown and read again.
-/

set_option autoImplicit false

namespace PagePrep

open Toml

/-! ## What is read is in range -/

/-- No integer in a part is too large. -/
def Part.InRange : Part → Prop
  | named ms => ms.InRange
  | listed items => ∀ n ∈ items, n.InRange

theorem Part.inRange_of_ofNode {n : Node} {p : Part} (hn : n.InRange) (h : ofNode? n = some p) :
    p.InRange := by
  cases n with
  | table origin ms =>
    cases h
    exact Members.InRange.of_table hn
  | tables earlier last =>
    cases h
    obtain ⟨hearlier, hlast⟩ := Members.InRange.of_tables hn
    intro n hm
    obtain ⟨ms, hms, rfl⟩ := List.mem_map.1 hm
    rcases List.mem_append.1 hms with hms | hms
    · exact .table (hearlier ms hms)
    · rw [List.mem_singleton.1 hms]
      exact .table hlast
  | list items =>
    cases h
    cases hn
    assumption
  | _ => cases h

theorem Part.InRange.get? {p : Part} {name : String} {index : Nat} {n : Node} (hp : p.InRange)
    (h : p.get? name index = some n) : n.InRange := by
  cases p with
  | named ms => exact Members.InRange.get? hp h
  | listed items => exact hp n (List.mem_of_getElem? h)

/-- What holds of the usual value, and of all that is read from nodes in range, holds of a setting. -/
theorem Part.InRange.setting {α : Type} (holds : α → Prop) {p : Part} {name : String} {index : Nat}
    {read : Node → Option α} {usual a : α} (hp : p.InRange) (husual : holds usual)
    (hread : ∀ n a, n.InRange → read n = some a → holds a)
    (h : p.setting name index read usual = some a) : holds a := by
  unfold Part.setting at h
  split at h
  · next hg => exact hread _ a (hp.get? hg) h
  · cases h
    exact husual

theorem lt_of_settingNat {n : Node} {k : Nat} (hn : n.InRange) (h : settingNat? n = some k) :
    k < integerBound := by
  cases hn with
  | integer bound =>
    simp only [settingNat?, Option.ite_none_right_eq_some, Option.some.injEq] at h
    omega
  | _ => cases h

theorem RenderSettings.timeoutSecs_lt {p : Part} {r : RenderSettings} (hp : p.InRange)
    (h : ofPart? p = some r) : r.timeoutSecs < integerBound := by
  unfold ofPart? at h
  obtain ⟨_, -, h⟩ := Option.bind_eq_some_iff.1 h
  obtain ⟨_, -, h⟩ := Option.bind_eq_some_iff.1 h
  obtain ⟨_, -, h⟩ := Option.bind_eq_some_iff.1 h
  obtain ⟨timeout, ht, h⟩ := Option.bind_eq_some_iff.1 h
  cases h
  exact Part.InRange.setting (· < integerBound) hp (by decide) (fun _ _ => lt_of_settingNat) ht

namespace Config

/-- The number of a configuration is one that documents can hold. -/
def InRange (c : Config) : Prop := c.render.timeoutSecs < integerBound

instance (c : Config) : Decidable c.InRange := Nat.decLt _ _

theorem inRange_of_ofMembers {ms : Members} {c : Config} (hm : ms.InRange)
    (h : ofMembers? ms = some c) : c.InRange := by
  unfold ofMembers? at h
  obtain ⟨_, -, h⟩ := Option.bind_eq_some_iff.1 h
  obtain ⟨render, hr, h⟩ := Option.bind_eq_some_iff.1 h
  cases h
  have hnamed : (Part.named ms).InRange := hm
  refine Part.InRange.setting (·.timeoutSecs < integerBound) hnamed (by decide) ?_ hr
  intro n r hn hread
  obtain ⟨p, hp, hr⟩ := Option.bind_eq_some_iff.1 hread
  exact RenderSettings.timeoutSecs_lt (Part.inRange_of_ofNode hn hp) hr

theorem inRange_of_ofText {s : String} {c : Config} (h : ofText? s = some c) : c.InRange := by
  obtain ⟨ms, hr, hm⟩ := Option.bind_eq_some_iff.1 h
  exact inRange_of_ofMembers (inRange_of_read hr) hm

/-! ## The document -/

/-- A header on a line, with what it says. -/
def headerEntry (name : String) : List Char × List Statement :=
  ('[' :: (name.toList ++ [']']), [.header name []])

/-- A setting on lines of its own, with what they say. -/
def settingEntry (key value : String) (n : Node) : List Char × List Statement :=
  (key.toList ++ ' ' :: '=' :: ' ' :: value.toList, [.setting key [] n])

/-- The node that a list of texts is. -/
def listNode (ss : List String) : Node := .list (ss.map .text)

/-- A configuration in writing line by line, with what each line says. -/
def document (c : Config) : List (List Char × List Statement) :=
  [headerEntry "markers",
    settingEntry "docs_root" (quoted c.markers.docsRoot) (.text c.markers.docsRoot),
    settingEntry "exclude_dirs" (quotedList c.markers.excludeDirs) (listNode c.markers.excludeDirs),
    settingEntry "exclude_files" (quotedList c.markers.excludeFiles) (listNode c.markers.excludeFiles),
    ([], []),
    headerEntry "render",
    settingEntry "docs_url_root" (quoted c.render.docsUrlRoot) (.text c.render.docsUrlRoot),
    settingEntry "include_pages" (quotedList c.render.includePages) (listNode c.render.includePages),
    settingEntry "notebook_pages" (quotedList c.render.notebookPages) (listNode c.render.notebookPages),
    settingEntry "timeout_secs" (toString c.render.timeoutSecs) (.integer c.render.timeoutSecs)]

theorem toList_text (c : Config) : c.text.toList = c.document.flatMap fun p => p.1 ++ ['\n'] := by
  -- not `unfold`, whose equation takes seconds to prove
  delta text
  simp [document, headerEntry, settingEntry, settingLine]

theorem says_headerEntry {name : String} (h : IsBare name.toList) :
    Says (headerEntry name).1 (headerEntry name).2 := by
  have hs := says_header h
  rwa [String.ofList_toList] at hs

theorem says_settingEntry {key value : String} {n : Node} (hk : IsBare key.toList)
    (hv : Writes value.toList n) : Says (settingEntry key value n).1 (settingEntry key value n).2 := by
  have hs := says_setting hk hv
  rwa [String.ofList_toList] at hs

theorem says_document {c : Config} (hc : c.InRange) : ∀ p ∈ c.document, Says p.1 p.2 := by
  simp only [document, List.forall_mem_cons, List.not_mem_nil, false_implies, implies_true, and_true]
  exact ⟨says_headerEntry (by decide),
    says_settingEntry (by decide) (writes_quoted _),
    says_settingEntry (by decide) (writes_quotedList _),
    says_settingEntry (by decide) (writes_quotedList _),
    says_nothing,
    says_headerEntry (by decide),
    says_settingEntry (by decide) (writes_quoted _),
    says_settingEntry (by decide) (writes_quotedList _),
    says_settingEntry (by decide) (writes_quotedList _),
    says_settingEntry (by decide) (writes_nat hc)⟩

/-- The members that a configuration in writing has. -/
def members (c : Config) : Members :=
  [("markers", .table .header
      [("docs_root", .text c.markers.docsRoot),
        ("exclude_dirs", listNode c.markers.excludeDirs),
        ("exclude_files", listNode c.markers.excludeFiles)]),
    ("render", .table .header
      [("docs_url_root", .text c.render.docsUrlRoot),
        ("include_pages", listNode c.render.includePages),
        ("notebook_pages", listNode c.render.notebookPages),
        ("timeout_secs", .integer c.render.timeoutSecs)])]

theorem foldlM_document (c : Config) :
    (c.document.flatMap Prod.snd).foldlM Draft.add ⟨[], []⟩ = some ⟨c.members, ["render"]⟩ := by
  simp [document, headerEntry, settingEntry, Draft.add, Members.within, Members.insert,
    Members.openTable, Members.get?, Members.add, Members.set, members]

theorem settingTexts_listNode (ss : List String) : settingTexts? (listNode ss) = some ss := by
  show (ss.map Node.text).mapM settingText? = some ss
  induction ss with
  | nil => rfl
  | cons s ss ih => simp [settingText?, ih]

theorem ofMembers_members (c : Config) : ofMembers? c.members = some c := by
  simp [ofMembers?, members, Part.setting, Part.get?, Members.get?, Part.ofNode?, MarkerSettings.ofPart?,
    RenderSettings.ofPart?, settingTexts_listNode, settingText?, settingNat?]

/-- A configuration in range is read back from its text, also with blank lines behind it. -/
theorem ofText_text {c : Config} (hc : c.InRange) (blanks : Nat) :
    ofText? (c.text ++ String.ofList (List.replicate blanks '\n')) = some c := by
  let lines := c.document ++ List.replicate blanks ([], [])
  let written := lines.flatMap fun p => p.1 ++ ['\n']
  have htext : (c.text ++ String.ofList (List.replicate blanks '\n')).toList = written := by
    simp [toList_text, written, lines, List.flatMap_replicate]
  have hmark : withoutMark written = written := rfl
  have hsaid : lines.flatMap Prod.snd = c.document.flatMap Prod.snd := by
    simp [lines, List.flatMap_replicate]
  have hsays : ∀ p ∈ lines, Says p.1 p.2 := by
    intro p hp
    rcases List.mem_append.1 hp with hp | hp
    · exact says_document hc p hp
    · rw [List.eq_of_mem_replicate hp]
      exact says_nothing
  have hfuel : lines.length < written.length + 1 :=
    Nat.lt_succ_of_le (length_le_flatMap _ (by simp) lines)
  have hstatements : readStatements (written.length + 1) written = some (c.document.flatMap Prod.snd) := by
    rw [readStatements_lines lines hsays hfuel, hsaid]
  have hread : Toml.read (c.text ++ String.ofList (List.replicate blanks '\n')) = some c.members := by
    simp only [Toml.read, htext, hmark, hstatements, foldlM_document, Option.map_some]
  rw [ofText?, hread, Option.bind_some, ofMembers_members]

/-! ## Files with configurations -/

section Files

variable {s : Session} {path text : String} {c : Config}

theorem runOn_loadFrom_ok (hr : s.files.readText path = .ok text) (ht : ofText? text = some c) :
    (loadFrom path).runOn s = (.ok c, s) := by
  rw [loadFrom, Action.runOn_bind_ok _ (Action.runOn_readText_ok hr), ht]
  rfl

/-- A configuration that is loaded is in the text of a file, and loading changes nothing. -/
theorem exists_text_of_loadFrom {s' : Session} (h : (loadFrom path).runOn s = (.ok c, s')) :
    ∃ text, s.files.readText path = .ok text ∧ ofText? text = some c ∧ s' = s := by
  cases hr : s.files.readText path with
  | error f =>
    rw [loadFrom, Action.runOn_bind_error _ (Action.runOn_readText_error hr)] at h
    cases h
  | ok text =>
    rw [loadFrom, Action.runOn_bind_ok _ (Action.runOn_readText_ok hr)] at h
    cases ht : ofText? text with
    | none =>
      rw [ht] at h
      cases h
    | some found =>
      rw [ht] at h
      cases h
      exact ⟨text, rfl, ht, rfl⟩

/-- A configuration that holds is in range, and looking for it changes nothing. -/
theorem inRange_of_load {home : String} {given : Option String} {s' : Session}
    (h : (load home given).runOn s = (.ok c, s')) : c.InRange ∧ s' = s := by
  rw [load, Action.runOn_bind_ok _ (Action.runOn_files s)] at h
  split at h
  · obtain ⟨text, -, ht, hs⟩ := exists_text_of_loadFrom h
    exact ⟨inRange_of_ofText ht, hs⟩
  · cases h
    exact ⟨by decide, rfl⟩

end Files

/-- The configuration can be written, and is what a file holds that has its text, or its text as it is
printed. -/
def ReadsBack (c : Config) : Prop :=
  ∃ shown, c.text? = some shown ∧ ∀ path s,
    s.files.readText path = .ok shown ∨ s.files.readText path = .ok (shown ++ "\n") →
      (loadFrom path).runOn s = (.ok c, s)

theorem text?_of_inRange {c : Config} (hc : c.InRange) : c.text? = some c.text := if_pos hc

theorem readsBack_of_inRange {c : Config} (hc : c.InRange) : c.ReadsBack := by
  refine ⟨c.text, text?_of_inRange hc, ?_⟩
  rintro path s (hr | hr)
  · apply runOn_loadFrom_ok hr
    simpa using ofText_text hc 0
  · apply runOn_loadFrom_ok hr
    exact ofText_text hc 1

end Config

open CommandLine

/-- **A configuration that is shown reads back.** Every configuration that a file holds can be written,
and is what is read from the text that is written. So is every configuration whose number has 63 bits.
Showing the configuration that holds prints just that text. -/
theorem shown_config_reads_back :
    (∀ path s c, ((Config.loadFrom path).runOn s).1 = .ok c → c.ReadsBack) ∧
      (∀ c : Config, c.render.timeoutSecs ≤ 0x7fffffffffffffff → c.ReadsBack) ∧
      ∀ (setting : Setting) given s c, ((Config.load setting.home given).runOn s).1 = .ok c →
        ∃ shown, c.text? = some shown ∧
          (Command.configShow.run setting given).runOn s = (.ok (.plain (shown ++ "\n")), s) := by
  refine ⟨?_, ?_, ?_⟩
  · intro path s c h
    obtain ⟨text, -, ht, -⟩ := Config.exists_text_of_loadFrom (Prod.ext h rfl)
    exact Config.readsBack_of_inRange (Config.inRange_of_ofText ht)
  · intro c h
    have hb : 0x7fffffffffffffff < integerBound := by decide
    have hc : c.InRange := Nat.lt_of_le_of_lt h hb
    exact Config.readsBack_of_inRange hc
  · intro setting given s c h
    have hload : (Config.load setting.home given).runOn s =
        (.ok c, ((Config.load setting.home given).runOn s).2) := Prod.ext h rfl
    obtain ⟨hc, hs⟩ := Config.inRange_of_load hload
    rw [hs] at hload
    have ht := Config.text?_of_inRange hc
    refine ⟨c.text, ht, ?_⟩
    rw [Command.run, Action.runOn_bind_ok _ hload, ht]
    rfl

/-- A configuration with a folder of pages whose name has quotes of both kinds and a line end. -/
def Config.withQuotes : Config := { markers := { docsRoot := "it's \"docs\"\n", excludeDirs := [] } }

/-- A file with that configuration, given to be shown. -/
theorem shown_config_reads_back_quotes :
    let s : Session := ⟨FileTree.onePage Config.withQuotes.text, []⟩
    ((Config.loadFrom "docs/a.md").runOn s).1 = .ok Config.withQuotes ∧ Config.withQuotes.ReadsBack ∧
      ∃ shown, Config.withQuotes.text? = some shown ∧
        (Command.configShow.run ⟨Network.down, ""⟩ (some "docs/a.md")).runOn s =
          (.ok (.plain (shown ++ "\n")), s) := by
  intro s
  have hfound : Config.ofText? Config.withQuotes.text = some Config.withQuotes := by
    simpa using Config.ofText_text (c := Config.withQuotes) (by decide) 0
  have hload : ((Config.loadFrom "docs/a.md").runOn s).1 = .ok Config.withQuotes := by
    rw [Config.runOn_loadFrom_ok (FileTree.readText_onePage _) hfound]
  exact ⟨hload, shown_config_reads_back.1 _ s _ hload, shown_config_reads_back.2.2 _ _ s _ hload⟩

end PagePrep
