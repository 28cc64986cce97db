import Mathlib
import Stencil.Proofs.CommandLine.AllOrNothing
import Stencil.Proofs.Console.Rows
import Stencil.Proofs.Gitlab.Pages
import Stencil.Proofs.Project.Naming
import Stencil.Proofs.Text.Digits

/-!
# Tables

A rendering that writes nothing names the files of its manifest in a table, and so does a list its templates.  What is
said behind a sign is escaped, but cells and titles of tables are not.  So paths, names and descriptions are printed as
they are exactly if nothing in them means anything to the console.
-/

namespace Stencil.CommandLine

open Console (IsLiteral Line Table rowsAmong)

variable {σ : Type}

/-- Whether a command succeeds, and prints the given rows of tables and no others. -/
structure PrintsRows (start : RunState σ) (rows : List (List String)) (outcome : Outcome σ) : Prop where
  /-- The command succeeds. -/
  succeeds : outcome.code = 0
  /-- It prints the rows. -/
  prints : rowsAmong outcome.state.lines = rowsAmong start.lines ++ rows

section Printing

variable {around : Surroundings σ} {arguments : List String} {command : Command} {start mid : RunState σ}

/-- A command that ends by printing a table prints its rows as they are exactly if the title can be shown and the
cells show themselves. -/
theorem printsRows_iff_of_run {table : Table} (reads : Command.read start.workspace.disk arguments = .ok command)
    (ran : (Run.ofCommand around command).run start = (Run.printShown table.lines).run mid)
    (quiet : rowsAmong mid.lines = rowsAmong start.lines) (isEven : table.IsEven) :
    PrintsRows start table.grid (Outcome.ofArguments around arguments start) ↔
      (∃ title, Console.shown table.title.toList = .ok title) ∧
        ∀ row ∈ table.grid, ∀ cell ∈ row, IsLiteral cell.toList := by
  rw [← isEven.printsRows_iff, Outcome.ofArguments, reads]
  simp only [ran]
  cases table.lines with
  | error fault =>
      refine iff_of_false (fun prints => absurd prints.succeeds Nat.one_ne_zero) fun shows => ?_
      obtain ⟨_, same, -⟩ := shows
      cases same
  | ok lines =>
      have printed : (Run.printShown (.ok lines)).run mid = (.ok (), { mid with lines := mid.lines ++ lines }) := rfl
      rw [printed]
      have rows : rowsAmong (mid.lines ++ lines) = rowsAmong start.lines ++ table.grid ↔
          rowsAmong lines = table.grid := by
        rw [Console.rowsAmong_append, quiet, List.append_cancel_left_eq]
      constructor
      · rintro ⟨-, prints⟩
        exact ⟨lines, rfl, rows.mp prints⟩
      · rintro ⟨_, same, prints⟩
        cases same
        exact ⟨rfl, rows.mpr prints⟩

/-- Messages behind signs are no rows. -/
theorem rowsAmong_signed {color sign message : String} {lines : List Line}
    (printed : signed color sign message = .ok lines) : rowsAmong lines = [] := by
  obtain ⟨texts, -, rfl⟩ := map_eq_ok_iff.mp printed
  rw [rowsAmong, List.filterMap_map]
  exact List.filterMap_eq_nil_iff.mpr fun _ _ => rfl

end Printing

/-! ## Manifests -/

/-- The rows that name the files of a manifest, in its order. -/
def manifestRows (manifest : Manifest) : List (List String) :=
  ["Path", "Encoding", "Size"] ::
    manifest.entries.map fun entry => [entry.1, entry.2.encoding.name, Data.decimal entry.2.content.length]

theorem isEven_manifestTable (name : String) (manifest : Manifest) : (Run.manifestTable name manifest).IsEven :=
  ⟨List.cons_ne_nil _ _, List.forall_mem_cons.mpr ⟨rfl, List.forall_mem_map.mpr fun _ _ => rfl⟩⟩

/-- A manifest that is not written is shown, be it behind a warning. -/
theorem run_giveOut_none (name : String) (manifest : Manifest) (state : RunState σ) :
    ∃ mid : RunState σ, rowsAmong mid.lines = rowsAmong state.lines ∧ (giveOut name none manifest).run state =
      (Run.printShown (Run.manifestTable name manifest).lines).run mid := by
  have warn : "⚠".toList = ['⚠'] := by decide
  obtain ⟨warned, warning⟩ := exists_signed Console.isStyle_colors.2.2 warn (by decide)
    "Template archive produced no files"
  rw [giveOut]
  split
  · refine ⟨_, ?_, run_bind_eq_of_ok (run_printSigned warning state)⟩
    rw [Console.rowsAmong_append, rowsAmong_signed warning, List.append_nil]
  · exact ⟨state, rfl, rfl⟩

/-- Decimal digits mean nothing to the console. -/
theorem isLiteral_decimal (n : Nat) : IsLiteral (Data.decimal n).toList := by
  have digit : ∀ d < 10, Console.isSpecial (Text.hexDigit d) = false ∧ Text.hexDigit d ≠ '\n' := by decide
  rw [Data.decimal, String.toList_ofList]
  refine Console.isLiteral_of_weight (List.countP_eq_zero.mpr fun c known => ?_) fun known => ?_
  · obtain ⟨d, low, rfl⟩ := Text.mem_digits known
    simp [(digit d low).1]
  · obtain ⟨d, low, same⟩ := Text.mem_digits known
    exact (digit d low).2 same.symm

theorem isLiteral_encoding (encoding : Encoding) : IsLiteral encoding.name.toList := by
  cases encoding <;> exact Console.isLiteral_of_weight rfl (by decide)

theorem exists_shown_manifestTitle (name : Project.Parameters) (manifest : Manifest) :
    ∃ title, Console.shown (Run.manifestTable name.name manifest).title.toList = .ok title := by
  refine Console.exists_shown_of_not_mem fun known => ?_
  have digit : ∀ d < 10, Text.hexDigit d ≠ '/' := by decide
  have files : '/' ∉ " files for ".toList := by decide
  rw [Run.manifestTable, String.toList_append, String.toList_append, List.mem_append, List.mem_append] at known
  rcases known with (known | known) | known
  · rw [Data.decimal, String.toList_ofList] at known
    obtain ⟨d, low, same⟩ := Text.mem_digits known
    exact digit d low same.symm
  · exact files known
  · exact Project.slash_not_mem_name name known

section Rendering

variable {around : Surroundings σ} {arguments : List String} {start : RunState σ} {shared : Shared}
  {loaded : Configuration.Loaded} {w : Workspace}

/-- A rendering names the files of its manifest in a table as they are exactly if nothing in their paths means anything
to the console. -/
theorem render_printsRows_iff {archive name : String} {port : Int} {manifest : Manifest} {t : Workspace}
    (reads : Command.read start.workspace.disk arguments = .ok (.render archive name port none shared))
    (loads : (Configuration.load around.environment shared.config).run start.workspace = (.ok loaded, w))
    (prepared : (prepare around.directory loaded.settings.template archive name port).run w = (.ok manifest, t)) :
    PrintsRows start (manifestRows manifest) (Outcome.ofArguments around arguments start) ↔
      ∀ entry ∈ manifest.entries, IsLiteral entry.1.toList := by
  obtain ⟨parameters, rfl⟩ : ∃ p : Project.Parameters, name = p.name := by
    rw [prepare] at prepared
    split at prepared
    · cases prepared
    · rename_i p accepted
      exact ⟨p, (Project.name_of accepted).symm⟩
  have ran := run_render_prepared around archive parameters.name none port loads
  simp only [prepared] at ran
  obtain ⟨mid, quiet, shows⟩ := run_giveOut_none parameters.name manifest
    { start with journal := start.journal.setVerbosity shared.verbose, workspace := t }
  have printed := printsRows_iff_of_run reads (ran.trans shows) quiet (isEven_manifestTable _ _)
  refine printed.trans ⟨fun shows entry known => ?_, fun literal => ⟨exists_shown_manifestTitle _ _, ?_⟩⟩
  · exact shows.2 _ (List.mem_cons_of_mem _ (List.mem_map_of_mem known)) _ List.mem_cons_self
  · refine List.forall_mem_cons.mpr ⟨?_, List.forall_mem_map.mpr fun entry known => ?_⟩
    · refine List.forall_mem_cons.mpr ⟨Console.isLiteral_of_weight rfl (by decide), ?_⟩
      refine List.forall_mem_cons.mpr ⟨Console.isLiteral_of_weight rfl (by decide), ?_⟩
      exact List.forall_mem_singleton.mpr (Console.isLiteral_of_weight rfl (by decide))
    · refine List.forall_mem_cons.mpr ⟨literal entry known, ?_⟩
      refine List.forall_mem_cons.mpr ⟨isLiteral_encoding _, ?_⟩
      exact List.forall_mem_singleton.mpr (isLiteral_decimal _)

end Rendering

/-! ## Lists of templates -/

section Listing

/-- Templates with their descriptions, in the order of the names. -/
def orderedRows (templates : List (String × String)) : List (List String) :=
  (templates.mergeSort fun a b => a.1 ≤ b.1).map fun template => [template.1, template.2]

/-- The rows that list templates; without templates there are no headings either. -/
def templateRows (templates : List (String × String)) : List (List String) :=
  if templates = [] then [] else ["Template", "Description"] :: orderedRows templates

/-- What stands above a list of the templates of a group. -/
def listTitle (group : String) : String :=
  "Templates in " ++ group

/-- Names and descriptions as a host answers with them. -/
def answered (templates : List (String × String)) : List (Data.Value × Data.Value) :=
  templates.map fun template => (.text template.1, .text template.2)

/-- The table of templates. -/
def templateTable (group : String) (templates : List (String × String)) : Table :=
  ⟨listTitle group, ["Template", "Description"], orderedRows templates⟩

theorem isEven_templateTable (group : String) (templates : List (String × String)) :
    (templateTable group templates).IsEven :=
  ⟨List.cons_ne_nil _ _, List.forall_mem_cons.mpr ⟨rfl, List.forall_mem_map.mpr fun _ _ => rfl⟩⟩

theorem unordered?_texts (names : List String) : Run.unordered? (names.map .text) = none := by
  induction names with
  | nil => rfl
  | cons first rest induction =>
      cases rest with
      | nil => rfl
      | cons second others => exact induction

theorem sorted_answered (templates : List (String × String)) (state : RunState σ) :
    (Run.sorted (answered templates)).run state =
      (.ok (answered (templates.mergeSort fun a b => a.1 ≤ b.1)), state) := by
  have ordered : Run.unordered? ((answered templates).map (·.1)) = none := by
    have names := unordered?_texts (templates.map (·.1))
    rw [List.map_map] at names
    rwa [answered, List.map_map]
  have sorts : answered (templates.mergeSort fun a b => a.1 ≤ b.1) =
      (answered templates).mergeSort fun a b => a.1.display ≤ b.1.display :=
    List.map_mergeSort fun _ _ _ _ => rfl
  rw [Run.sorted, ordered, sorts]
  rfl

/-- Texts can stand in cells. -/
theorem run_cells (templates : List (String × String)) (state : RunState σ) :
    ((answered templates).mapM fun (name, description) => do
      return [← Run.cell name, ← Run.cell description] : Run σ (List (List String))).run state =
        (.ok (templates.map fun template => [template.1, template.2]), state) := by
  induction templates with
  | nil => rfl
  | cons template rest induction =>
      have first : (do return [← Run.cell (.text template.1), ← Run.cell (.text template.2)] :
          Run σ (List String)).run state = (.ok [template.1, template.2], state) := rfl
      rw [answered, List.map_cons, List.mapM_cons, ← answered]
      rw [run_bind_eq_of_ok first, run_bind_eq_of_ok induction]
      rfl

variable {around : Surroundings σ} {arguments : List String} {start : RunState σ} {shared : Shared}
  {loaded : Configuration.Loaded} {w : Workspace} {client : Gitlab.Client σ}

/-- What fills projects at the host of a client. -/
def provisionerOf (around : Surroundings σ) (client : Gitlab.Client σ) (settings : TemplateSettings) :
    Provisioner (Gitlab.Session σ) Gitlab.Fault where
  host := client.host
  settings := settings
  directory := around.directory

theorem run_provisioner {settings : Settings} (state : RunState σ)
    (connects : Gitlab.Client.ofSettings settings.host Gitlab.downloadPolicy around.transport = .ok client) :
    (Run.provisioner around settings).run state = (.ok (provisionerOf around client settings.template), state) := by
  have given : (settings.host.token.filter (· ≠ "")).isNone = false := by
    rw [Gitlab.Client.ofSettings] at connects
    cases given : settings.host.token with
    | none =>
        rw [given] at connects
        cases connects
    | some token =>
        rw [given, Gitlab.Client.ofToken] at connects
        split at connects
        · cases connects
        · rename_i some
          simp [some]
  rw [Run.provisioner, given, connects]
  rfl

/-- The templates that a client lists. -/
theorem run_listTemplates (around : Surroundings σ) {settings : TemplateSettings} (state : RunState σ)
    {session : Gitlab.Session σ} {templates : List (Data.Value × Data.Value)}
    (lists : (client.listProjects settings.group).run { state.session with log := [] } = (.ok templates, session)) :
    ∃ mid : RunState σ, mid.lines = state.lines ∧
      (Run.provisioning (provisionerOf around client settings).listTemplates).run state =
        (.ok (.ok templates), mid) := by
  have answers : ((provisionerOf around client settings).host.ask (.listProjects settings.group)
      state.session).1.outcome = .ok templates :=
    congrArg (·.1) lists
  have asked : Ensures (provisionerOf around client settings).listTemplates
      { host := state.session, workspace := state.workspace } (fun answer _ => answer = templates)
        fun _ _ => False := by
    refine .bind (.get (.bind (.set ?_)))
    split
    · rename_i outcome
      exact .pure (Except.ok.inj (outcome.symm.trans answers))
    · rename_i outcome
      cases outcome.symm.trans answers
  obtain ⟨_, t, ran, rfl⟩ | ⟨_, _, _, none⟩ := asked.outcome
  · refine ⟨{ state with session := t.host, workspace := t.workspace }, rfl, ?_⟩
    have got : (get : Run σ _).run state = (.ok state, state) := rfl
    rw [Run.provisioning, run_bind_eq_of_ok got]
    simp only [ran]
    rfl
  · exact none.elim

theorem run_list {templates : List (String × String)} {session : Gitlab.Session σ}
    (loads : (Configuration.load around.environment shared.config).run start.workspace = (.ok loaded, w))
    (connects : Gitlab.Client.ofSettings loaded.settings.host Gitlab.downloadPolicy around.transport = .ok client)
    (lists : (client.listProjects loaded.settings.template.group).run { start.session with log := [] } =
      (.ok (answered templates), session)) :
    ∃ mid : RunState σ, mid.lines = start.lines ∧ (Run.list around false shared).run start =
      if templates = [] then
        (Run.printInfo ("No templates found in group '" ++ loaded.settings.template.group ++ "'")).run mid
      else (Run.printShown (templateTable loaded.settings.template.group templates).lines).run mid := by
  have verbose : (Run.setVerbosity shared.verbose : Run σ Unit).run start =
      (.ok (), { start with journal := start.journal.setVerbosity shared.verbose }) := rfl
  have settled := run_loadSettings { start with journal := start.journal.setVerbosity shared.verbose } loads
  obtain ⟨mid, quiet, listed⟩ := run_listTemplates around
    { start with journal := start.journal.setVerbosity shared.verbose, workspace := w } lists
  refine ⟨mid, quiet, ?_⟩
  rw [Run.list, run_bind_eq_of_ok verbose, run_bind_eq_of_ok settled, run_bind_eq_of_ok (run_provisioner _ connects),
    run_bind_eq_of_ok listed]
  simp only [Bool.false_eq_true, if_false]
  by_cases none : templates = []
  · rw [if_pos none, none]
    rfl
  · have some : (answered templates).isEmpty = false := by simpa [answered] using none
    rw [if_neg none, some, if_neg Bool.false_ne_true, run_bind_eq_of_ok (sorted_answered templates mid)]
    rw [run_bind_eq_of_ok (run_cells _ mid)]
    rfl

/-- The list of templates shows their names and descriptions as they are exactly if there are none, or its title can be
shown and nothing in them means anything to the console. -/
theorem list_printsRows_iff {templates : List (String × String)} {session : Gitlab.Session σ}
    (reads : Command.read start.workspace.disk arguments = .ok (.list false shared))
    (loads : (Configuration.load around.environment shared.config).run start.workspace = (.ok loaded, w))
    (connects : Gitlab.Client.ofSettings loaded.settings.host Gitlab.downloadPolicy around.transport = .ok client)
    (lists : (client.listProjects loaded.settings.template.group).run { start.session with log := [] } =
      (.ok (answered templates), session)) :
    PrintsRows start (templateRows templates) (Outcome.ofArguments around arguments start) ↔
      templates = [] ∨ (∃ title, Console.shown (listTitle loaded.settings.template.group).toList = .ok title) ∧
        ∀ template ∈ templates, IsLiteral template.1.toList ∧ IsLiteral template.2.toList := by
  obtain ⟨mid, quiet, ran⟩ := run_list loads connects lists
  by_cases none : templates = []
  · rw [if_pos none] at ran
    refine iff_of_true ?_ (.inl none)
    have sign : "ℹ".toList = ['ℹ'] := by decide
    obtain ⟨said, printed⟩ := exists_signed Console.isStyle_cyan sign (by decide)
      ("No templates found in group '" ++ loaded.settings.template.group ++ "'")
    rw [Run.printInfo, run_printSigned printed] at ran
    refine ⟨?_, ?_⟩
    · rw [Outcome.ofArguments, reads]
      simp only [Run.ofCommand, ran]
    · rw [Outcome.ofArguments, reads]
      simp only [Run.ofCommand, ran]
      change rowsAmong (mid.lines ++ said) = rowsAmong start.lines ++ templateRows templates
      rw [Console.rowsAmong_append, rowsAmong_signed printed, quiet, templateRows, if_pos none]
  · rw [if_neg none] at ran
    rw [templateRows, if_neg none]
    refine (printsRows_iff_of_run reads ran (congrArg rowsAmong quiet) (isEven_templateTable _ _)).trans ?_
    rw [or_iff_right none]
    refine and_congr_right fun _ => ⟨fun literal template known => ?_, fun literal => ?_⟩
    · have row := literal _ (List.mem_cons_of_mem _ (List.mem_map_of_mem (List.mem_mergeSort.mpr known)))
      exact ⟨row _ List.mem_cons_self, row _ (List.mem_cons_of_mem _ List.mem_cons_self)⟩
    · refine List.forall_mem_cons.mpr ⟨?_, List.forall_mem_map.mpr fun template known => ?_⟩
      · refine List.forall_mem_cons.mpr ⟨Console.isLiteral_of_weight rfl (by decide), ?_⟩
        exact List.forall_mem_singleton.mpr (Console.isLiteral_of_weight rfl (by decide))
      · obtain ⟨name, description⟩ := literal template (List.mem_mergeSort.mp known)
        exact List.forall_mem_cons.mpr ⟨name, List.forall_mem_singleton.mpr description⟩

end Listing

/-! ## Both tables -/

section Examples

open Data (Value)
open Gitlab (Client Page)

/-- What lists of templates run in. -/
def listSurroundings : Surroundings (List Http.Response) where
  environment := { assignments := [("GL_TOKEN", "t")] }
  transport := Client.queue
  directory := "/to".toList
  places := Log.JournalPlaces.below []
  time := ""

/-- Their settings. -/
def listSettings : Settings where
  host := { token := some "t" }

/-- What sends their requests. -/
def listClient : Client (List Http.Response) where
  token := "t"
  address := Client.addressOf (some publicHost)
  transport := Client.queue

/-- The page with the group of the templates. -/
def groupPage : Page :=
  Client.pageOf "" "[\x7b\"id\":1,\"full_path\":\"template\"\x7d]"
    (.list [.mapping [(.text "id", .int 1), (.text "full_path", .text "template")]])

/-- Where a list starts that gets the group and a text with its projects. -/
def listStart (text : String) : RunState (List Http.Response) where
  workspace := {}
  session := { network := [groupPage.response, (Client.pageOf "" text .null).response] }

theorem read_list : Command.read {} ["list"] = .ok (.list false {}) := by
  cbv

theorem load_listStart (text : String) :
    (Configuration.load listSurroundings.environment ({} : Shared).config).run (listStart text).workspace =
      (.ok ⟨none, listSettings⟩, { log := [Configuration.defaultsRecord] }) := by
  have found : Configuration.findPath {} listSurroundings.environment none = .ok none := by cbv
  have settled : Configuration.settled listSurroundings.environment "configuration" [] = .ok listSettings := rfl
  rw [Configuration.run_load, listStart, found]
  simp only [settled]
  rfl

theorem ofSettings_listSettings :
    Client.ofSettings listSettings.host Gitlab.downloadPolicy listSurroundings.transport = .ok listClient := by
  rw [Client.ofSettings, listSettings, Client.ofToken, if_neg (by decide)]
  rfl

theorem exists_listProjects {text : String} {projects : List Value} {templates : List (String × String)}
    (read : Data.Json.read (Client.pageOf "" text .null).response.text = .ok (.list projects))
    (areProjects : ∀ v ∈ projects, Client.IsProject v)
    (gathers : (projects.map Client.projectEntry).foldl
      (fun known entry => Value.insertEntry entry.1 entry.2 known) [] = answered templates) :
    ∃ session, (listClient.listProjects "template").run { (listStart text).session with log := [] } =
      (.ok (answered templates), session) := by
  let page : Page := Client.pageOf "" text (.list projects)
  have group : Data.Json.read groupPage.response.text = .ok groupPage.data := by cbv
  have chosen : (Page.items [groupPage]).find? (Client.endsSearch "template") =
      some (.mapping [(.text "id", .int 1), (.text "full_path", .text "template")]) := by
    cbv
  have groups : listClient.Lists "/groups" (Client.groupParameters "template") (listStart text).session.network
      [groupPage] [page.response] :=
    ⟨.last ⟨rfl, rfl, group⟩ (by cbv), by decide⟩
  have pages : listClient.Lists (Client.projectsPath (.int 1)) Client.projectsParameters [page.response] [page] [] :=
    ⟨.last ⟨rfl, rfl, read⟩ rfl, of_decide_eq_true rfl⟩
  have items : Page.items [page] = projects := List.append_nil projects
  have listed : (listClient.listProjects "template").run { (listStart text).session with log := [] } = _ :=
    Client.run_listProjects rfl groups chosen rfl pages
  rw [items, Client.run_gatherProjects areProjects, gathers] at listed
  exact ⟨_, listed⟩

/-- Two templates with brackets that begin no marks. -/
def bracketText : String :=
  "[\x7b\"name\":\"web\",\"description\":\"[UI]\"\x7d,\x7b\"name\":\"api [2]\"\x7d]"

theorem exists_listProjects_bracketText : ∃ session,
    (listClient.listProjects "template").run { (listStart bracketText).session with log := [] } =
      (.ok (answered [("web", "[UI]"), ("api [2]", "")]), session) := by
  let projects : List Value := [.mapping [(.text "name", .text "web"), (.text "description", .text "[UI]")],
    .mapping [(.text "name", .text "api [2]")]]
  have read : Data.Json.read (Client.pageOf "" bracketText .null).response.text = .ok (.list projects) := by cbv
  have areProjects : ∀ v ∈ projects, Client.IsProject v := by
    simp [projects, Client.IsProject, Value.get?, Value.find?, Value.isKey]
  exact exists_listProjects read areProjects rfl

/-- A template with a mark in its description that ends what no mark began. -/
def endingText : String :=
  "[\x7b\"name\":\"api\",\"description\":\"see [/docs]\"\x7d]"

theorem exists_listProjects_endingText : ∃ session,
    (listClient.listProjects "template").run { (listStart endingText).session with log := [] } =
      (.ok (answered [("api", "see [/docs]")]), session) := by
  let projects : List Value := [.mapping [(.text "name", .text "api"), (.text "description", .text "see [/docs]")]]
  have read : Data.Json.read (Client.pageOf "" endingText .null).response.text = .ok (.list projects) := by cbv
  have areProjects : ∀ v ∈ projects, Client.IsProject v := by
    simp [projects, Client.IsProject, Value.get?, Value.find?, Value.isKey]
  exact exists_listProjects read areProjects rfl

end Examples

end Stencil.CommandLine
