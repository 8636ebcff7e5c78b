import FirstClaim.Proofs.CommandLine.Told
import FirstClaim.Proofs.CommandLine.Words
import FirstClaim.Proofs.StoredRuleSet

/-!
# Rules that are saved and used again

A run that saves its rules in a store makes them those of every later run that takes them from
there: whatever the runs between do, as long as they do not save under the same name and do not
write their output into the store (`saved_rules_reused`). The runs share their files (`Call.on`,
`session`) and nothing else.

What stands in the store after the first run (`Stored`) is carried through the runs between
(`Stored.session`) and decides what the last run does (`exec_prepare_stored`).
-/

set_option autoImplicit false

namespace FirstClaim.CommandLine

open FileTree Step

/-! ## Calls -/

/-- A run without its files. -/
structure Call where
  arguments : List String
  input : ByteArray
  home : String
  /-- The directory in which the program is called. -/
  current : Location
  now : Timestamp

/-- A call where certain files are there. -/
def Call.on (c : Call) (files : FileTree) : Invocation :=
  { c with files := { files with current := c.current } }

/-- The files that calls leave behind in turn. -/
def session (files : FileTree) (calls : List Call) : FileTree :=
  calls.foldl (fun files c => (c.on files).outcome.files) files

/-- A run does not save under a name and does not write its output into a directory. -/
structure Invocation.Spares (i : Invocation) (name : String) (directory : Location) : Prop where
  saves : ∀ rules, .log (.saved name rules) ∉ i.outcome.messages
  writes : ∀ path, .log (.outputWritten path) ∈ i.outcome.messages →
    ¬ directory <+: i.files.leadsTo path

/-- Each of the calls in turn spares a name and a directory. -/
def SessionSpares (name : String) (directory : Location) : FileTree → List Call → Prop
  | _, [] => True
  | files, c :: calls => (c.on files).Spares name directory ∧
      SessionSpares name directory (c.on files).outcome.files calls

/-- **Arguments that do not ask for it** spare the name and the directory. -/
theorem Invocation.Spares.of_arguments {i : Invocation} {name : String} {directory : Location}
    (h : ∀ a, Arguments.read i.arguments = .ok a → a.saveAs ≠ some name ∧
      ∀ path, a.output = some path → ¬ directory <+: i.files.leadsTo path) :
    i.Spares name directory := by
  cases hread : Arguments.read i.arguments with
  | error stop =>
    have hlog : ∀ e, .log e ∉ i.outcome.messages := by
      intro e
      cases stop <;> simp [Invocation.outcome, hread]
    exact ⟨fun rules hmem => absurd hmem (hlog _), fun path hmem => absurd hmem (hlog _)⟩
  | ok a =>
    obtain ⟨hsaves, hwrites⟩ := h a hread
    refine ⟨fun rules hmem => ?_, fun path hmem => ?_⟩
    · obtain ⟨name', rules', hname, heq⟩ | ⟨path, -, heq⟩ := told_asked hread rfl hmem
      · cases heq
        exact hsaves hname
      · cases heq
    · obtain ⟨name', rules', -, heq⟩ | ⟨path', houtput, heq⟩ := told_asked hread rfl hmem
      · cases heq
      · cases heq
        exact hwrites _ houtput

/-! ## What stands in the store -/

/-- The store of a data directory is there and holds a rule set in a file at some place. -/
structure Stored (d : DataDirectory) (name : String) (stored : StoredRuleSet) (place : Location)
    (t : FileTree) : Prop where
  isName : isStoreName name = true
  opened : Opened d t
  leads : t.resolve (d.store.path name) = .ok place
  file : Path.endsInSlash (d.store.path name) = false
  node : t.node? place = some (.file stored.render.toUTF8)

namespace Stored

variable {d : DataDirectory} {name : String} {stored : StoredRuleSet} {place : Location}
  {t t' : FileTree}

/-- **What stands in the store is what is loaded.** -/
theorem load (h : Stored d name stored place t) : d.store.load t name = .ok (some stored) := by
  have hcontains : t.contains (d.store.path name) = true := by
    rw [contains, find_file h.leads h.file h.node]
    rfl
  exact Store.load_stored h.isName hcontains (readText_file h.leads h.file h.node)

theorem seenFrom {c : Location} (h : Stored d name stored place t)
    (hplace : Path.isAbsolute d.root = true ∨ c = t.current) :
    Stored d name stored place { t with current := c } := by
  refine ⟨h.isName, h.opened.seenFrom hplace, (resolve_from ?_).trans h.leads, h.file, h.node⟩
  refine hplace.imp_left fun habsolute => ?_
  rw [Store.path, Path.isAbsolute_join (store_directory_ne_empty d)
    (Path.isAbsolute_of_no_slash (not_mem_json h.isName (by decide) rfl))]
  exact isAbsolute_store habsolute

theorem keeps (h : Stored d name stored place t) (hkeeps : Keeps t t')
    (hnode : t'.node? place = t.node? place) : Stored d name stored place t' :=
  ⟨h.isName, h.opened.keeps hkeeps, hkeeps.resolve h.leads, h.file, hnode.trans h.node⟩

end Stored

/-- A run that spares the name and the directory of a file in the store leaves the file. -/
theorem node?_of_spares {i : Invocation} {name : String} {directory : Location}
    {content : ByteArray} (hroomy : ∀ place, (i.media.file place).room = none)
    (h : i.Spares name directory)
    (hfile : i.files.node? (directory ++ ["rulesets", name ++ ".json"]) = some (.file content)) :
    i.outcome.files.node? (directory ++ ["rulesets", name ++ ".json"]) = some (.file content) := by
  rcases (outcome_told hroomy).node (directory ++ ["rulesets", name ++ ".json"]) with
    hsame | ⟨hnone, -⟩ | ⟨name', rules, directory', hsaved, hplace⟩ | ⟨path, hwritten, hplace⟩
  · rw [hsame, hfile]
  · rw [hnone] at hfile
    cases hfile
  · have hlast := congrArg List.getLast? hplace
    simp only [List.getLast?_append, List.getLast?_singleton, List.getLast?_cons_cons,
      Option.some_or, Option.some.injEq, String.append_left_inj] at hlast
    subst hlast
    exact absurd hsaved (h.saves rules)
  · exact absurd (hplace ▸ List.prefix_append _ _) (h.writes path hwritten)

/-- **Runs that spare the name and the directory** leave all directories and the file. -/
theorem session_keeps {name : String} {directory : Location} {files : FileTree}
    {calls : List Call} {content : ByteArray} (h : SessionSpares name directory files calls)
    (hfile : files.node? (directory ++ ["rulesets", name ++ ".json"]) = some (.file content)) :
    (∀ place, files.node? place = some .directory →
      (session files calls).node? place = some .directory) ∧
    (session files calls).node? (directory ++ ["rulesets", name ++ ".json"]) =
      some (.file content) := by
  induction calls generalizing files with
  | nil => exact ⟨fun _ => id, hfile⟩
  | cons c calls ih =>
    obtain ⟨hspares, hrest⟩ := h
    have hroomy : ∀ place, ((c.on files).media.file place).room = none := fun _ => rfl
    obtain ⟨hdirectories, hlast⟩ := ih hrest (node?_of_spares hroomy hspares hfile)
    refine ⟨fun place hplace => ?_, hlast⟩
    exact hdirectories place ((outcome_told hroomy).keeps.directory place hplace)

theorem Stored.session {d : DataDirectory} {name : String} {stored : StoredRuleSet}
    {directory c : Location} {files : FileTree} {calls : List Call}
    (h : Stored d name stored (directory ++ ["rulesets", name ++ ".json"]) files)
    (hspares : SessionSpares name directory files calls)
    (hplace : Path.isAbsolute d.root = true ∨ c = files.current) :
    Stored d name stored (directory ++ ["rulesets", name ++ ".json"])
      { CommandLine.session files calls with current := c } := by
  obtain ⟨hdirectories, hfile⟩ := session_keeps hspares h.node
  have hkeeps : Keeps files { CommandLine.session files calls with current := files.current } :=
    ⟨rfl, hdirectories⟩
  exact (h.keeps hkeeps (hfile.trans h.node.symm)).seenFrom hplace

theorem Step.Prepared.stored {i : Invocation} {a : Arguments} {config : Config} {files : FileTree}
    {name : String} (hmedia : i.media = .usual) (h : Prepared i a config files)
    (hname : a.saveAs = some name) :
    files.current = i.files.current ∧
      Stored (dataDirectory i.home a) name (.ofConfig config i.now)
        (i.files.leadsTo (dataDirectory i.home a).root ++ ["rulesets", name ++ ".json"]) files := by
  obtain ⟨loaded, rules, hextends, -, -, hsaved⟩ := h
  unfold Saved at hsaved
  rw [hname] at hsaved
  obtain ⟨opened, hopens, hopened, hsave⟩ := hsaved
  obtain ⟨hisName, hresult, hwrite⟩ := Store.saveOn_ok hsave
  obtain ⟨place, hpath, hslash, hnode, hput⟩ := write_ok hwrite
  have hcurrent := (hextends.trans hopens).current
  have hkeeps : Keeps opened files := hput ▸ keeps_put hnode _
  have hplace := resolve_ok hpath
  rw [leadsTo_congr hcurrent, leadsTo_path _ _ hisName] at hplace
  -- no file of a store is `/dev/null`
  have hkept : (i.media.file (opened.leadsTo ((dataDirectory i.home a).store.path name))).keeps =
      true := by
    rw [hmedia, ← resolve_ok hpath, hplace]
    refine decide_eq_true fun hnull => ?_
    have hlast : ["rulesets", name ++ ".json"] = ["dev", "null"] :=
      List.append_inj_right' (hnull.trans (List.nil_append _).symm) rfl
    exact absurd (List.cons.inj hlast).1 (by decide)
  rw [Medium.kept_of_ok hresult, if_pos hkept] at hput
  refine ⟨hkeeps.current.trans hcurrent, hisName, hopened.keeps hkeeps, ?_, hslash, ?_⟩
  · rw [← hplace]
    exact hkeeps.resolve hpath
  · rw [← hplace, hput]
    exact node?_put_self _ _ (ne_root_of_not_directory hnode)

/-! ## Reading the arguments -/

/-- The arguments for saving rules, which are those of a file or the built-in ones. -/
def savingArguments (rules : Option String) (store name : String) (report : Bool) : List String :=
  (rules.toList.flatMap fun path => ["--rules", path]) ++
    ["--store", store, "--save-as", name] ++ if report then ["--report"] else []

def usingArguments (store name : String) (report : Bool) : List String :=
  ["--store", store, "--rule-set", name] ++ if report then ["--report"] else []

section Words

open Reading

variable {rules : Option String} {store name : String}

def savingSettings (rules : Option String) (store name : String) : List (Setting × String) :=
  rules.toList.map (Setting.rules, ·) ++ [(.store, store), (.saveAs, name)]

theorem savingArguments_eq (report : Bool) : savingArguments rules store name report =
    spelled (savingSettings rules store name) ++ if report then ["--report"] else [] := by
  cases rules <;> rfl

theorem savingSettings_ok (rules : Option String) (store name : String) :
    (∀ v ∈ savingSettings rules store name, v.1.takesValue = true) ∧
      ((savingSettings rules store name).map (·.1)).Nodup ∧
      .report ∉ (savingSettings rules store name).map (·.1) := by
  cases rules <;> simp [savingSettings, Setting.takesValue, Setting.valueName?]

theorem read_savingArguments (hwords : ∀ v ∈ savingSettings rules store name, isDashed v.2 = false)
    (report : Bool) : Arguments.read (savingArguments rules store name report) =
      .ok { rules, store := some store, saveAs := some name, report } := by
  obtain ⟨hvalues, hdistinct, hreport⟩ := savingSettings_ok rules store name
  obtain ⟨r, hnotes, hread⟩ := readAll_spelled Notes.start hvalues hwords hdistinct
    (if report then ["--report"] else [])
  unfold Arguments.read
  rw [savingArguments_eq, hread, readAll_report hnotes hreport]
  cases rules <;> cases report <;> rfl

theorem refused_savingArguments
    (hdashed : ∃ v ∈ savingSettings rules store name, isDashed v.2 = true) (report : Bool) :
    Refused (Reading.readAll {} (savingArguments rules store name report)) := by
  obtain ⟨hvalues, hdistinct, -⟩ := savingSettings_ok rules store name
  rw [savingArguments_eq]
  exact refused_spelled Notes.start hvalues hdashed hdistinct _

theorem read_usingArguments (hwords : ∀ v ∈ savingSettings rules store name, isDashed v.2 = false)
    (report : Bool) : Arguments.read (usingArguments store name report) =
      .ok { store := some store, ruleSet := some name, report } := by
  have husing : ∀ v ∈ [(Setting.store, store), (.ruleSet, name)], isDashed v.2 = false := by
    simp only [List.forall_mem_cons, List.not_mem_nil, false_implies, implies_true, and_true]
    exact ⟨hwords (.store, store) (by simp [savingSettings]),
      hwords (.saveAs, name) (by simp [savingSettings])⟩
  obtain ⟨r, hnotes, hread⟩ := readAll_spelled Notes.start
    (by simp [Setting.takesValue, Setting.valueName?]) husing (by simp)
    (if report then ["--report"] else [])
  have hsplit : usingArguments store name report =
      spelled [(.store, store), (.ruleSet, name)] ++ if report then ["--report"] else [] :=
    rfl
  unfold Arguments.read
  rw [hsplit, hread, readAll_report hnotes (by simp)]
  cases report <;> rfl

theorem exitCode_of_refused {i : Invocation} (h : Refused (Reading.readAll {} i.arguments)) :
    i.outcome.exitCode ≠ 0 := by
  obtain ⟨e, he⟩ := h
  have hread : Arguments.read i.arguments = .error (.misuse e) := by
    rw [Arguments.read, he]
    rfl
  unfold Invocation.outcome
  rw [hread]
  exact nofun

end Words

/-! ## What runs print and report -/

/-- A report with the rules that it is about. -/
def Message.report? : Message → Option (Config × Report)
  | report config r _ => some (config, r)
  | _ => none

/-- The reports that a run shows. -/
def Outcome.reports (o : Outcome) : List (Config × Report) :=
  o.messages.filterMap Message.report?

theorem report?_of_shown (verbose : Bool) (messages : List Message) :
    (messages.filter (·.isShown verbose)).filterMap Message.report? =
      messages.filterMap Message.report? := by
  rw [List.filterMap_filter]
  congr 1
  funext m
  cases m <;> simp [Message.isShown, Message.report?]

theorem report?_of_events (events : List LogEvent) :
    (events.map Message.log).filterMap Message.report? = [] := by
  rw [List.filterMap_eq_nil_iff]
  intro m hm
  obtain ⟨e, -, rfl⟩ := List.mem_map.1 hm
  rfl

theorem applyingMessages_events (config : Config) (text : String) :
    ∃ events : List LogEvent, applyingMessages config text = events.map .log := by
  unfold applyingMessages
  dsimp only
  split
  · exact ⟨.engineBuilt config.name config.rules.length ::
      (reportOf config text).skipped.map .ruleSkipped ++
        [.transformed config.rules.length (reportOf config text).claims.length
          (reportOf config text).skipped.length], by simp⟩
  · exact ⟨.engineBuilt config.name config.rules.length ::
      (reportOf config text).skipped.map .ruleSkipped, by simp⟩

theorem storedChanged_not_behindRules {i : Invocation} {a : Arguments} {config : Config}
    {text : String} (name : String) : .log (.storedChanged name) ∉
      applyingMessages config text ++ reportMessages i a config text := by
  intro hmem
  rcases List.mem_append.1 hmem with h | h
  · obtain ⟨_, _, h⟩ | ⟨_, h⟩ | ⟨_, _, _, h⟩ := applying_cases h <;> cases h
  · unfold reportMessages at h
    split at h
    · cases List.mem_singleton.1 h
    · cases h

section Printed

variable {i : Invocation} {a : Arguments} {config : Config} {p : Progress} {text : String}
  (hread : Arguments.read i.arguments = .ok a)
  (hprepare : exec (prepare i a) ⟨i.files, [], .empty⟩ = (.ok config, p))
  (hshow : a.showRules = false) (houtput : a.output = none)
  (htext : inputText i a p.files = .ok text) (hroom : i.media.output = none)
include hread hprepare hshow houtput htext hroom

/-- **A run prints what its rules make of its input** if no output file is asked for. -/
theorem outcome_printed : i.outcome = ⟨0, (reportOf config text).output.toUTF8,
    (p.messages ++ (applyingMessages config text ++ reportMessages i a config text)).filter
      (·.isShown a.verbose), p.files⟩ := by
  rw [outcome_eq hread, exec_all, hprepare]
  dsimp only
  rw [exec_behindRules hshow, htext]
  dsimp only
  have hresult : i.media.output.result (reportOf config text).output.toUTF8 = .ok () := by
    rw [hroom]
    rfl
  rw [houtput, exec_writeOutput_none, hresult, Room.taken_of_ok hresult,
    gives_prepare_printed hprepare, ByteArray.empty_append]
  rfl

theorem reports_printed {events : List LogEvent} (hevents : p.messages = events.map .log) :
    i.outcome.reports = if a.report then [(config, reportOf config text)] else [] := by
  obtain ⟨applying, happlying⟩ := applyingMessages_events config text
  rw [Outcome.reports, outcome_printed hread hprepare hshow houtput htext hroom]
  dsimp only
  rw [report?_of_shown, List.filterMap_append, List.filterMap_append, hevents, happlying,
    report?_of_events, report?_of_events, reportMessages]
  cases a.report <;> rfl

end Printed

/-! ## The two runs -/

section Runs

variable {i : Invocation} {rules : Option String} {store name : String}

/-- **A run that saves rules and succeeds** has prepared them, with a report or without one, and
could read its input. -/
theorem saving_run (harguments : i.arguments = savingArguments rules store name false)
    (hok : i.outcome.exitCode = 0) :
    (∀ v ∈ savingSettings rules store name, Reading.isDashed v.2 = false) ∧
      ∃ config p text, decodeText i.input = .ok text ∧
        Prepared i { rules, store := some store, saveAs := some name } config p.files ∧
        exec (prepare i { rules, store := some store, saveAs := some name }) ⟨i.files, [], .empty⟩ =
          (.ok config, p) ∧
        ∃ events : List LogEvent, p.messages = events.map .log := by
  have hwords : ∀ v ∈ savingSettings rules store name, Reading.isDashed v.2 = false := by
    intro v hv
    cases hdash : Reading.isDashed v.2 with
    | false => rfl
    | true =>
      have hrefused := refused_savingArguments ⟨v, hv, hdash⟩ false
      exact absurd hok (exitCode_of_refused (harguments ▸ hrefused))
  have hread := read_savingArguments hwords false
  rw [← harguments] at hread
  refine ⟨hwords, ?_⟩
  rcases prepare_cases i { rules, store := some store, saveAs := some name } with ⟨f, p, hexec, -⟩ |
    ⟨config, p, hexec, hprepared, -, events, -, hevents⟩
  · rw [outcome_eq hread, exec_all, hexec] at hok
    exact absurd hok f.exitCode_ne_zero
  · cases htext : decodeText i.input with
    | error e =>
      have hinput : inputText i { rules, store := some store, saveAs := some name } p.files =
          .error e := htext
      rw [outcome_eq hread, exec_all, hexec] at hok
      dsimp only at hok
      rw [exec_behindRules rfl, hinput] at hok
      exact absurd hok (Failure.readInput none e).exitCode_ne_zero
    | ok text =>
      refine ⟨config, p, text, rfl, hprepared, hexec, events ++
        [.stored name config.fingerprint, .saved name config.rules.length], ?_⟩
      rw [hevents]
      simp [savingMessages]

/-- **A run that uses a stored rule set** prepares its rules and tells so; nothing changes. -/
theorem exec_prepare_stored {config : Config} {savedAt : Timestamp} {place : Location}
    (h : Stored ⟨store⟩ name (.ofConfig config savedAt) place i.files) (report : Bool) :
    exec (prepare i { store := some store, ruleSet := some name, report }) ⟨i.files, [], .empty⟩ =
      (.ok config, ⟨i.files, [LogEvent.storedLoaded name config.rules.length,
        .storedUsed name savedAt].map .log, .empty⟩) := by
  have hload : Gives (loadStored ⟨store⟩ name) ⟨i.files, [], .empty⟩ config ⟨i.files,
      [LogEvent.storedLoaded name config.rules.length, .storedUsed name savedAt].map .log,
      .empty⟩ := by
    unfold loadStored
    refine gives_bind.2 ⟨_, _, h.opened.gives, ?_⟩
    rw [gives_get, gives_attempt_bind]
    refine ⟨_, h.load, ?_⟩
    dsimp only
    rw [gives_log, StoredRuleSet.isIntact_ofConfig, if_neg (by simp), gives_log, gives_pure]
    exact ⟨rfl, rfl⟩
  exact gives_bind.2 ⟨config, _, hload, gives_pure.2 ⟨rfl, rfl⟩⟩

end Runs

/-- **Saved rules are the ones that are used.** A run saves rules and succeeds; further runs do not
save under the same name and do not write into the store. Then a run that uses the saved rules on
the same text succeeds and prints the same, does not find the rules changed, and shows the same
report as the first run. -/
theorem saved_rules_reused {rules : Option String} {store name : String} {files : FileTree}
    {first last : Call} {later : List Call}
    (hsaving : first.arguments = savingArguments rules store name false)
    (hok : (first.on files).outcome.exitCode = 0)
    (hlater : SessionSpares name ((first.on files).files.leadsTo store)
      (first.on files).outcome.files later)
    (hinput : last.input = first.input)
    (hstore : Path.isAbsolute store = true ∨ last.current = first.current) :
    ∃ config r, ∀ report : Bool,
      let saving := { first with arguments := savingArguments rules store name report }.on files
      let again := { last with arguments := usingArguments store name report }.on
        (session (first.on files).outcome.files later)
      again.outcome.exitCode = 0 ∧ again.outcome.output = (first.on files).outcome.output ∧
      (∀ name', .log (.storedChanged name') ∉ again.outcome.messages) ∧
      again.outcome.reports = (if report then [(config, r)] else []) ∧
      saving.outcome.reports = (if report then [(config, r)] else []) := by
  obtain ⟨hwords, config, p, text, htext, hprepared, hexec, events, hevents⟩ :=
    saving_run hsaving hok
  have hread : Arguments.read (first.on files).arguments =
      .ok { rules, store := some store, saveAs := some name } :=
    (congrArg Arguments.read hsaving).trans (read_savingArguments hwords false)
  have hfirst := outcome_printed hread hexec rfl rfl htext rfl
  have hfiles : (first.on files).outcome.files = p.files := by rw [hfirst]
  obtain ⟨hcurrent, hstored⟩ := hprepared.stored rfl rfl
  rw [hfiles] at hlater ⊢
  have hstands := hstored.session hlater (hstore.imp_right fun h => h.trans hcurrent.symm)
  refine ⟨config, reportOf config text, fun report => ?_⟩
  intro saving again
  have hsavingReads : Arguments.read saving.arguments = .ok _ := read_savingArguments hwords report
  have hagainReads : Arguments.read again.arguments = .ok _ := read_usingArguments hwords report
  -- no warning: what stands in the store has the fingerprint that was saved with it
  have hprepare := exec_prepare_stored (i := again) hstands report
  have hagainText : inputText again { store := some store, ruleSet := some name, report }
      again.files = .ok text := by
    show decodeText last.input = .ok text
    rw [hinput]
    exact htext
  have hagain := outcome_printed hagainReads hprepare rfl rfl hagainText rfl
  refine ⟨by rw [hagain], by rw [hagain, hfirst], fun name' hmem => ?_,
    reports_printed hagainReads hprepare rfl rfl hagainText rfl rfl,
    reports_printed hsavingReads hexec rfl rfl htext rfl hevents⟩
  rw [hagain] at hmem
  rcases List.mem_append.1 (List.mem_filter.1 hmem).1 with h | h
  · simp at h
  · exact storedChanged_not_behindRules name' h

/-! ## An example -/

/-- A call in the directory `/` at the time before any saving. -/
def callAtRoot (arguments : List String) (input : String) : Call :=
  ⟨arguments, input.toUTF8, "/root", [], StoredRuleSet.epoch⟩

/-- The built-in rules are saved as `mine`, and then as `other` while the output goes elsewhere. -/
theorem saved_rules_reused_mine :
    let first := callAtRoot (savingArguments none "data" "mine" false) "**bold**"
    let between := callAtRoot ["--store", "data", "--save-as", "other", "-o", "out.txt"] "text"
    let last := callAtRoot [] "**bold**"
    (first.on {}).outcome.exitCode = 0 ∧
      SessionSpares "mine" ((first.on {}).files.leadsTo "data") (first.on {}).outcome.files
        [between] ∧
      ∃ config r, ∀ report : Bool,
        let saving :=
          { first with arguments := savingArguments none "data" "mine" report }.on {}
        let again := { last with arguments := usingArguments "data" "mine" report }.on
          (session (first.on {}).outcome.files [between])
        again.outcome.exitCode = 0 ∧ again.outcome.output = (first.on {}).outcome.output ∧
        (∀ name', .log (.storedChanged name') ∉ again.outcome.messages) ∧
        again.outcome.reports = (if report then [(config, r)] else []) ∧
        saving.outcome.reports = (if report then [(config, r)] else []) := by
  intro first between last
  have hread : Arguments.read first.arguments =
      .ok { store := some "data", saveAs := some "mine" } := by
    decide +kernel
  have hok : (first.on {}).outcome.exitCode = 0 := by
    have hprepare : ((exec (prepare (first.on {}) { store := some "data", saveAs := some "mine" })
        ⟨(first.on {}).files, [], .empty⟩).1.toOption).isSome = true := by
      decide +kernel
    rcases hexec : exec (prepare (first.on {}) { store := some "data", saveAs := some "mine" })
        ⟨(first.on {}).files, [], .empty⟩ with ⟨f | config, p⟩
    · rw [hexec] at hprepare
      cases hprepare
    · rw [outcome_printed hread hexec rfl rfl (decodeText_toUTF8 "**bold**") rfl]
  have hbetween : SessionSpares "mine" ((first.on {}).files.leadsTo "data")
      (first.on {}).outcome.files [between] := by
    refine ⟨.of_arguments fun a ha => ?_, trivial⟩
    have hasked : Arguments.read between.arguments =
        .ok { store := some "data", saveAs := some "other", output := some "out.txt" } := by
      decide +kernel
    cases hasked.symm.trans ha
    refine ⟨by decide, fun path hpath => ?_⟩
    cases hpath
    show ¬ ["data"] <+: ["out.txt"]
    decide
  exact ⟨hok, hbetween, saved_rules_reused rfl hok hbetween rfl (.inr rfl)⟩

end FirstClaim.CommandLine
