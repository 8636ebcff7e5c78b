import FirstClaim.Proofs.CommandLine.Steps

/-!
# All or nothing

A run that fails prints nothing and changes no file, but for the one in which it saves rules, unless
it fails at its last step: then a beginning of the result has been written (`Cut`). A run that
succeeds and is asked for the text writes it whole in one place (`Delivers`, `Whole`): in the output
file or else as its output. The rules are those that were loaded before anything was written, and
the text is the one that the input held behind the saving of rules (`Prepared`).

The main statement is `outcome_all_or_nothing`. More cannot be said: writing may break off, and some
files keep nothing (`outcome_not_all_or_nothing`).
-/

set_option autoImplicit false

namespace FirstClaim.CommandLine

open FileTree

namespace Step

variable {i : Invocation} {a : Arguments} {p p' : Progress}

/-! ## Preparing the rules -/

/-- The rules and the files of a run before its input is read. The rules are loaded while nothing
but directories is new, and the files differ from those before by what is saved of the rules. -/
def Prepared (i : Invocation) (a : Arguments) (config : Config) (files : FileTree) : Prop :=
  ∃ loaded rules, Extends i.files loaded ∧ Loaded loaded i.home a rules ∧ config = named a rules ∧
    Saved i a config loaded files

/-- What stood in the files stands there still, or only directories are new, but for the file in
which rules are saved. -/
def Spared (i : Invocation) (a : Arguments) (before after : FileTree) : Prop :=
  ∀ place, after.node? place = before.node? place ∨
    (before.node? place = none ∧ after.node? place = some .directory) ∨
    ∃ name, a.saveAs = some name ∧
      place = before.leadsTo ((dataDirectory i.home a).store.path name)

theorem Spared.of_extends {before after : FileTree} (h : Extends before after) :
    Spared i a before after :=
  fun place => (h.node place).imp_right .inl

/-- A save changes the file of the rule set and no other, also when it breaks off. -/
theorem Spared.of_write {before opened after : FileTree} {name : String} {content : ByteArray}
    (hname : a.saveAs = some name) (hopened : Extends before opened)
    (hwrite : opened.write ((dataDirectory i.home a).store.path name) content = .ok after) :
    Spared i a before after := by
  obtain ⟨-, place, hpath, hother⟩ := read_of_write hwrite
  intro other
  by_cases hsame : other = place
  · refine .inr (.inr ⟨name, hname, ?_⟩)
    rw [hsame, resolve_ok hpath, leadsTo_congr hopened.current]
  · rw [hother other hsame]
    exact (hopened.node other).imp_right .inl

theorem Prepared.spared {config : Config} {files : FileTree} (h : Prepared i a config files) :
    Spared i a i.files files := by
  obtain ⟨loaded, rules, hextends, -, -, hsaved⟩ := h
  unfold Saved at hsaved
  cases hname : a.saveAs with
  | none =>
    rw [hname] at hsaved
    obtain rfl := hsaved
    exact .of_extends hextends
  | some name =>
    rw [hname] at hsaved
    obtain ⟨opened, hopened, -, hsave⟩ := hsaved
    exact .of_write hname (hextends.trans hopened) (Store.saveOn_ok hsave).2.2

/-- What a run leaves that cannot prepare its rules. -/
structure Unprepared (i : Invocation) (a : Arguments) (p : Progress) : Prop where
  spared : Spared i a i.files p.files
  roomy : (∀ place, (i.media.file place).room = none) → Extends i.files p.files
  printed : p.printed = .empty
  messages : ∃ events : List LogEvent, (∀ e ∈ events, e.level ≠ .info) ∧
    p.messages = events.map .log

theorem Unprepared.of_leaves (h : Leaves ⟨i.files, [], .empty⟩ p) : Unprepared i a p :=
  ⟨.of_extends h.files, fun _ => h.files, h.printed, h.messages⟩

/-- **Rules cannot be prepared**, or they are prepared with nothing but events told. -/
theorem prepare_cases (i : Invocation) (a : Arguments) :
    (∃ f p, exec (prepare i a) ⟨i.files, [], .empty⟩ = (.error f, p) ∧ Unprepared i a p) ∨
      ∃ config p, exec (prepare i a) ⟨i.files, [], .empty⟩ = (.ok config, p) ∧
        Prepared i a config p.files ∧ p.printed = .empty ∧
        ∃ events : List LogEvent, (∀ e ∈ events, e.level ≠ .info) ∧
          p.messages = events.map .log ++ savingMessages a config := by
  unfold prepare
  rw [exec_bind]
  rcases hload : exec (loadRules i.home a) ⟨i.files, [], .empty⟩ with ⟨f | rules, q⟩
  · exact .inl ⟨f, q, rfl, .of_leaves ((harmless_loadRules _ _).fails hload)⟩
  · have hleaves := (harmless_loadRules _ _).gives hload
    obtain ⟨hextends, hloaded⟩ := gives_loadRules hload
    dsimp only
    rcases hsave : exec (saveRules i a rules) q with ⟨f | config, q'⟩
    · refine .inl ⟨f, q', rfl, ?_⟩
      rcases fails_saveRules hsave with hsaving | ⟨name, content, place, r, hname, hopen, heq, hwrite,
        hroom⟩
      · exact .of_leaves (hleaves.trans hsaving)
      · have hopened := hleaves.trans hopen
        exact ⟨.of_write hname hopened.files hwrite, fun hroomy => absurd (hroomy place) hroom,
          heq ▸ hopened.printed, heq ▸ hopened.messages⟩
    · obtain ⟨rfl, hsaved, hmessages, hprinted⟩ := gives_saveRules hsave
      obtain ⟨events, hlevel, hevents⟩ := hleaves.messages
      refine .inr ⟨_, q', rfl, ⟨q.files, rules, hextends, hloaded, rfl, hsaved⟩,
        hprinted.trans hleaves.printed, events, hlevel, ?_⟩
      rw [hmessages, hevents]
      rfl

/-! ## Delivering the result -/

/-- A result was written whole, and is there if its medium keeps it. -/
def Whole (result : ByteArray) (m : Medium) (content : ByteArray) : Prop :=
  m.room.result result = .ok () ∧ content = if m.keeps then result else .empty

/-- Writing a result broke off behind a beginning of it. -/
def Cut (result : ByteArray) (m : Medium) (content : ByteArray) : Prop :=
  m.room.result result ≠ .ok () ∧ ∃ n, n < result.size ∧ content = result.extract 0 n

/-- Where the result of a run goes: into the output file if there is one, and otherwise it is
printed. Nothing else changes. How the result arrives there is up to the medium. -/
def Delivers (i : Invocation) (output : Option String) (arrives : Medium → ByteArray → Prop)
    (before : FileTree) (printed : ByteArray) (after : FileTree) : Prop :=
  match output with
  | none => arrives { room := i.media.output } printed ∧ after = before
  | some path => printed = .empty ∧
      (∃ content, after.read path = .ok content ∧
        arrives (i.media.file (before.leadsTo path)) content) ∧
      ∀ place, place ≠ before.leadsTo path → after.node? place = before.node? place

/-- The result of a run: the rules, if they are asked for, or else what they make of the input. -/
def Results (i : Invocation) (a : Arguments) (config : Config) (files : FileTree)
    (result : String) : Prop :=
  if a.showRules then result = config.render .yaml
  else ∃ text, inputText i a files = .ok text ∧ result = (Engine.mk config.toRules).apply text

/-- The output file, which is not for rules that are asked for. -/
def destination (a : Arguments) : Option String :=
  if a.showRules then none else a.output

theorem kept_whole {m : Medium} {result : ByteArray} (h : m.room.result result = .ok ()) :
    Whole result m (m.kept result) :=
  ⟨h, m.kept_of_ok h⟩

theorem kept_cut {m : Medium} {result : ByteArray} {e : IoError}
    (h : m.room.result result = .error e) : Cut result m (m.kept result) := by
  have hne : m.room.result result ≠ .ok () := by
    rw [h]
    nofun
  exact ⟨hne, m.exists_kept hne⟩

/-- A step delivers a result whole, or it breaks off, or it is refused and nothing changes. -/
def Delivering (i : Invocation) (output : Option String) (result : String) (x : Step Unit)
    (p : Progress) : Prop :=
  match exec x p with
  | (.ok _, p') => Delivers i output (Whole result.toUTF8) p.files p'.printed p'.files
  | (.error _, p') => (p'.printed = .empty ∧ p'.files = p.files) ∨
      Delivers i output (Cut result.toUTF8) p.files p'.printed p'.files

theorem delivering_print (hprinted : p.printed = .empty) (fail : IoError → Failure)
    (text : String) : Delivering i none text (print fail i.media.output text) p := by
  unfold Delivering
  rw [exec_print, hprinted, ByteArray.empty_append]
  cases hresult : i.media.output.result text.toUTF8 with
  | ok _ => exact ⟨kept_whole (m := { room := i.media.output }) hresult, rfl⟩
  | error e => exact .inr ⟨kept_cut (m := { room := i.media.output }) hresult, rfl⟩

theorem delivering_writeOutput (hprinted : p.printed = .empty) (output : Option String)
    (text : String) : Delivering i output text (writeOutput i output text) p := by
  cases output with
  | none => exact delivering_print hprinted .print text
  | some path =>
    unfold Delivering
    rw [exec_writeOutput_some]
    obtain ⟨e, hrefused⟩ | ⟨m, written, rfl, hwrite, hrun⟩ :=
      p.files.writeOn_cases i.media path text.toUTF8
    · rw [hrefused]
      exact .inl ⟨hprinted, rfl⟩
    · obtain ⟨hread, place, hpath, hother⟩ := read_of_write hwrite
      rw [resolve_ok hpath] at hother
      rw [hrun]
      cases hresult : (i.media.file (p.files.leadsTo path)).room.result text.toUTF8 with
      | ok _ => exact ⟨hprinted, ⟨_, hread, kept_whole hresult⟩, hother⟩
      | error e => exact .inr ⟨hprinted, ⟨_, hread, kept_cut hresult⟩, hother⟩

/-- **Behind its rules**, a run has no input, or it delivers its result. -/
theorem behindRules_cases (hprinted : p.printed = .empty) (config : Config) :
    (∃ f, exec (behindRules i a config) p = (.error f, p)) ∨
      ∃ result, Results i a config p.files result ∧
        Delivering i (destination a) result (behindRules i a config) p := by
  unfold Results destination
  cases hshow : a.showRules with
  | true =>
    refine .inr ⟨_, rfl, ?_⟩
    unfold Delivering
    rw [exec_behindRules_showRules hshow]
    exact delivering_print hprinted .showRules _
  | false =>
    unfold Delivering
    rw [exec_behindRules hshow]
    cases hinput : inputText i a p.files with
    | error e => exact .inl ⟨_, rfl⟩
    | ok text =>
      have hdelivering := delivering_writeOutput (i := i) (p := { p with messages :=
        p.messages ++ (applyingMessages config text ++ reportMessages i a config text) })
        hprinted a.output (reportOf config text).output
      exact .inr ⟨_, ⟨text, rfl, rfl⟩, hdelivering⟩

/-- What a run leaves that fails: the files are spared and nothing is printed, or the run has come to
its last step and broken off there. -/
def Undelivered (i : Invocation) (a : Arguments) (printed : ByteArray) (after : FileTree) : Prop :=
  ∃ files, Spared i a i.files files ∧ ((printed = .empty ∧ after = files) ∨
    ∃ config result, Prepared i a config files ∧ Results i a config files result ∧
      Delivers i (destination a) (Cut result.toUTF8) files printed after)

/-- **A run from its beginning to its end.** -/
theorem all_cases (i : Invocation) (a : Arguments) :
    (∃ f p, exec (all i a) ⟨i.files, [], .empty⟩ = (.error f, p) ∧
      Undelivered i a p.printed p.files) ∨
      ∃ p, exec (all i a) ⟨i.files, [], .empty⟩ = (.ok (), p) ∧ ∃ config files result,
        Prepared i a config files ∧ Results i a config files result ∧
          Delivers i (destination a) (Whole result.toUTF8) files p.printed p.files := by
  rw [exec_all]
  rcases prepare_cases i a with ⟨f, p, hexec, hleft⟩ | ⟨config, p, hexec, hprepared, hprinted, -⟩
  · rw [hexec]
    exact .inl ⟨f, p, rfl, p.files, hleft.spared, .inl ⟨hleft.printed, rfl⟩⟩
  · rw [hexec]
    dsimp only
    rcases behindRules_cases (i := i) (a := a) hprinted config with ⟨f, hinput⟩ |
      ⟨result, hresult, hdelivering⟩
    · exact .inl ⟨f, p, hinput, p.files, hprepared.spared, .inl ⟨hprinted, rfl⟩⟩
    · unfold Delivering at hdelivering
      rcases hbehind : exec (behindRules i a config) p with ⟨f | _, p'⟩
      · rw [hbehind] at hdelivering
        refine .inl ⟨f, p', rfl, p.files, hprepared.spared, ?_⟩
        exact hdelivering.imp_right fun hcut => ⟨config, result, hprepared, hresult, hcut⟩
      · rw [hbehind] at hdelivering
        exact .inr ⟨p', rfl, config, p.files, result, hprepared, hresult, hdelivering⟩

end Step

/-! ## Outcomes -/

open Step

/-- What a run does with its output. -/
structure AllOrNothing (i : Invocation) : Prop where
  /-- Without success nothing is printed, and no file changes but the one in which rules are saved,
  unless writing the result breaks off. -/
  fails : i.outcome.exitCode ≠ 0 → match Arguments.read i.arguments with
    | .error _ => i.outcome.output = .empty ∧ i.outcome.files = i.files
    | .ok a => Undelivered i a i.outcome.output i.outcome.files
  /-- With success, and unless the rules are asked for, the text that the prepared rules make of the
  whole input is written whole in one place. -/
  succeeds : i.outcome.exitCode = 0 → ∀ a, Arguments.read i.arguments = .ok a →
    a.showRules = false → ∃ config files text, Prepared i a config files ∧
      inputText i a files = .ok text ∧
      Delivers i a.output (Whole ((Engine.mk config.toRules).apply text).toUTF8) files
        i.outcome.output i.outcome.files

/-- **The output of a run is all or nothing**, as far as it can be written. -/
theorem outcome_all_or_nothing (i : Invocation) : AllOrNothing i := by
  cases hread : Arguments.read i.arguments with
  | error stop =>
    refine ⟨fun hfail => ?_, fun _ a ha => by rw [hread] at ha; cases ha⟩
    rw [hread]
    cases stop with
    | help => exact absurd (by simp [Invocation.outcome, hread]) hfail
    | misuse e => simp [Invocation.outcome, hread]
  | ok a =>
    have houtcome := outcome_eq hread
    -- the exit code tells which of the two it was
    rcases all_cases i a with ⟨f, p, hexec, hleft⟩ |
      ⟨p, hexec, config, files, result, hprepared, hresult, hdelivers⟩
    · rw [hexec] at houtcome
      refine ⟨fun _ => ?_, fun hok => ?_⟩
      · rw [hread, houtcome]
        exact hleft
      · rw [houtcome] at hok
        exact absurd hok f.exitCode_ne_zero
    · rw [hexec] at houtcome
      refine ⟨fun hfail => ?_, fun _ a' ha' hshow => ?_⟩
      · rw [houtcome] at hfail
        exact absurd rfl hfail
      · rw [hread] at ha'
        cases ha'
        unfold Results at hresult
        unfold destination at hdelivers
        rw [hshow] at hresult hdelivers
        obtain ⟨text, htext, rfl⟩ := hresult
        rw [houtcome]
        exact ⟨config, files, text, hprepared, htext, hdelivers⟩

/-- A run that copies a text, as its rules are none. -/
def copying (output : List String) (media : Media) : Invocation where
  arguments := ["-r", "none.json"] ++ output
  input := "text".toUTF8
  home := "/root"
  files := { entries := [(["none.json"], .file "\x7b\"rules\":[]\x7d".toUTF8),
    (["out.txt"], .file "old".toUTF8), (["dev"], .directory), (["dev", "null"], .file .empty)] }
  now := StoredRuleSet.epoch
  media := media

/-- **A run may succeed and its result is nowhere**, in a file that keeps nothing. It may fail and
have emptied its output file, or have printed a part, where there is no room for all of it. -/
theorem outcome_not_all_or_nothing :
    let null := copying ["-o", "/dev/null"] .usual
    let full := copying ["-o", "out.txt"] ⟨fun _ => { room := some (2, .noSpace) }, none⟩
    let closed := copying [] ⟨fun _ => {}, some (2, .brokenPipe)⟩
    (Config.loadOrBuiltin null.files (some "none.json")).1.toRules.length = 0 ∧
    (Engine.mk []).apply "text" = "text" ∧
    (null.outcome.exitCode = 0 ∧ null.outcome.output = .empty ∧
      (null.outcome.files.read "/dev/null").toOption = some .empty) ∧
    (full.outcome.exitCode = 1 ∧ (full.files.read "out.txt").toOption = some "old".toUTF8 ∧
      (full.outcome.files.read "out.txt").toOption = some "te".toUTF8) ∧
    closed.outcome.exitCode = 1 ∧ closed.outcome.output = "te".toUTF8 := by
  decide +kernel

end FirstClaim.CommandLine
