import FirstClaim.Proofs.CommandLine.Steps
import FirstClaim.Proofs.ConfigFile

/-!
# Rules that are shown and used again

A run that is asked for its rules prints them as a YAML text. A file that holds this text gives the
same rules to a run that is called with it (`yaml_round_trip`).
-/

set_option autoImplicit false

namespace FirstClaim.CommandLine

open FileTree Step

/-! ## One source of rules -/

namespace Reading

variable {r : Reading} {s other : Setting}

theorem mem_used {value : String} (h : r.value? s = some value) : s ∈ r.used := by
  obtain ⟨before, behind, hgiven, -⟩ := List.lookup_eq_some_iff.1 h
  rw [used, hgiven]
  simp

theorem not_mem_used (h : r.conflict? = none) (hs : s ∈ r.used) (hother : other ∈ s.conflicts) :
    other ∉ r.used := by
  intro hmem
  have hnone := List.findSome?_eq_none_iff.1 h s hs
  rw [Option.map_eq_none_iff, List.find?_eq_none] at hnone
  exact hnone other hother (List.contains_iff_mem.2 hmem)

end Reading

/-- **Rules come from a file or from the store**, and never from both. -/
theorem ruleSet_of_rules {arguments : List String} {a : Arguments} {path : String}
    (h : Arguments.read arguments = .ok a) (hrules : a.rules = some path) : a.ruleSet = none := by
  unfold Arguments.read at h
  cases hreading : Reading.readAll {} arguments with
  | error stop =>
    rw [hreading] at h
    cases h
  | ok r =>
    rw [hreading] at h
    cases hconflict : r.conflict? with
    | some e =>
      simp only [bind, Except.bind, hconflict] at h
      cases h
    | none =>
      simp only [bind, Except.bind, hconflict] at h
      cases h
      have hgiven := Reading.not_mem_used hconflict (Reading.mem_used hrules)
        (List.mem_singleton_self Setting.ruleSet)
      cases hstored : r.value? .ruleSet with
      | none => exact hstored
      | some name => exact absurd (Reading.mem_used hstored) hgiven

/-! ## The rules of a run -/

/-- The rules that a run uses: those that it has loaded, under the name that it saves them under. -/
def Invocation.Uses (i : Invocation) (config : Config) : Prop :=
  ∃ a p, Arguments.read i.arguments = .ok a ∧ Gives (prepare i a) ⟨i.files, [], .empty⟩ config p

section

variable {i : Invocation} {a : Arguments}

/-- **A run that is asked for its rules prints those that it uses.** -/
theorem uses_of_showRules (hread : Arguments.read i.arguments = .ok a) (hshow : a.showRules = true)
    (hok : i.outcome.exitCode = 0) :
    ∃ config, i.Uses config ∧ i.outcome.output = (config.render .yaml).toUTF8 := by
  obtain ⟨q, hgives, houtcome⟩ := gives_of_exitCode hread hok
  obtain ⟨config, p, hprepare, hprint⟩ := gives_bind.1 (all_eq i a ▸ hgives)
  rw [behindRules, if_pos hshow, gives_print] at hprint
  obtain ⟨-, rfl⟩ := hprint
  refine ⟨config, ⟨a, p, hread, hprepare⟩, ?_⟩
  rw [houtcome, gives_prepare_printed hprepare]
  exact ByteArray.empty_append

theorem gives_loadRules_file {path : String} {config : Config} (hrules : a.rules = some path)
    (hsource : a.ruleSet = none)
    (hfile : i.files.readText path = .ok (config.render (.ofPath path))) :
    Gives (loadRules i.home a) ⟨i.files, [], .empty⟩ config
      ⟨i.files, [.log (.rulesLoaded path config.rules.length)], .empty⟩ := by
  unfold loadRules loadFile
  rw [hsource, hrules]
  dsimp only
  rw [gives_get, Config.loadOrBuiltin_eq hfile]
  dsimp only
  rw [gives_log, gives_pure]
  exact ⟨rfl, rfl⟩

/-- **A run uses the rules of its file**, under the name that it saves them under, if it does. -/
theorem uses_file {path : String} {config : Config} (hread : Arguments.read i.arguments = .ok a)
    (hrules : a.rules = some path)
    (hfile : i.files.readText path = .ok (config.render (.ofPath path))) :
    (a.saveAs = none → i.Uses config) ∧ ∀ c, i.Uses c → c = named a config := by
  have hload := gives_loadRules_file hrules (ruleSet_of_rules hread hrules) hfile
  refine ⟨fun hsave => ?_, ?_⟩
  · have hkeep : saveRules i a config = pure config := by
      unfold saveRules
      rw [hsave]
    exact ⟨a, _, hread, gives_bind.2 ⟨config, _, hload, hkeep ▸ gives_pure.2 ⟨rfl, rfl⟩⟩⟩
  · rintro c ⟨a', p, hread', hprepare⟩
    cases hread.symm.trans hread'
    obtain ⟨loaded, q, hload', hsave⟩ := gives_bind.1 hprepare
    cases hload.symm.trans hload'
    exact (gives_saveRules hsave).1

end

/-- **Rules in YAML read back as they were written.** So a file that holds what a run has printed
that was asked for its rules gives these rules to another run, which uses them as they are unless
it saves them under a name. -/
theorem yaml_round_trip :
    (∀ c : Config, Config.parse .yaml (c.render .yaml) = .ok c) ∧
      ∀ (shown again : Invocation) (a b : Arguments) (path : String),
        Arguments.read shown.arguments = .ok a → a.showRules = true → shown.outcome.exitCode = 0 →
        Arguments.read again.arguments = .ok b → b.rules = some path →
        ConfigFormat.ofPath path = .yaml → again.files.read path = .ok shown.outcome.output →
        ∃ config, shown.Uses config ∧ (b.saveAs = none → again.Uses config) ∧
          ∀ c, again.Uses c → c = named b config := by
  refine ⟨Config.parse_render .yaml, fun shown again a b path hshown hshow hok hagain hrules
    hformat hfile => ?_⟩
  obtain ⟨config, huses, houtput⟩ := uses_of_showRules hshown hshow hok
  rw [houtput, ← hformat] at hfile
  exact ⟨config, huses, uses_file hagain hrules (readText_of_read hfile)⟩

/-- The built-in rules are shown, written into `rules.yaml` and used from there. -/
theorem yaml_round_trip_builtin :
    let shown : Invocation :=
      { arguments := ["--show-rules"], input := .empty, home := "/root", files := {},
        now := StoredRuleSet.epoch }
    ∃ files, shown.files.write "rules.yaml" shown.outcome.output = .ok files ∧
      ∃ config, shown.Uses config ∧
        { shown with arguments := ["--rules", "rules.yaml"], files }.Uses config := by
  intro shown
  have hshown : Arguments.read shown.arguments = .ok { showRules := true } := by
    decide +kernel
  have hok : shown.outcome.exitCode = 0 := by
    decide +kernel
  have hagain : Arguments.read ["--rules", "rules.yaml"] = .ok { rules := some "rules.yaml" } := by
    decide +kernel
  have hformat : ConfigFormat.ofPath "rules.yaml" = .yaml := by
    decide +kernel
  have hpath : shown.files.resolve "rules.yaml" = .ok ["rules.yaml"] := by
    decide +kernel
  have hwrite := write_file hpath (by decide) nofun shown.outcome.output
  refine ⟨_, hwrite, ?_⟩
  obtain ⟨config, huses, hsame, -⟩ := yaml_round_trip.2 shown
    { shown with arguments := ["--rules", "rules.yaml"], files := _ } _ _ _ hshown rfl hok hagain
    rfl hformat (read_of_write hwrite).1
  exact ⟨config, huses, hsame rfl⟩

end FirstClaim.CommandLine
