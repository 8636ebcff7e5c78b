import FirstClaim.Proofs.CommandLine.AllOrNothing

/-!
# What a run tells of its files

No file changes in secret, where there is room for all that is written. Where a run changes a file,
it tells that it saved rules under the name of the file or that it wrote its output there
(`outcome_told`); and it takes no directory away. It tells so only if its arguments ask for it
(`told_asked`).
-/

set_option autoImplicit false

namespace FirstClaim.CommandLine

open FileTree

namespace Step

variable {i : Invocation} {a : Arguments} {p : Progress} {config : Config}

/-! ## Saving and writing -/

theorem leadsTo_path (t : FileTree) (d : DataDirectory) {name : String}
    (hname : isStoreName name = true) :
    t.leadsTo (d.store.path name) = t.leadsTo d.root ++ ["rulesets", name ++ ".json"] :=
  Store.leadsTo_path t d.root hname

theorem keeps_write {t t' : FileTree} {path : String} {content : ByteArray}
    (h : t.write path content = .ok t') : Keeps t t' := by
  obtain ⟨place, -, -, hnode, rfl⟩ := write_ok h
  exact keeps_put hnode _

theorem Prepared.keeps {files : FileTree} (h : Prepared i a config files) :
    Keeps i.files files := by
  obtain ⟨loaded, rules, hextends, -, -, hsaved⟩ := h
  unfold Saved at hsaved
  cases hname : a.saveAs with
  | none =>
    rw [hname] at hsaved
    obtain rfl := hsaved
    exact hextends.keeps
  | some name =>
    rw [hname] at hsaved
    obtain ⟨opened, hopened, -, hsave⟩ := hsaved
    exact (hextends.trans hopened).keeps.trans (keeps_write (Store.saveOn_ok hsave).2.2)

/-- The file that changes when rules are prepared has the name that they are saved under. -/
theorem Prepared.told {files : FileTree} (h : Prepared i a config files) (place : Location) :
    files.node? place = i.files.node? place ∨
      (i.files.node? place = none ∧ files.node? place = some .directory) ∨
      ∃ name rules directory, Message.log (.saved name rules) ∈ savingMessages a config ∧
        place = directory ++ [name ++ ".json"] := by
  refine (h.spared place).imp_right (Or.imp_right ?_)
  rintro ⟨name, hname, rfl⟩
  obtain ⟨loaded, rules, -, -, -, hsaved⟩ := h
  unfold Saved at hsaved
  rw [hname] at hsaved
  obtain ⟨opened, -, -, hsave⟩ := hsaved
  have hplace := leadsTo_path i.files (dataDirectory i.home a) (Store.saveOn_ok hsave).1
  refine ⟨name, config.rules.length, i.files.leadsTo (dataDirectory i.home a).root ++ ["rulesets"],
    ?_, ?_⟩
  · simp [savingMessages, hname]
  · rw [hplace, List.append_assoc]
    rfl

theorem applying_cases {text : String} {e : LogEvent} (h : .log e ∈ applyingMessages config text) :
    (∃ name rules, e = .engineBuilt name rules) ∨ (∃ s, e = .ruleSkipped s) ∨
      ∃ rules claims skipped, e = .transformed rules claims skipped := by
  unfold applyingMessages at h
  simp only [List.cons_append, List.mem_cons, List.mem_append, List.mem_map, Message.log.injEq] at h
  rcases h with rfl | ⟨s, -, rfl⟩ | h
  · exact .inl ⟨_, _, rfl⟩
  · exact .inr (.inl ⟨s, rfl⟩)
  · split at h
    · exact .inr (.inr ⟨_, _, _, Message.log.inj (List.mem_singleton.1 h)⟩)
    · cases h

theorem level_of_applying {text : String} {e : LogEvent}
    (h : .log e ∈ applyingMessages config text) : e.level ≠ .info := by
  obtain ⟨name, rules, rfl⟩ | ⟨s, rfl⟩ | ⟨rules, claims, skipped, rfl⟩ := applying_cases h <;> nofun

/-- Behind its rules, a run tells of its output file if there is one, and of no other. -/
theorem behindRules_asked (i : Invocation) (a : Arguments) (config : Config) (p : Progress)
    {e : LogEvent} (hlevel : e.level = .info)
    (hmem : .log e ∈ (exec (behindRules i a config) p).2.messages) :
    .log e ∈ p.messages ∨ ∃ path, a.output = some path ∧ e = .outputWritten path := by
  cases hshow : a.showRules with
  | true =>
    rw [exec_behindRules_showRules hshow, exec_print] at hmem
    exact .inl hmem
  | false =>
    rw [exec_behindRules hshow] at hmem
    cases htext : inputText i a p.files with
    | error e =>
      rw [htext] at hmem
      exact .inl hmem
    | ok text =>
      rw [htext] at hmem
      dsimp only at hmem
      -- what is told in between is of no file
      have hbetween : ∀ {ms : List Message}, .log e ∈ ms ++ (applyingMessages config text ++
          reportMessages i a config text) → .log e ∈ ms := by
        intro ms h
        rcases List.mem_append.1 h with h | h
        · exact h
        · rcases List.mem_append.1 h with h | h
          · exact absurd hlevel (level_of_applying h)
          · unfold reportMessages at h
            split at h
            · cases List.mem_singleton.1 h
            · cases h
      cases houtput : a.output with
      | none =>
        rw [houtput, exec_writeOutput_none] at hmem
        exact .inl (hbetween hmem)
      | some path =>
        rw [houtput, exec_writeOutput_some] at hmem
        dsimp only at hmem
        split at hmem
        · rcases List.mem_append.1 hmem with h | h
          · exact .inl (hbetween h)
          · exact .inr ⟨path, rfl, Message.log.inj (List.mem_singleton.1 h)⟩
        · exact .inl (hbetween hmem)

/-- Behind its rules, a run changes at most its output file, and tells so. -/
theorem behindRules_told (hroomy : ∀ place, (i.media.file place).room = none) (a : Arguments)
    (config : Config) (p : Progress) :
    p.messages <+: (exec (behindRules i a config) p).2.messages ∧
      ((exec (behindRules i a config) p).2.files = p.files ∨ ∃ path content,
        p.files.write path content = .ok (exec (behindRules i a config) p).2.files ∧
        Message.log (.outputWritten path) ∈ (exec (behindRules i a config) p).2.messages) := by
  cases hshow : a.showRules with
  | true =>
    rw [exec_behindRules_showRules hshow, exec_print]
    exact ⟨List.prefix_rfl, .inl rfl⟩
  | false =>
    rw [exec_behindRules hshow]
    cases inputText i a p.files with
    | error e => exact ⟨List.prefix_rfl, .inl rfl⟩
    | ok text =>
      dsimp only
      cases a.output with
      | none =>
        rw [exec_writeOutput_none]
        exact ⟨List.prefix_append _ _, .inl rfl⟩
      | some path =>
        rw [exec_writeOutput_some]
        obtain ⟨e, hrefused⟩ | ⟨m, written, rfl, hwrite, hrun⟩ :=
          p.files.writeOn_cases i.media path (reportOf config text).output.toUTF8
        · dsimp only
          rw [hrefused]
          exact ⟨List.prefix_append _ _, .inl rfl⟩
        · dsimp only
          rw [hrun, hroomy]
          dsimp only [Room.result]
          rw [List.append_assoc]
          exact ⟨List.prefix_append _ _, .inr ⟨path, _, hwrite, by simp⟩⟩

end Step

/-! ## Outcomes -/

open Step

/-- What a run tells of the files that it changes. -/
structure Told (i : Invocation) (files : FileTree) (messages : List Message) : Prop where
  keeps : Keeps i.files files
  node : ∀ place, files.node? place = i.files.node? place ∨
    (i.files.node? place = none ∧ files.node? place = some .directory) ∨
    (∃ name rules directory, Message.log (.saved name rules) ∈ messages ∧
      place = directory ++ [name ++ ".json"]) ∨
    ∃ path, Message.log (.outputWritten path) ∈ messages ∧ place = i.files.leadsTo path

theorem Told.of_extends {i : Invocation} {files : FileTree} (h : Extends i.files files)
    (messages : List Message) : Told i files messages :=
  ⟨h.keeps, fun place => (h.node place).imp_right .inl⟩

/-- Saving is told, and so is the writing of the output. -/
theorem told_exec {i : Invocation} (hroomy : ∀ place, (i.media.file place).room = none)
    (a : Arguments) :
    Told i (exec (all i a) ⟨i.files, [], .empty⟩).2.files (exec (all i a) ⟨i.files, [], .empty⟩).2.messages := by
  rw [exec_all]
  rcases prepare_cases i a with ⟨f, p', hexec, hleft⟩ | ⟨config, p, hexec, hprepared, -, events, -,
    hevents⟩
  · rw [hexec]
    exact .of_extends (hleft.roomy hroomy) _
  · rw [hexec]
    have hsaving : savingMessages a config <:+ p.messages := ⟨_, hevents.symm⟩
    obtain ⟨hmessages, hfiles⟩ := behindRules_told hroomy a config p
    have hsaid : ∀ m ∈ savingMessages a config, m ∈ (exec (behindRules i a config) p).2.messages :=
      fun m hm => hmessages.subset (hsaving.subset hm)
    have htold : ∀ place, p.files.node? place = i.files.node? place ∨
        (i.files.node? place = none ∧ p.files.node? place = some .directory) ∨
        (∃ name rules directory,
          Message.log (.saved name rules) ∈ (exec (behindRules i a config) p).2.messages ∧
          place = directory ++ [name ++ ".json"]) := by
      intro place
      refine (hprepared.told place).imp_right (Or.imp_right ?_)
      rintro ⟨name, rules, directory, hmem, hplace⟩
      exact ⟨name, rules, directory, hsaid _ hmem, hplace⟩
    rcases hfiles with hsame | ⟨path, content, hwrite, hmem⟩
    · refine ⟨hsame ▸ hprepared.keeps, fun place => ?_⟩
      rw [hsame]
      exact (htold place).imp_right (Or.imp_right .inl)
    · refine ⟨hprepared.keeps.trans (keeps_write hwrite), fun place => ?_⟩
      obtain ⟨-, written, hpath, hother⟩ := read_of_write hwrite
      by_cases hplace : place = written
      · refine .inr (.inr (.inr ⟨path, hmem, ?_⟩))
        rw [hplace, resolve_ok hpath, leadsTo_congr hprepared.keeps.current]
      · rw [hother place hplace]
        exact (htold place).imp_right (Or.imp_right .inl)

/-- **What a run tells of files is what its arguments ask for.** -/
theorem told_asked {i : Invocation} {a : Arguments} (hread : Arguments.read i.arguments = .ok a)
    {e : LogEvent} (hlevel : e.level = .info) (hmem : .log e ∈ i.outcome.messages) :
    (∃ name rules, a.saveAs = some name ∧ e = .saved name rules) ∨
      ∃ path, a.output = some path ∧ e = .outputWritten path := by
  have hall : .log e ∈ (exec (all i a) ⟨i.files, [], .empty⟩).2.messages := by
    rw [outcome_eq hread] at hmem
    split at hmem
    · rename_i hexec
      rw [hexec]
      exact (List.mem_filter.1 hmem).1
    · rename_i hexec
      rw [hexec]
      rcases List.mem_append.1 hmem with h | h
      · exact (List.mem_filter.1 h).1
      · cases List.mem_singleton.1 h
  rw [exec_all] at hall
  -- before anything is saved only warnings and what is for debugging are told
  have hidle : ∀ {events : List LogEvent}, (∀ e ∈ events, e.level ≠ .info) →
      .log e ∉ events.map Message.log := by
    intro events hevents h
    obtain ⟨e', he', heq⟩ := List.mem_map.1 h
    exact hevents e' he' (Message.log.inj heq ▸ hlevel)
  rcases prepare_cases i a with ⟨f, p, hexec, -, -, -, events, hevents, hmessages⟩ |
    ⟨config, p, hexec, -, -, events, hevents, hmessages⟩
  · rw [hexec] at hall
    dsimp only at hall
    rw [hmessages] at hall
    exact absurd hall (hidle hevents)
  · rw [hexec] at hall
    refine (behindRules_asked i a config p hlevel hall).imp_left fun h => ?_
    rw [hmessages] at h
    have hsaving := (List.mem_append.1 h).resolve_left (hidle hevents)
    unfold savingMessages at hsaving
    cases hname : a.saveAs with
    | none => simp [hname] at hsaving
    | some name =>
      simp only [hname, List.mem_cons, Message.log.injEq, List.not_mem_nil, or_false] at hsaving
      rcases hsaving with rfl | rfl
      · cases hlevel
      · exact ⟨name, config.rules.length, rfl, rfl⟩

/-- **No file changes in secret.** -/
theorem outcome_told {i : Invocation} (hroomy : ∀ place, (i.media.file place).room = none) :
    Told i i.outcome.files i.outcome.messages := by
  cases hread : Arguments.read i.arguments with
  | error stop =>
    have hfiles : i.outcome.files = i.files := by
      cases stop <;> simp [Invocation.outcome, hread]
    rw [hfiles]
    exact .of_extends (.refl _) _
  | ok a =>
    have htold := told_exec hroomy a
    -- what is told of files is shown in any case
    have hshown : ∀ e : LogEvent, e.level ≠ .debug →
        .log e ∈ (exec (all i a) ⟨i.files, [], .empty⟩).2.messages → .log e ∈ i.outcome.messages := by
      intro e hlevel hmem
      have hfilter : Message.log e ∈
          (exec (all i a) ⟨i.files, [], .empty⟩).2.messages.filter (·.isShown a.verbose) :=
        List.mem_filter.2 ⟨hmem, by simp [Message.isShown, hlevel]⟩
      rw [outcome_eq hread]
      split
      · rename_i hexec
        rwa [hexec] at hfilter
      · rename_i hexec
        rw [hexec] at hfilter
        exact List.mem_append_left _ hfilter
    have hfiles : i.outcome.files = (exec (all i a) ⟨i.files, [], .empty⟩).2.files := by
      rw [outcome_eq hread]
      split <;> rename_i hexec <;> rw [hexec]
    have hinfo : Level.info ≠ .debug := by decide
    rw [hfiles]
    refine ⟨htold.keeps, fun place => (htold.node place).imp_right (Or.imp_right ?_)⟩
    rintro (⟨name, rules, directory, hmem, hplace⟩ | ⟨path, hmem, hplace⟩)
    · exact .inl ⟨name, rules, directory, hshown _ hinfo hmem, hplace⟩
    · exact .inr ⟨path, hshown _ hinfo hmem, hplace⟩

end FirstClaim.CommandLine
