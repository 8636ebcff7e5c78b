import FirstClaim.Proofs.Store.Directory

/-!
# What a store lists

A store lists the names of all files and directories in it that have the extension, whoever put them
there (`list_ok`). Of the names that it takes, it lists those under which something is found
(`mem_list`); it may list other names, which it refuses (`list_foreign`).
-/

set_option autoImplicit false

namespace FirstClaim.Store

open FileTree

variable {s : Store} {files : FileTree} {place : Location} {name : String} {names : List String}

theorem stem_iff {file : String} :
    Path.nameExtension? file = some "json" ∧ Path.stem file = name ↔
      name ≠ "" ∧ file = name ++ ".json" := by
  have htext : ∀ {cs : List Char} {text : String}, String.ofList cs = text ↔ cs = text.toList :=
    fun {_ _} => ⟨fun h => by rw [← h, String.toList_ofList],
      fun h => by rw [h, String.ofList_toList]⟩
  have hsplit : Path.nameExtension? file = some "json" ∧ Path.stem file = name ↔
      Path.splitName file.toList = (name.toList, some ['j', 's', 'o', 'n']) := by
    simp only [Path.nameExtension?, Path.stem, Prod.ext_iff, Option.map_eq_some_iff, htext]
    rw [and_comm, exists_eq_right]
    rfl
  have hfile : file = name ++ ".json" ↔
      file.toList = name.toList ++ '.' :: ['j', 's', 'o', 'n'] := by
    rw [← String.toList_inj, String.toList_append]
    rfl
  have hempty : name.toList ≠ [] ↔ name ≠ "" := by simp
  have hdot : '.' ∉ ['j', 's', 'o', 'n'] := by decide
  rw [hsplit, Path.splitName_eq_some, hfile, hempty, and_iff_right hdot]

theorem list_eq (hleads : files.resolve s.directory = .ok place)
    (hdirectory : files.node? place = some .directory) :
    s.list files = .ok ((((files.namesAt place).filter fun file =>
      Path.nameExtension? file == some "json").map Path.stem).mergeSort fun a b =>
        decide (a ≤ b)) := by
  unfold list
  rw [namesIn_directory hleads hdirectory]
  rfl

/-- A listing succeeds in a directory only, and names what has the extension there. -/
theorem list_ok (h : s.list files = .ok names) :
    ∃ place, files.resolve s.directory = .ok place ∧ files.node? place = some .directory ∧
      ∀ name, name ∈ names ↔ name ≠ "" ∧ (files.node? (place ++ [name ++ ".json"])).isSome := by
  cases hin : files.namesIn s.directory with
  | error e =>
    unfold list at h
    rw [hin] at h
    cases h
  | ok found =>
    obtain ⟨place, hleads, hdirectory, -⟩ := namesIn_ok hin
    refine ⟨place, hleads, hdirectory, fun name => ?_⟩
    rw [list_eq hleads hdirectory] at h
    rw [← Except.ok.inj h, (List.mergeSort_perm _ _).mem_iff, List.mem_map]
    constructor
    · rintro ⟨file, hfile, hstem⟩
      obtain ⟨hmem, hjson⟩ := List.mem_filter.1 hfile
      obtain ⟨hname, rfl⟩ := stem_iff.1 ⟨beq_iff_eq.1 hjson, hstem⟩
      exact ⟨hname, mem_namesAt.1 hmem⟩
    · rintro ⟨hname, hsome⟩
      obtain ⟨hjson, hstem⟩ := stem_iff.2 ⟨hname, rfl⟩
      exact ⟨_, List.mem_filter.2 ⟨mem_namesAt.2 hsome, beq_iff_eq.2 hjson⟩, hstem⟩

/-- Under a name that a store takes nothing is found only where nothing stands. -/
theorem load_eq_none_iff (hname : isStoreName name = true) :
    s.load files name = .ok none ↔ files.contains (s.path name) = false := by
  unfold load
  rw [checkName_ok_iff.2 hname]
  cases hcontains : files.contains (s.path name) with
  | false => exact iff_of_true rfl rfl
  | true =>
    -- what is found may be no rule set, but then loading fails
    refine iff_of_false (fun h => ?_) (by decide)
    simp only [bind, Except.bind, if_true] at h
    split at h
    · cases h
    · rename_i text _
      cases hparse : StoredRuleSet.parse text with
      | error e =>
        rw [hparse] at h
        cases h
      | ok stored =>
        rw [hparse] at h
        cases h

/-- **Of the names that a store takes, it lists those under which something is found**, be it a rule
set or something that is none. -/
theorem mem_list (hlist : s.list files = .ok names) (hname : isStoreName name = true)
    (hfits : s.Fits name) : name ∈ names ↔ s.load files name ≠ .ok none := by
  obtain ⟨place, hleads, hdirectory, hmem⟩ := list_ok hlist
  have hfile := fileName_json hname hfits.file
  have hcontains := contains_eq (resolve_join hleads hdirectory hfile hfits.path)
    (endsInSlash_join hleads hfile)
  have hload : s.load files name ≠ .ok none ↔
      (files.node? (place ++ [name ++ ".json"])).isSome := by
    rw [Ne, load_eq_none_iff hname, path, hcontains, Bool.not_eq_false]
  rw [hmem, hload]
  exact and_iff_right (isStoreName_iff.1 hname).1

/-- A store with a directory in the place of a file, and a file without the extension. -/
def mixedData : FileTree :=
  ⟨[], [(["data"], .directory), (["data", "rulesets"], .directory),
    (["data", "rulesets", "notes.txt"], .file ⟨#[]⟩),
    (["data", "rulesets", "b_2.json"], .directory)]⟩

theorem mem_list_directory : (below "/data").list mixedData = .ok ["b_2"] ∧
    isStoreName "b_2" = true ∧ (below "/data").Fits "b_2" ∧
      ("b_2" ∈ ["b_2"] ↔ (below "/data").load mixedData "b_2" ≠ .ok none) := by
  have hlist : (below "/data").list mixedData = .ok ["b_2"] := by
    have hleads : mixedData.resolve (below "/data").directory = .ok ["data", "rulesets"] := by
      decide
    rw [list_eq hleads (by decide)]
    exact congrArg Except.ok (List.mergeSort_singleton _)
  have hname : isStoreName "b_2" = true := by decide
  have hfits : (below "/data").Fits "b_2" := ⟨by decide, by decide⟩
  exact ⟨hlist, hname, hfits, mem_list hlist hname hfits⟩

/-- A store with a file that none of its operations makes. -/
def foreignData : FileTree :=
  ⟨[], [(["data"], .directory), (["data", "rulesets"], .directory),
    (["data", "rulesets", "a b.json"], .file ⟨#[]⟩)]⟩

/-- **A listed name may be one that the store refuses.** -/
theorem list_foreign : (below "/data").list foreignData = .ok ["a b"] ∧
    checkName "a b" = .error (.invalidName "a b") ∧
      (below "/data").load foreignData "a b" = .error (.invalidName "a b") := by
  have hname : isStoreName "a b" = false := by decide
  have hcheck := checkName_error hname
  refine ⟨?_, hcheck, ?_⟩
  · have hleads : foreignData.resolve (below "/data").directory = .ok ["data", "rulesets"] := by
      decide
    rw [list_eq hleads (by decide)]
    exact congrArg Except.ok (List.mergeSort_singleton _)
  · unfold load
    rw [hcheck]
    rfl

end FirstClaim.Store
