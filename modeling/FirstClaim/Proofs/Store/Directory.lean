import FirstClaim.Proofs.Store.History
import FirstClaim.Proofs.Store.Names
import FirstClaim.Proofs.StoredRuleSet

/-!
# A store as a map from names to rule sets

A store keeps its directory in such a state that each name has the file that the contents say
(`Store.Holds`). Each operation keeps it so and gives the answer that the contents say
(`Holds.save`, `Holds.remove`, `Holds.load`, `Holds.list`); a new store in an empty directory holds
nothing (`holds_create`). The main statement is `below_behaves`.
-/

set_option autoImplicit false

namespace FirstClaim.Store

open FileTree

/-! ## The state of the directory -/

/-- The file that a rule set is stored in. -/
def storedFile (entry : Config × Timestamp) : FirstClaim.Node :=
  .file (StoredRuleSet.ofConfig entry.1 entry.2).render.toUTF8

/-- The name of a rule set is short enough for its file. -/
structure Fits (s : Store) (name : String) : Prop where
  file : (name ++ ".json").utf8ByteSize ≤ longestName
  path : (s.path name).utf8ByteSize ≤ longestPath

/-- The directory of a store stands at `place` and has the files of the contents and no others. -/
structure Holds (s : Store) (place : Location) (files : FileTree) (c : Contents) : Prop where
  leads : files.resolve s.directory = .ok place
  directory : files.node? place = some .directory
  stored : ∀ name, isStoreName name = true →
    files.node? (place ++ [name ++ ".json"]) = (c name).map storedFile
  named : ∀ file ∈ files.namesAt place, ∃ name, isStoreName name = true ∧ file = name ++ ".json"
  distinct : (files.namesAt place).Nodup

variable {s : Store} {place : Location} {files : FileTree} {c : Contents} {name : String}

namespace Holds

theorem congr (h : Holds s place files c) {c' : Contents}
    (hc : ∀ name, isStoreName name = true → c' name = c name) : Holds s place files c' :=
  ⟨h.leads, h.directory, fun name hname => by rw [h.stored name hname, hc name hname], h.named,
    h.distinct⟩

theorem resolve_path (h : Holds s place files c) (hname : isStoreName name = true)
    (hfits : s.Fits name) : files.resolve (s.path name) = .ok (place ++ [name ++ ".json"]) :=
  resolve_join h.leads h.directory (fileName_json hname hfits.file) hfits.path

theorem endsInSlash_path (h : Holds s place files c) (hname : isStoreName name = true)
    (hfits : s.Fits name) : Path.endsInSlash (s.path name) = false :=
  endsInSlash_join h.leads (fileName_json hname hfits.file)

theorem node?_ne_directory (h : Holds s place files c) (hname : isStoreName name = true) :
    files.node? (place ++ [name ++ ".json"]) ≠ some .directory := by
  rw [h.stored name hname]
  cases c name with
  | none => exact nofun
  | some entry => exact nofun

theorem contains_path (h : Holds s place files c) (hname : isStoreName name = true)
    (hfits : s.Fits name) : files.contains (s.path name) = (c name).isSome := by
  rw [contains_eq (h.resolve_path hname hfits) (h.endsInSlash_path hname hfits),
    h.stored name hname, Option.isSome_map]

/-! ## What the operations do -/

/-- **What is loaded is what the contents say**, with its fingerprint. -/
theorem load (h : Holds s place files c) (hname : isStoreName name = true) (hfits : s.Fits name) :
    s.load files name = .ok ((c name).map fun e => StoredRuleSet.ofConfig e.1 e.2) := by
  have hnode := h.stored name hname
  have hcontains := h.contains_path hname hfits
  cases hentry : c name with
  | none =>
    rw [hentry] at hcontains
    unfold Store.load
    rw [checkName_ok_iff.2 hname]
    simp only [bind, Except.bind, hcontains]
    rfl
  | some entry =>
    rw [hentry] at hcontains hnode
    have hread := readText_file (h.resolve_path hname hfits) (h.endsInSlash_path hname hfits) hnode
    exact load_stored hname hcontains hread

theorem place_ne {other : String} (hother : other ≠ name) :
    place ++ [other ++ ".json"] ≠ place ++ [name ++ ".json"] := by
  intro heq
  have hlast := List.append_cancel_left heq
  rw [List.singleton_inj, String.append_left_inj] at hlast
  exact hother hlast

/-- A tree in which only the file under one name is another one holds the contents with that name
changed. -/
theorem replace (h : Holds s place files c) {files' : FileTree} (hkeeps : Keeps files files')
    (entry : Option (Config × Timestamp))
    (hself : files'.node? (place ++ [name ++ ".json"]) = entry.map storedFile)
    (hother : ∀ q, q ≠ place ++ [name ++ ".json"] → files'.node? q = files.node? q)
    (hnamed : ∀ file ∈ files'.namesAt place,
      ∃ name, isStoreName name = true ∧ file = name ++ ".json")
    (hdistinct : (files'.namesAt place).Nodup) :
    Holds s place files' fun other => if other = name then entry else c other := by
  refine ⟨hkeeps.resolve h.leads, hkeeps.directory _ h.directory, fun other hvalid => ?_, hnamed,
    hdistinct⟩
  by_cases hsame : other = name
  · subst other
    rw [hself, if_pos rfl]
  · rw [hother _ (place_ne hsame), h.stored other hvalid, if_neg hsame]

/-- **Saving puts the rule set under its name** and leaves the other names as they are. -/
theorem save (h : Holds s place files c) (hname : isStoreName name = true) (hfits : s.Fits name)
    (config : Config) (now : Timestamp) :
    ∃ files', s.save files name config now = .ok files' ∧
      Holds s place files' ((Operation.save name config now).change c) := by
  have hdir := h.node?_ne_directory hname
  have hkeeps := keeps_put hdir (storedFile (config, now))
  refine ⟨files.put (place ++ [name ++ ".json"]) (storedFile (config, now)), ?_,
    h.replace hkeeps (some (config, now)) (node?_put_self _ _ (by simp))
      (fun q hq => node?_put_other _ _ hq) (fun file hfile => ?_) ?_⟩
  · unfold Store.save
    rw [checkName_ok_iff.2 hname]
    simp only [bind, Except.bind, write_file (h.resolve_path hname hfits)
      (h.endsInSlash_path hname hfits) hdir]
    rfl
  · rw [namesAt_put] at hfile
    rcases List.mem_cons.1 hfile with rfl | hfile
    · exact ⟨name, hname, rfl⟩
    · exact h.named file (List.mem_filter.1 hfile).1
  · rw [namesAt_put]
    exact List.nodup_cons.2 ⟨by simp, h.distinct.filter _⟩

/-- **Removing takes away what is under the name**, if there is anything, and leaves the other
names as they are. -/
theorem remove (h : Holds s place files c) (hname : isStoreName name = true)
    (hfits : s.Fits name) : ∃ files', s.remove files name = .ok files' ∧
      Holds s place files' ((Operation.remove name).change c) := by
  have hnode := h.stored name hname
  unfold Store.remove
  rw [checkName_ok_iff.2 hname]
  simp only [bind, Except.bind, h.contains_path hname hfits]
  cases hentry : c name with
  | none =>
    -- there is no file, and the contents do not change either
    refine ⟨files, rfl, h.congr fun other _ => ?_⟩
    by_cases hsame : other = name
    · subst other
      simp [Operation.change, hentry]
    · simp [Operation.change, hsame]
  | some entry =>
    rw [hentry] at hnode
    have hkeeps := keeps_erase (h.node?_ne_directory hname)
    refine ⟨files.erase (place ++ [name ++ ".json"]), ?_,
      h.replace hkeeps none (node?_erase_self _ (by simp))
        (fun q hq => node?_erase_other _ hq) (fun file hfile => ?_) ?_⟩
    · rw [if_pos Option.isSome_some, removeFile_file (h.resolve_path hname hfits)
        (h.endsInSlash_path hname hfits) hnode]
      rfl
    · rw [namesAt_erase] at hfile
      exact h.named file (List.mem_filter.1 hfile).1
    · rw [namesAt_erase]
      exact h.distinct.filter _

theorem mem_stems (h : Holds s place files c) :
    name ∈ (files.namesAt place).map Path.stem ↔
      isStoreName name = true ∧ (c name).isSome = true := by
  have hfile : isStoreName name = true →
      (name ++ ".json" ∈ files.namesAt place ↔ (c name).isSome = true) := by
    intro hname
    rw [mem_namesAt, h.stored name hname, Option.isSome_map]
  constructor
  · intro hmem
    obtain ⟨file, hfiles, hstem⟩ := List.mem_map.1 hmem
    obtain ⟨other, hother, rfl⟩ := h.named file hfiles
    rw [(splitName_json hother).1] at hstem
    subst other
    exact ⟨hother, (hfile hother).1 hfiles⟩
  · rintro ⟨hname, hsome⟩
    exact List.mem_map.2 ⟨name ++ ".json", (hfile hname).2 hsome, (splitName_json hname).1⟩

theorem nodup_stems (h : Holds s place files c) :
    ((files.namesAt place).map Path.stem).Nodup := by
  refine List.pairwise_map.2 (h.distinct.imp_of_mem fun {a b} ha hb hne hstem => hne ?_)
  obtain ⟨name, hname, rfl⟩ := h.named a ha
  obtain ⟨other, hother, rfl⟩ := h.named b hb
  rw [(splitName_json hname).1, (splitName_json hother).1] at hstem
  rw [hstem]

/-- **What is listed are the names of the contents**, each once and in the order of their bytes. -/
theorem list (h : Holds s place files c) :
    ∃ names, s.list files = .ok names ∧
      names.Pairwise (fun a b => textBytes a < textBytes b) ∧
      ∀ name, name ∈ names ↔ isStoreName name = true ∧ (c name).isSome = true := by
  have hperm := List.mergeSort_perm ((files.namesAt place).map Path.stem)
    fun a b => decide (a ≤ b)
  have hmem : ∀ name, name ∈ ((files.namesAt place).map Path.stem).mergeSort
      (fun a b => decide (a ≤ b)) ↔ isStoreName name = true ∧ (c name).isSome = true :=
    fun name => hperm.mem_iff.trans h.mem_stems
  refine ⟨_, ?_, ?_, hmem⟩
  · have hjson : (files.namesAt place).filter
        (fun file => Path.nameExtension? file == some "json") = files.namesAt place := by
      refine List.filter_eq_self.2 fun file hfile => ?_
      obtain ⟨name, hname, rfl⟩ := h.named file hfile
      rw [(splitName_json hname).2]
      rfl
    unfold Store.list
    rw [namesIn_directory h.leads h.directory]
    simp only [Except.mapError, bind, Except.bind, hjson]
  · have hsorted := sorted_mergeSort ((files.namesAt place).map Path.stem)
    have hascii : ∀ {name}, isStoreName name = true → ∀ d ∈ name.toList, d.val ≤ 127 :=
      fun hname d hd => val_le_of_isNameChar ((isStoreName_iff.1 hname).2 d hd)
    -- sorted gives no more than `≤`; that no name comes twice makes it strict
    have hboth := List.pairwise_and_iff.2 ⟨hsorted, hperm.nodup_iff.2 h.nodup_stems⟩
    refine hboth.imp_of_mem fun {a b} ha hb hab => ?_
    exact textBytes_lt (hascii ((hmem a).1 ha).1) (hascii ((hmem b).1 hb).1)
      (Std.lt_of_le_of_ne hab.1 hab.2)

end Holds

/-! ## Histories -/

/-- The names that a store takes in an operation are short enough. -/
def Admits (s : Store) (op : Operation) : Prop :=
  ∀ name, op.name? = some name → isStoreName name = true → s.Fits name

/-- **A name that may not be used is refused**, and nothing changes. -/
theorem perform_refused (files : FileTree) {op : Operation} (hop : op.name? = some name)
    (hname : isStoreName name = false) :
    s.perform files op = (.error (.invalidName name), files) := by
  have hcheck := checkName_error hname
  cases op with
  | save other config now =>
    cases hop
    simp [perform, Store.save, hcheck, changed, bind, Except.bind]
  | load other =>
    cases hop
    simp [perform, Store.load, hcheck, Except.map, bind, Except.bind]
  | remove other =>
    cases hop
    simp [perform, Store.remove, hcheck, changed, bind, Except.bind]
  | list => cases hop

/-- A refused operation only changes the contents under a name that is refused. -/
theorem change_refused {op : Operation} (hop : op.name? = some name)
    (hname : isStoreName name = false) {other : String} (hother : isStoreName other = true) :
    op.change c other = c other := by
  have hne : other ≠ name := by
    rintro rfl
    rw [hname] at hother
    cases hother
  cases op with
  | save n config now =>
    cases hop
    exact if_neg hne
  | load n => rfl
  | remove n =>
    cases hop
    exact if_neg hne
  | list => rfl

/-- **One operation makes of the directory what it makes of the contents.** -/
theorem Holds.perform (h : Holds s place files c) {op : Operation} (hop : s.Admits op) :
    Holds s place (s.perform files op).2 (op.change c) := by
  -- the contents follow the history, so they may change under a name that is refused
  by_cases hrefused : ∃ name, op.name? = some name ∧ isStoreName name = false
  · obtain ⟨name, hsome, hname⟩ := hrefused
    rw [perform_refused files hsome hname]
    exact h.congr fun other hother => change_refused hsome hname hother
  · have hvalid : ∀ name, op.name? = some name → isStoreName name = true := by
      intro name hsome
      rw [← Bool.not_eq_false]
      exact fun hname => hrefused ⟨name, hsome, hname⟩
    cases op with
    | save name config now =>
      obtain ⟨files', hsave, hholds⟩ := h.save (hvalid name rfl) (hop name rfl (hvalid name rfl))
        config now
      rw [Store.perform, hsave]
      exact hholds
    | load name => exact h
    | remove name =>
      obtain ⟨files', hremove, hholds⟩ := h.remove (hvalid name rfl)
        (hop name rfl (hvalid name rfl))
      rw [Store.perform, hremove]
      exact hholds
    | list => exact h

/-- **Operations in turn make of the directory what they make of the contents.** -/
theorem Holds.run (h : Holds s place files c) {ops : List Operation}
    (hops : ∀ op ∈ ops, s.Admits op) :
    Holds s place (s.run files ops) (ops.foldl (fun c op => op.change c) c) := by
  induction ops generalizing files c with
  | nil => exact h
  | cons op ops ih =>
    exact ih (h.perform (hops op (.head _))) fun op' hop' => hops op' (.tail _ hop')

/-! ## The behaviour of a store -/

/-- What a store answers after a history: it refuses a name that may not be used and changes
nothing, it finds under a name what stands there and nothing else, and it lists the names under
which something stands. -/
structure Behaves (s : Store) (files : FileTree) (ops : List Operation) : Prop where
  refuses : ∀ op name, op.name? = some name → isStoreName name = false →
    s.perform files op = (.error (.invalidName name), files)
  saves : ∀ name config now, isStoreName name = true → s.Fits name →
    (s.perform files (.save name config now)).1 = .ok .done
  removes : ∀ name, isStoreName name = true → s.Fits name →
    (s.perform files (.remove name)).1 = .ok .done
  misses : ∀ name, isStoreName name = true → s.Fits name →
    (s.perform files (.load name) = (.ok (.found none), files) ↔
      ¬ ∃ config now, Stands ops name config now)
  finds : ∀ name config now, isStoreName name = true → s.Fits name → Stands ops name config now →
    ∃ stored, s.perform files (.load name) = (.ok (.found (some stored)), files) ∧
      stored.config = config ∧ stored.savedAt = now ∧
      stored.fingerprint = config.fingerprint ∧ stored.isIntact = true
  lists : ∃ names, s.perform files .list = (.ok (.names names), files) ∧
    names.Pairwise (fun a b => textBytes a < textBytes b) ∧
    ∀ name, name ∈ names ↔ isStoreName name = true ∧ ∃ config now, Stands ops name config now

theorem Holds.behaves {ops : List Operation} (h : Holds s place files (contents ops)) :
    s.Behaves files ops where
  refuses _ _ hop hname := perform_refused files hop hname
  saves name config now hname hfits := by
    obtain ⟨files', hsave, -⟩ := h.save hname hfits config now
    rw [Store.perform, hsave]
    rfl
  removes name hname hfits := by
    obtain ⟨files', hremove, -⟩ := h.remove hname hfits
    rw [Store.perform, hremove]
    rfl
  misses name hname hfits := by
    rw [Store.perform, h.load hname hfits, ← contents_eq_none_iff]
    cases contents ops name with
    | none => simp [Except.map]
    | some entry => simp [Except.map]
  finds name config now hname hfits hstands := by
    have hentry := contents_eq_some_iff.2 hstands
    rw [Store.perform, h.load hname hfits, hentry]
    exact ⟨_, rfl, rfl, rfl, rfl, StoredRuleSet.isIntact_ofConfig config now⟩
  lists := by
    obtain ⟨names, hlist, hsorted, hmem⟩ := h.list
    refine ⟨names, ?_, hsorted, fun name => ?_⟩
    · rw [Store.perform, hlist]
      rfl
    · rw [hmem, isSome_contents_iff]

/-! ## New stores -/

/-- A path leads to a directory, whose place is `base`, and nothing stands in it. -/
structure EmptyAt (files : FileTree) (path : String) (base : Location) : Prop where
  leads : files.resolve path = .ok base
  directory : files.node? base = some .directory
  empty : ∀ e ∈ files.entries, base <+: e.1 → e.1 = base

theorem EmptyAt.node?_eq_none {path : String} {base : Location} (h : EmptyAt files path base)
    {names : List String} (hnames : names ≠ []) : files.node? (base ++ names) = none := by
  rw [node?, if_neg (by simp [hnames]), List.lookup_eq_none_iff]
  intro e he
  rw [bne_iff_ne]
  intro heq
  have hbase := h.empty e he (heq ▸ List.prefix_append base names)
  rw [← heq] at hbase
  exact hnames (List.append_right_eq_self.1 hbase)

theorem fileName_rulesets : FileName "rulesets" :=
  ⟨by decide, by decide, by decide, by decide, by decide, by decide⟩

theorem holds_create {parent : String} {base : Location} (hempty : EmptyAt files parent base)
    (hpath : (below parent).directory.utf8ByteSize ≤ longestPath) :
    ∃ start, (below parent).create files = .ok start ∧
      Holds (below parent) (base ++ ["rulesets"]) start fun _ => none := by
  have hnone : files.node? (base ++ ["rulesets"]) = none :=
    hempty.node?_eq_none (List.cons_ne_nil _ _)
  have hnode : files.node? (base ++ ["rulesets"]) ≠ some .directory := by
    rw [hnone]
    exact nofun
  have hkeeps := keeps_put hnode .directory
  have hbelow : ∀ name, (files.put (base ++ ["rulesets"]) .directory).node?
      (base ++ ["rulesets"] ++ [name]) = none := by
    intro name
    rw [node?_put_other _ _ (by simp), List.append_assoc]
    exact hempty.node?_eq_none (List.cons_ne_nil _ _)
  have hnames : (files.put (base ++ ["rulesets"]) .directory).namesAt (base ++ ["rulesets"]) =
      [] := by
    refine List.eq_nil_iff_forall_not_mem.2 fun name hmem => ?_
    rw [mem_namesAt, hbelow] at hmem
    cases hmem
  refine ⟨files.put (base ++ ["rulesets"]) .directory, ?_, ?_⟩
  · unfold create below
    dsimp only
    rw [makeDirectories_join hempty.leads hempty.directory fileName_rulesets hpath hnone]
    rfl
  · refine ⟨hkeeps.resolve (resolve_join hempty.leads hempty.directory fileName_rulesets hpath),
      node?_put_self _ _ (by simp), fun name _ => hbelow _, fun file hfile => ?_, ?_⟩
    · rw [hnames] at hfile
      cases hfile
    · rw [hnames]
      exact .nil

/-- **A store that was made in an empty directory behaves, after every history, as a map from names
to rule sets.** -/
theorem below_behaves {files : FileTree} {parent : String} {base : Location}
    (hempty : EmptyAt files parent base)
    (hpath : (below parent).directory.utf8ByteSize ≤ longestPath) {ops : List Operation}
    (hops : ∀ op ∈ ops, (below parent).Admits op) :
    ∃ start, (below parent).create files = .ok start ∧
      (below parent).Behaves ((below parent).run start ops) ops := by
  obtain ⟨start, hcreate, hholds⟩ := holds_create hempty hpath
  exact ⟨start, hcreate, (hholds.run hops).behaves⟩

/-- A tree with a directory that is empty. -/
def emptyData : FileTree :=
  ⟨[], [(["data"], .directory)]⟩

/-- A history with a name that is saved and removed, one that is refused and one that stands. -/
def someHistory : List Operation :=
  [.save "mine" Config.builtin StoredRuleSet.epoch, .save "../mine" {} StoredRuleSet.epoch,
    .remove "mine", .save "b_2" {} StoredRuleSet.epoch]

theorem below_behaves_someHistory :
    EmptyAt emptyData "/data" ["data"] ∧ (below "/data").directory.utf8ByteSize ≤ longestPath ∧
      (∀ op ∈ someHistory, (below "/data").Admits op) ∧
      ∃ start, (below "/data").create emptyData = .ok start ∧
        (below "/data").Behaves ((below "/data").run start someHistory) someHistory := by
  have hempty : EmptyAt emptyData "/data" ["data"] := by
    refine ⟨by decide, by decide, fun e he _ => ?_⟩
    obtain rfl := List.mem_singleton.1 he
    rfl
  have hpath : (below "/data").directory.utf8ByteSize ≤ longestPath := by decide
  have hops : ∀ op ∈ someHistory, (below "/data").Admits op := by
    have hmine : (below "/data").Fits "mine" := ⟨by decide, by decide⟩
    have hother : (below "/data").Fits "b_2" := ⟨by decide, by decide⟩
    have hrefused : isStoreName "../mine" = false := by decide
    simp only [someHistory, List.forall_mem_cons, Admits, Operation.name?, Option.some.injEq,
      forall_eq', hrefused]
    exact ⟨fun _ => hmine, nofun, fun _ => hmine, fun _ => hother, fun _ hop =>
      absurd hop List.not_mem_nil⟩
  exact ⟨hempty, hpath, hops, below_behaves hempty hpath hops⟩

end FirstClaim.Store
