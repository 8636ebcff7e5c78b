import FirstClaim.FileTree
import FirstClaim.Proofs.Path

/-!
# Files in a directory

What stands in a directory is changed by putting and erasing at the places below it. A path that
leads to a directory goes on leading to it as long as all directories are kept (`Keeps.resolve`),
and leads on to the files in it (`resolve_join`).
-/

set_option autoImplicit false

namespace FirstClaim.FileTree

/-! ## Places -/

section Places

variable (t : FileTree) {place other : Location} (node : Node)

theorem lookup_filter_self (entries : List (Location × Node)) :
    (entries.filter (·.1 ≠ place)).lookup place = none := by
  rw [List.lookup_eq_none_iff]
  intro e he
  have hne : e.1 ≠ place := of_decide_eq_true (List.mem_filter.1 he).2
  exact bne_iff_ne.2 hne.symm

theorem lookup_filter_other (h : other ≠ place) (entries : List (Location × Node)) :
    (entries.filter (·.1 ≠ place)).lookup other = entries.lookup other := by
  induction entries with
  | nil => rfl
  | cons e entries ih =>
    obtain ⟨q, n⟩ := e
    by_cases hq : q = place
    · subst q
      rw [List.filter_cons_of_neg (by simp), ih, List.lookup_cons, beq_eq_false_iff_ne.2 h]
    · rw [List.filter_cons_of_pos (by simpa using hq), List.lookup_cons, List.lookup_cons, ih]

theorem node?_put_self (h : place ≠ []) : (t.put place node).node? place = some node := by
  rw [node?, if_neg h, put, List.lookup_cons]
  simp

theorem node?_put_other (h : other ≠ place) : (t.put place node).node? other = t.node? other := by
  unfold node? put
  dsimp only
  rw [List.lookup_cons, lookup_filter_other h, beq_eq_false_iff_ne.2 h]

theorem node?_erase_self (h : place ≠ []) : (t.erase place).node? place = none := by
  rw [node?, if_neg h, erase, lookup_filter_self]

theorem node?_erase_other (h : other ≠ place) : (t.erase place).node? other = t.node? other := by
  unfold node? erase
  dsimp only
  rw [lookup_filter_other h]

end Places

/-! ## Paths that go on leading somewhere -/

/-- All directories of a tree are directories of another one. -/
structure Keeps (t t' : FileTree) : Prop where
  current : t'.current = t.current
  directory : ∀ place, t.node? place = some .directory → t'.node? place = some .directory

/-- Only a directory that is replaced or taken away is not kept. -/
theorem keeps_of_other {t t' : FileTree} {place : Location} (hcurrent : t'.current = t.current)
    (h : t.node? place ≠ some .directory)
    (hother : ∀ q, q ≠ place → t'.node? q = t.node? q) : Keeps t t' := by
  refine ⟨hcurrent, fun q hq => ?_⟩
  have hne : q ≠ place := by
    rintro rfl
    exact h hq
  rw [hother q hne, hq]

theorem keeps_put {t : FileTree} {place : Location} (h : t.node? place ≠ some .directory)
    (node : Node) : Keeps t (t.put place node) :=
  keeps_of_other rfl h fun _ hq => node?_put_other t node hq

theorem keeps_erase {t : FileTree} {place : Location} (h : t.node? place ≠ some .directory) :
    Keeps t (t.erase place) :=
  keeps_of_other rfl h fun _ hq => node?_erase_other t hq

/-- A name that may stand in a directory. -/
structure FileName (name : String) : Prop where
  nonempty : name ≠ ""
  no_slash : '/' ∉ name.toList
  no_nul : '\x00' ∉ name.toList
  not_same : name ≠ "."
  not_above : name ≠ ".."
  short : name.utf8ByteSize ≤ longestName

theorem FileName.not_absolute {name : String} (h : FileName name) :
    Path.isAbsolute name = false :=
  Path.isAbsolute_of_no_slash h.no_slash

theorem FileName.not_slash_end {name : String} (h : FileName name) :
    Path.endsInSlash name = false := by
  rw [Path.endsInSlash, beq_eq_false_iff_ne]
  intro hlast
  exact h.no_slash (List.mem_of_getLast? hlast)

variable {t t' : FileTree}

theorem walk_cons {place : Location} (hnode : t.node? place = some .directory) {name : String}
    (hname : name.utf8ByteSize ≤ longestName) (rest : List String) :
    t.walk place (name :: rest) = t.walk (step place name) rest := by
  rw [walk, hnode]
  exact if_neg (Nat.not_lt.2 hname)

theorem walk_cons_ok {place last : Location} {name : String} {rest : List String}
    (h : t.walk place (name :: rest) = .ok last) :
    t.node? place = some .directory ∧ name.utf8ByteSize ≤ longestName ∧
      t.walk (step place name) rest = .ok last := by
  rw [walk] at h
  split at h
  · cases h
  · cases h
  · rename_i hnode
    split at h
    · cases h
    · rename_i hname
      exact ⟨hnode, Nat.not_lt.1 hname, h⟩

theorem walk_append {place middle : Location} {names : List String}
    (h : t.walk place names = .ok middle) (rest : List String) :
    t.walk place (names ++ rest) = t.walk middle rest := by
  induction names generalizing place with
  | nil =>
    cases h
    rfl
  | cons name names ih =>
    obtain ⟨hnode, hname, htail⟩ := walk_cons_ok h
    rw [List.cons_append, walk_cons hnode hname, ih htail]

theorem Keeps.walk (hkeeps : Keeps t t') {place last : Location} {names : List String}
    (h : t.walk place names = .ok last) : t'.walk place names = .ok last := by
  induction names generalizing place with
  | nil => exact h
  | cons name names ih =>
    obtain ⟨hnode, hname, htail⟩ := walk_cons_ok h
    rw [walk_cons (hkeeps.directory _ hnode) hname, ih htail]

theorem resolve_eq_ok {path : String} {place : Location} :
    t.resolve path = .ok place ↔ '\x00' ∉ path.toList ∧ path ≠ "" ∧
      path.utf8ByteSize ≤ longestPath ∧ t.walk (t.origin path) (Path.names path) = .ok place := by
  unfold resolve
  by_cases hnul : '\x00' ∈ path.toList
  · rw [if_pos (by simpa using hnul)]
    simp [hnul]
  · rw [if_neg (by simpa using hnul)]
    by_cases hempty : path = ""
    · rw [if_pos (by simpa using hempty)]
      simp [hempty]
    · rw [if_neg (by simpa using hempty)]
      by_cases hlong : longestPath < path.utf8ByteSize
      · rw [if_pos hlong]
        simp [Nat.not_le.2 hlong]
      · rw [if_neg hlong]
        simp [hnul, hempty, Nat.not_lt.1 hlong]

theorem Keeps.resolve (hkeeps : Keeps t t') {path : String} {place : Location}
    (h : t.resolve path = .ok place) : t'.resolve path = .ok place := by
  obtain ⟨hnul, hempty, hlong, hwalk⟩ := resolve_eq_ok.1 h
  have horigin : t'.origin path = t.origin path := by
    rw [origin, origin, hkeeps.current]
  exact resolve_eq_ok.2 ⟨hnul, hempty, hlong, horigin ▸ hkeeps.walk hwalk⟩

/-! ## Files in a directory -/

section Directory

variable {directory name : String} {place : Location}

theorem step_name (hname : FileName name) : step place name = place ++ [name] := by
  rw [step, if_neg hname.not_same, if_neg hname.not_above]

theorem walk_join (hdir : t.resolve directory = .ok place)
    (hnode : t.node? place = some .directory) (hname : FileName name) :
    t.walk (t.origin (Path.join directory name)) (Path.names (Path.join directory name)) =
      .ok (place ++ [name]) := by
  obtain ⟨-, hempty, -, hwalk⟩ := resolve_eq_ok.1 hdir
  have horigin : t.origin (Path.join directory name) = t.origin directory := by
    rw [origin, Path.isAbsolute_join hempty hname.not_absolute, origin]
  rw [horigin, Path.names_join hempty hname.not_absolute,
    Path.names_of_no_slash hname.nonempty hname.no_slash, walk_append hwalk,
    walk_cons hnode hname.short, step_name hname]
  rfl

/-- **A path that goes on from a directory leads to what stands there under the name.** -/
theorem resolve_join (hdir : t.resolve directory = .ok place)
    (hnode : t.node? place = some .directory) (hname : FileName name)
    (hlength : (Path.join directory name).utf8ByteSize ≤ longestPath) :
    t.resolve (Path.join directory name) = .ok (place ++ [name]) := by
  obtain ⟨hnul, hempty, -, -⟩ := resolve_eq_ok.1 hdir
  refine resolve_eq_ok.2 ⟨fun hmem => ?_, Path.join_ne_empty hempty hname.not_absolute, hlength,
    walk_join hdir hnode hname⟩
  rcases (Path.mem_join hempty hname.not_absolute (by decide)).1 hmem with hmem | hmem
  · exact hnul hmem
  · exact hname.no_nul hmem

theorem endsInSlash_join (hdir : t.resolve directory = .ok place) (hname : FileName name) :
    Path.endsInSlash (Path.join directory name) = false := by
  obtain ⟨-, hempty, -, -⟩ := resolve_eq_ok.1 hdir
  rw [Path.endsInSlash_join hempty hname.nonempty hname.not_absolute, hname.not_slash_end]

end Directory

section Operations

variable {path : String} {place : Location}

theorem find_file (hpath : t.resolve path = .ok place) (hslash : Path.endsInSlash path = false)
    {content : ByteArray} (hnode : t.node? place = some (.file content)) :
    t.find path = .ok (.file content) := by
  simp [find, hpath, hnode, hslash, bind, Except.bind]

theorem find_none (hpath : t.resolve path = .ok place) (hnode : t.node? place = none) :
    t.find path = .error .notFound := by
  simp [find, hpath, hnode, bind, Except.bind]

theorem contains_eq (hpath : t.resolve path = .ok place) (hslash : Path.endsInSlash path = false) :
    t.contains path = (t.node? place).isSome := by
  unfold contains
  cases hnode : t.node? place with
  | none =>
    rw [find_none hpath hnode]
    rfl
  | some node =>
    cases node with
    | file content =>
      rw [find_file hpath hslash hnode]
      rfl
    | directory =>
      simp [find, hpath, hnode, bind, Except.bind, Except.toBool]

theorem read_file (hpath : t.resolve path = .ok place) (hslash : Path.endsInSlash path = false)
    {content : ByteArray} (hnode : t.node? place = some (.file content)) :
    t.read path = .ok content := by
  simp [read, find_file hpath hslash hnode, bind, Except.bind]

theorem write_file (hpath : t.resolve path = .ok place) (hslash : Path.endsInSlash path = false)
    (hnode : t.node? place ≠ some .directory) (content : ByteArray) :
    t.write path content = .ok (t.put place (.file content)) := by
  simp [write, hpath, hslash, hnode, bind, Except.bind]

theorem removeFile_file (hpath : t.resolve path = .ok place)
    (hslash : Path.endsInSlash path = false) {content : ByteArray}
    (hnode : t.node? place = some (.file content)) :
    t.removeFile path = .ok (t.erase place) := by
  simp [removeFile, hpath, find_file hpath hslash hnode, bind, Except.bind]

theorem decodeText_toUTF8 (text : String) : decodeText text.toUTF8 = .ok text := by
  have hvalid : text.toUTF8.IsValidUTF8 := text.isValidUTF8
  have hdecode : String.fromUTF8? text.toUTF8 = some text := by
    rw [String.fromUTF8?, dif_pos hvalid]
    rfl
  rw [decodeText, hdecode]

theorem readText_file (hpath : t.resolve path = .ok place)
    (hslash : Path.endsInSlash path = false) {text : String}
    (hnode : t.node? place = some (.file text.toUTF8)) : t.readText path = .ok text := by
  unfold readText
  rw [read_file hpath hslash hnode]
  exact decodeText_toUTF8 text

end Operations

/-! ## The names in a directory -/

/-- The name that leads from a directory to a place in it. -/
def nameIn (directory place : Location) : Option String :=
  if place.dropLast = directory then place.getLast? else none

def namesAt (t : FileTree) (directory : Location) : List String :=
  (t.entries.map (·.1)).filterMap (nameIn directory)

theorem namesIn_directory {path : String} {directory : Location}
    (hpath : t.resolve path = .ok directory) (hnode : t.node? directory = some .directory) :
    t.namesIn path = .ok (t.namesAt directory) := by
  simp only [namesIn, find, hpath, hnode, bind, Except.bind, namesAt, List.filterMap_map]
  rfl

theorem namesIn_ok {path : String} {names : List String} (h : t.namesIn path = .ok names) :
    ∃ directory, t.resolve path = .ok directory ∧ t.node? directory = some .directory ∧
      names = t.namesAt directory := by
  cases hpath : t.resolve path with
  | error e => simp [namesIn, hpath, bind, Except.bind] at h
  | ok directory =>
    cases hnode : t.node? directory with
    | none => simp [namesIn, find, hpath, hnode, bind, Except.bind] at h
    | some node =>
      cases node with
      | file content =>
        have hfile : t.find path = .error .notDirectory ∨ t.find path = .ok (.file content) := by
          simp only [find, hpath, hnode, bind, Except.bind]
          split
          · exact .inl rfl
          · exact .inr rfl
        rcases hfile with hfile | hfile <;>
          simp [namesIn, hpath, hfile, bind, Except.bind] at h
      | directory =>
        rw [namesIn_directory hpath hnode] at h
        exact ⟨directory, rfl, hnode, (Except.ok.inj h).symm⟩

theorem nameIn_eq_some {directory place : Location} {name : String} :
    nameIn directory place = some name ↔ place = directory ++ [name] := by
  unfold nameIn
  constructor
  · intro h
    split at h
    · rename_i hdrop
      obtain ⟨init, rfl⟩ := List.getLast?_eq_some_iff.1 h
      rw [List.dropLast_concat] at hdrop
      rw [hdrop]
    · cases h
  · rintro rfl
    simp

/-- **A name stands in a directory if something is at its place.** -/
theorem mem_namesAt {directory : Location} {name : String} :
    name ∈ t.namesAt directory ↔ (t.node? (directory ++ [name])).isSome := by
  rw [node?, if_neg (by simp), namesAt, List.mem_filterMap]
  constructor
  · rintro ⟨place, hmem, hname⟩
    obtain rfl := nameIn_eq_some.1 hname
    obtain ⟨e, he, hplace⟩ := List.mem_map.1 hmem
    rw [Option.isSome_iff_ne_none, Ne, List.lookup_eq_none_iff]
    intro hnone
    exact bne_iff_ne.1 (hnone e he) hplace.symm
  · intro hsome
    obtain ⟨node, hnode⟩ := Option.isSome_iff_exists.1 hsome
    obtain ⟨before, behind, hsplit, -⟩ := List.lookup_eq_some_iff.1 hnode
    exact ⟨directory ++ [name], by simp [hsplit], nameIn_eq_some.2 rfl⟩

theorem filterMap_nameIn_filter (directory : Location) (name : String) (places : List Location) :
    (places.filter (· ≠ directory ++ [name])).filterMap (nameIn directory) =
      (places.filterMap (nameIn directory)).filter (· ≠ name) := by
  induction places with
  | nil => rfl
  | cons place places ih =>
    cases hlast : nameIn directory place with
    | none =>
      have hplace : place ≠ directory ++ [name] := by
        rintro rfl
        rw [nameIn_eq_some.2 rfl] at hlast
        cases hlast
      rw [List.filter_cons_of_pos (by simpa using hplace), List.filterMap_cons_none hlast,
        List.filterMap_cons_none hlast, ih]
    | some other =>
      obtain rfl := nameIn_eq_some.1 hlast
      rw [List.filterMap_cons_some hlast]
      by_cases hother : other = name
      · subst other
        rw [List.filter_cons_of_neg (by simp), List.filter_cons_of_neg (by simp), ih]
      · rw [List.filter_cons_of_pos (by simpa using hother), List.filterMap_cons_some hlast,
          List.filter_cons_of_pos (by simpa using hother), ih]

theorem map_filter_place (place : Location) (entries : List (Location × Node)) :
    (entries.filter (·.1 ≠ place)).map (·.1) = (entries.map (·.1)).filter (· ≠ place) := by
  rw [List.filter_map]
  rfl

theorem namesAt_erase (t : FileTree) (directory : Location) (name : String) :
    (t.erase (directory ++ [name])).namesAt directory =
      (t.namesAt directory).filter (· ≠ name) := by
  rw [namesAt, erase, map_filter_place, filterMap_nameIn_filter, namesAt]

theorem namesAt_put (t : FileTree) (directory : Location) (name : String) (node : Node) :
    (t.put (directory ++ [name]) node).namesAt directory =
      name :: (t.namesAt directory).filter (· ≠ name) := by
  rw [namesAt, put, List.map_cons, map_filter_place, List.filterMap_cons_some
    (nameIn_eq_some.2 rfl), filterMap_nameIn_filter, namesAt]

/-! ## New directories -/

/-- **A directory is made in another one** where nothing stands under its name. -/
theorem makeDirectories_join {parent name : String} {base : Location}
    (hparent : t.resolve parent = .ok base) (hbase : t.node? base = some .directory)
    (hname : FileName name) (hlength : (Path.join parent name).utf8ByteSize ≤ longestPath)
    (hnone : t.node? (base ++ [name]) = none) :
    t.makeDirectories (Path.join parent name) = .ok (t.put (base ++ [name]) .directory) := by
  obtain ⟨hnul, hempty, hlong, -⟩ :=
    resolve_eq_ok.1 (resolve_join hparent hbase hname hlength)
  obtain ⟨-, hparentEmpty, -, -⟩ := resolve_eq_ok.1 hparent
  have hwalk := walk_join hparent hbase hname
  have hnames : (Path.names (Path.join parent name)).reverse =
      name :: (Path.names parent).reverse := by
    rw [Path.names_join hparentEmpty hname.not_absolute,
      Path.names_of_no_slash hname.nonempty hname.no_slash, List.reverse_append]
    rfl
  have hone : t.makeOne (t.origin (Path.join parent name)) (name :: (Path.names parent).reverse) =
      .ok (t.put (base ++ [name]) .directory) := by
    rw [makeOne, ← hnames, List.reverse_reverse, hwalk]
    simp [bind, Except.bind, hnone]
  unfold makeDirectories
  rw [if_neg (by simpa using hempty), if_neg (by simpa using hnul), if_neg (Nat.not_lt.2 hlong),
    hnames, ensureAll, ensureOne, hone]

end FirstClaim.FileTree
