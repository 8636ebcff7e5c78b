import FirstClaim.Proofs.FileTree

/-!
# Trees that grow by directories

Making directories puts directories where nothing was and changes nothing else (`Extends`), and
leaves a directory where the path leads (`makeDirectories_ok`). A directory that is there already is
not made again (`IsDirectory.makeDirectories`).

Without links, a path leads to a place that its names alone tell (`leadsTo`), if it leads anywhere.
-/

set_option autoImplicit false

namespace FirstClaim.FileTree

variable {t t' t'' : FileTree} {path : String} {place start : Location}

/-! ## Places of paths -/

/-- The place that a path leads to, provided that there are directories on the way. -/
def leadsTo (t : FileTree) (path : String) : Location :=
  (Path.names path).foldl step (t.origin path)

theorem walk_ok {names : List String} (h : t.walk start names = .ok place) :
    place = names.foldl step start := by
  induction names generalizing start with
  | nil =>
    cases h
    rfl
  | cons name names ih => exact ih (walk_cons_ok h).2.2

theorem resolve_ok (h : t.resolve path = .ok place) : place = t.leadsTo path :=
  walk_ok (resolve_eq_ok.1 h).2.2.2

theorem leadsTo_congr (h : t'.current = t.current) (path : String) :
    t'.leadsTo path = t.leadsTo path := by
  rw [leadsTo, leadsTo, origin, origin, h]

/-- Where relative paths begin does not matter to a walk. -/
theorem walk_from (t : FileTree) (c start : Location) (names : List String) :
    walk { t with current := c } start names = t.walk start names := by
  induction names generalizing start with
  | nil => rfl
  | cons name names ih =>
    simp only [walk, ih]
    rfl

theorem resolve_from {c : Location} (h : Path.isAbsolute path = true ∨ c = t.current) :
    resolve { t with current := c } path = t.resolve path := by
  have horigin : origin { t with current := c } path = t.origin path := by
    unfold origin
    rcases h with habsolute | rfl
    · rw [if_pos habsolute, if_pos habsolute]
    · rfl
  simp only [resolve, horigin, walk_from]

theorem leadsTo_empty (t : FileTree) : t.leadsTo "" = t.current :=
  rfl

theorem leadsTo_join (t : FileTree) {directory name : String} (hslash : '/' ∉ name.toList)
    (hempty : name ≠ "") (hsame : name ≠ ".") (habove : name ≠ "..") :
    t.leadsTo (Path.join directory name) = t.leadsTo directory ++ [name] := by
  have hrelative := Path.isAbsolute_of_no_slash hslash
  have hnames := Path.names_of_no_slash hempty hslash
  have hstep : ∀ place, step place name = place ++ [name] := by
    intro place
    rw [step, if_neg hsame, if_neg habove]
  by_cases hdir : directory = ""
  · have hjoin : Path.join directory name = name := by
      simp [Path.join, hrelative, hdir]
    rw [hjoin, hdir, leadsTo_empty, leadsTo, hnames, origin, hrelative]
    exact hstep t.current
  · rw [leadsTo, Path.names_join hdir hrelative, hnames, List.foldl_append, origin,
      Path.isAbsolute_join hdir hrelative]
    exact hstep _

/-! ## Growth -/

/-- What stands in a tree stands in another one too, and only directories are new there. -/
structure Extends (t t' : FileTree) : Prop where
  current : t'.current = t.current
  node : ∀ place, t'.node? place = t.node? place ∨
    t.node? place = none ∧ t'.node? place = some .directory

namespace Extends

theorem refl (t : FileTree) : Extends t t :=
  ⟨rfl, fun _ => .inl rfl⟩

theorem trans (h : Extends t t') (h' : Extends t' t'') : Extends t t'' := by
  refine ⟨h'.current.trans h.current, fun place => ?_⟩
  rcases h'.node place with hsame' | ⟨hnone', hnew'⟩
  · rw [hsame']
    exact h.node place
  · rcases h.node place with hsame | ⟨-, hnew⟩
    · exact .inr ⟨hsame ▸ hnone', hnew'⟩
    · rw [hnew] at hnone'
      cases hnone'

theorem put (h : t.node? place = none) : Extends t (t.put place .directory) := by
  have hne : place ≠ [] := by
    rintro rfl
    cases h
  refine ⟨rfl, fun other => ?_⟩
  by_cases hother : other = place
  · subst other
    exact .inr ⟨h, node?_put_self t _ hne⟩
  · exact .inl (node?_put_other t _ hother)

theorem keeps (h : Extends t t') : Keeps t t' := by
  refine ⟨h.current, fun place hplace => ?_⟩
  rcases h.node place with hsame | ⟨hnone, -⟩
  · rw [hsame, hplace]
  · rw [hplace] at hnone
    cases hnone

end Extends

/-! ## Directories -/

/-- A path leads to a directory. -/
structure IsDirectory (t : FileTree) (path : String) (place : Location) : Prop where
  leads : t.resolve path = .ok place
  directory : t.node? place = some .directory

theorem Keeps.trans (h : Keeps t t') (h' : Keeps t' t'') : Keeps t t'' :=
  ⟨h'.current.trans h.current, fun place hplace => h'.directory place (h.directory place hplace)⟩

theorem Keeps.isDirectory (h : Keeps t t') (hdir : IsDirectory t path place) :
    IsDirectory t' path place :=
  ⟨h.resolve hdir.leads, h.directory _ hdir.directory⟩

theorem IsDirectory.seenFrom {c : Location} (hdir : IsDirectory t path place)
    (h : Path.isAbsolute path = true ∨ c = t.current) :
    IsDirectory { t with current := c } path place :=
  ⟨(resolve_from h).trans hdir.leads, hdir.directory⟩

theorem makeOne_ok {names : List String} (h : t.makeOne start names = .ok t') :
    ∃ place, t.walk start names.reverse = .ok place ∧ t.node? place = none ∧
      t' = t.put place .directory := by
  cases names with
  | nil => cases h
  | cons name parents =>
    rw [makeOne] at h
    cases hwalk : t.walk start (name :: parents).reverse with
    | error e =>
      rw [hwalk] at h
      cases h
    | ok place =>
      rw [hwalk] at h
      simp only [bind, Except.bind] at h
      split at h
      · cases h
      · rename_i hnode
        cases h
        exact ⟨place, rfl, by simpa using hnode, rfl⟩

theorem ensureOne_ok {names : List String} (h : t.ensureOne start names = .ok t') :
    Extends t t' ∧
      ∃ place, t'.walk start names.reverse = .ok place ∧ t'.node? place = some .directory := by
  unfold ensureOne at h
  split at h
  · split at h
    · rename_i hthere
      cases h
      refine ⟨.refl t, ?_⟩
      cases hwalk : t.walk start names.reverse with
      | error e =>
        rw [hwalk] at hthere
        cases hthere
      | ok place =>
        rw [hwalk] at hthere
        exact ⟨place, rfl, hthere⟩
    · cases h
  · obtain ⟨place, hwalk, hnone, rfl⟩ := makeOne_ok h
    have hextends := Extends.put hnone
    have hne : place ≠ [] := by
      rintro rfl
      cases hnone
    exact ⟨hextends, place, hextends.keeps.walk hwalk, node?_put_self t _ hne⟩

theorem ensureAll_ok {names : List String} (h : t.ensureAll start names = .ok t') :
    Extends t t' ∧ (names ≠ [] →
      ∃ place, t'.walk start names.reverse = .ok place ∧ t'.node? place = some .directory) := by
  induction names generalizing t' with
  | nil =>
    cases h
    exact ⟨.refl t, fun hne => absurd rfl hne⟩
  | cons name parents ih =>
    unfold ensureAll at h
    split at h
    · cases habove : t.ensureAll start parents with
      | error e =>
        rw [habove] at h
        cases h
      | ok above =>
        rw [habove] at h
        obtain ⟨hextends, hdir⟩ := ensureOne_ok h
        exact ⟨(ih habove).1.trans hextends, fun _ => hdir⟩
    · obtain ⟨hextends, hdir⟩ := ensureOne_ok h
      exact ⟨hextends, fun _ => hdir⟩

theorem names_ne_nil (hpath : path ≠ "") (hrelative : Path.isAbsolute path = false) :
    Path.names path ≠ [] := by
  have hnil : path.toList ≠ [] := by simpa using hpath
  obtain ⟨c, cs, hcons⟩ := List.exists_cons_of_ne_nil hnil
  have hc : c ≠ '/' := by simpa [Path.isAbsolute, hcons] using hrelative
  obtain ⟨piece, rest, hpieces⟩ := List.exists_cons_of_ne_nil (Path.pieces_ne_nil cs)
  rw [Path.names, hcons, Path.pieces, if_neg hc, hpieces]
  simp

/-- **Making directories changes nothing else, and the path leads to a directory then.** -/
theorem makeDirectories_ok (h : t.makeDirectories path = .ok t') :
    Extends t t' ∧ (path ≠ "" → ∃ place, IsDirectory t' path place) := by
  unfold makeDirectories at h
  split at h
  · rename_i hempty
    cases h
    exact ⟨.refl t, fun hne => absurd (by simpa using hempty) hne⟩
  · rename_i hempty
    split at h
    · cases h
    · rename_i hnul
      split at h
      · cases h
      · rename_i hlong
        obtain ⟨hextends, hdir⟩ := ensureAll_ok h
        refine ⟨hextends, fun hne => ?_⟩
        -- relative paths still begin at the same place
        have hleads : ∀ place, t'.walk (t.origin path) (Path.names path) = .ok place →
            t'.resolve path = .ok place := by
          intro place hwalk
          refine resolve_eq_ok.2 ⟨by simpa using hnul, hne, Nat.not_lt.1 hlong, ?_⟩
          rwa [origin, hextends.current]
        by_cases hnames : Path.names path = []
        · -- the root
          have habsolute : Path.isAbsolute path = true := by
            cases hroot : Path.isAbsolute path with
            | true => rfl
            | false => exact absurd hnames (names_ne_nil hne hroot)
          refine ⟨[], hleads [] ?_, rfl⟩
          rw [hnames, origin, habsolute]
          rfl
        · obtain ⟨place, hwalk, hnode⟩ := hdir (by simpa using hnames)
          rw [List.reverse_reverse] at hwalk
          exact ⟨place, hleads place hwalk, hnode⟩

/-- **A directory that is there is not made again.** -/
theorem IsDirectory.makeDirectories (h : IsDirectory t path place) :
    t.makeDirectories path = .ok t := by
  obtain ⟨hnul, hempty, hlong, hwalk⟩ := resolve_eq_ok.1 h.leads
  unfold FileTree.makeDirectories
  rw [if_neg (by simpa using hempty), if_neg (by simpa using hnul), if_neg (Nat.not_lt.2 hlong)]
  cases hnames : (Path.names path).reverse with
  | nil => rfl
  | cons name parents =>
    have hwalk' : t.walk (t.origin path) (name :: parents).reverse = .ok place := by
      rw [← hnames, List.reverse_reverse, hwalk]
    have hone : t.makeOne (t.origin path) (name :: parents) = .error .alreadyExists := by
      rw [makeOne, hwalk']
      simp only [bind, Except.bind, h.directory, Option.isSome_some, if_true]
    have hensure : t.ensureOne (t.origin path) (name :: parents) = .ok t := by
      simp only [ensureOne, hone, hwalk', Except.toOption, Option.bind_some, h.directory, if_true]
    rw [ensureAll, hensure]

/-! ## Files -/

theorem write_ok {content : ByteArray} (h : t.write path content = .ok t') :
    ∃ place, t.resolve path = .ok place ∧ Path.endsInSlash path = false ∧
      t.node? place ≠ some .directory ∧ t' = t.put place (.file content) := by
  unfold write at h
  cases hpath : t.resolve path with
  | error e =>
    rw [hpath] at h
    cases h
  | ok place =>
    rw [hpath] at h
    simp only [bind, Except.bind] at h
    split at h
    · cases h
    · rename_i hfile
      simp only [Bool.or_eq_true, decide_eq_true_eq, not_or] at hfile
      cases h
      exact ⟨place, rfl, by simpa using hfile.1, hfile.2, rfl⟩

theorem removeFile_ok (h : t.removeFile path = .ok t') :
    ∃ place content, t.resolve path = .ok place ∧ t.node? place = some (.file content) ∧
      t' = t.erase place := by
  unfold removeFile at h
  cases hpath : t.resolve path with
  | error e =>
    rw [hpath] at h
    cases h
  | ok place =>
    simp only [hpath, find, bind, Except.bind] at h
    cases hnode : t.node? place with
    | none =>
      rw [hnode] at h
      cases h
    | some node =>
      cases node with
      | file content =>
        rw [hnode] at h
        cases hslash : Path.endsInSlash path with
        | true =>
          rw [hslash] at h
          cases h
        | false =>
          rw [hslash] at h
          cases h
          exact ⟨place, content, rfl, hnode, rfl⟩
      | directory =>
        rw [hnode] at h
        cases h

theorem ne_root_of_not_directory (h : t.node? place ≠ some .directory) : place ≠ [] := by
  rintro rfl
  exact h rfl

/-- **What is written is what the file holds then**, and nothing else changes. -/
theorem read_of_write {content : ByteArray} (h : t.write path content = .ok t') :
    t'.read path = .ok content ∧ ∃ place, t.resolve path = .ok place ∧
      ∀ other, other ≠ place → t'.node? other = t.node? other := by
  obtain ⟨place, hpath, hslash, hnode, rfl⟩ := write_ok h
  have hself := node?_put_self t (.file content) (ne_root_of_not_directory hnode)
  exact ⟨read_file ((keeps_put hnode _).resolve hpath) hslash hself, place, hpath,
    fun other hother => node?_put_other t _ hother⟩

theorem readText_of_read {text : String} (h : t.read path = .ok text.toUTF8) :
    t.readText path = .ok text := by
  unfold readText
  rw [h]
  exact decodeText_toUTF8 text

theorem readText_of_write {text : String} (h : t.write path text.toUTF8 = .ok t') :
    t'.readText path = .ok text :=
  readText_of_read (read_of_write h).1

end FirstClaim.FileTree
