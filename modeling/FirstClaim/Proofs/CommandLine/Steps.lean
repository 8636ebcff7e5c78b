import FirstClaim.CommandLine.Outcome
import FirstClaim.Proofs.Store.Confinement

/-!
# Steps of a run

A step gives a value (`Step.Gives`) or fails (`Step.Fails`), and either way leaves the files and the
messages in some state. Most steps are harmless: they change no file, make at most directories and
tell nothing but events (`Step.Harmless`). The others save rules (`gives_saveRules`), tell a report
(`exec_behindRules`) and write the output (`exec_print`, `exec_writeOutput_some`); they may break
off.
-/

set_option autoImplicit false

namespace FirstClaim.CommandLine

open FileTree

namespace Step

variable {α β ε : Type} {p p' p'' : Progress}

/-! ## Running steps -/

/-- What a step gives, and what has come about behind it. -/
def exec (x : Step α) (p : Progress) : Except Failure α × Progress :=
  x.run.run p

def Gives (x : Step α) (p : Progress) (a : α) (p' : Progress) : Prop :=
  exec x p = (.ok a, p')

def Fails (x : Step α) (p : Progress) (f : Failure) (p' : Progress) : Prop :=
  exec x p = (.error f, p')

theorem exec_bind (x : Step α) (f : α → Step β) (p : Progress) :
    exec (x >>= f) p = match exec x p with
      | (.ok a, p') => exec (f a) p'
      | (.error e, p') => (.error e, p') := by
  have hbind : exec (x >>= f) p = match exec x p with
      | (r, p') => ExceptT.bindCont f r p' := rfl
  rw [hbind]
  cases exec x p with
  | mk r p' => cases r <;> rfl

theorem exec_pure (a : α) (p : Progress) : exec (pure a) p = (.ok a, p) :=
  rfl

theorem exec_throw (f : Failure) (p : Progress) : exec (throw f : Step α) p = (.error f, p) :=
  rfl

theorem exec_get (p : Progress) : exec (get : Step Progress) p = (.ok p, p) :=
  rfl

theorem exec_tell (m : Message) (p : Progress) :
    exec (tell m) p = (.ok (), { p with messages := p.messages ++ [m] }) :=
  rfl

theorem exec_attempt (fail : ε → Failure) (r : Except ε α) (p : Progress) :
    exec (attempt fail r) p = (r.mapError fail, p) := by
  cases r <;> rfl

theorem exec_changeFiles (fail : ε → Failure) (change : FileTree → Except ε FileTree)
    (p : Progress) : exec (changeFiles fail change) p = match change p.files with
      | .ok files => (.ok (), { p with files })
      | .error e => (.error (fail e), p) := by
  unfold changeFiles
  rw [exec_bind, exec_get]
  dsimp only
  rw [exec_bind, exec_attempt]
  cases change p.files <;> rfl

theorem exec_writeFile (fail : ε → Failure) (write : FileTree → FileTree × Except ε Unit)
    (p : Progress) : exec (writeFile fail write) p =
      ((write p.files).2.mapError fail, { p with files := (write p.files).1 }) := by
  unfold writeFile
  rw [exec_bind, exec_get]
  exact exec_attempt fail (write p.files).2 { p with files := (write p.files).1 }

theorem exec_print (fail : IoError → Failure) (room : Room) (text : String) (p : Progress) :
    exec (print fail room text) p = ((room.result text.toUTF8).mapError fail,
      { p with printed := p.printed ++ room.taken text.toUTF8 }) :=
  exec_attempt fail (room.result text.toUTF8)
    { p with printed := p.printed ++ room.taken text.toUTF8 }

/-! ## Steps in turn -/

theorem gives_bind {x : Step α} {f : α → Step β} {b : β} :
    Gives (x >>= f) p b p'' ↔ ∃ a p', Gives x p a p' ∧ Gives (f a) p' b p'' := by
  unfold Gives
  rw [exec_bind]
  rcases exec x p with ⟨_ | a, q⟩
  · simp
  · constructor
    · intro h
      exact ⟨a, q, rfl, h⟩
    · rintro ⟨a', q', hx, h⟩
      cases hx
      exact h

theorem fails_bind {x : Step α} {f : α → Step β} {e : Failure} :
    Fails (x >>= f) p e p'' ↔
      Fails x p e p'' ∨ ∃ a p', Gives x p a p' ∧ Fails (f a) p' e p'' := by
  unfold Fails Gives
  rw [exec_bind]
  rcases exec x p with ⟨_ | a, q⟩
  · simp
  · constructor
    · intro h
      exact .inr ⟨a, q, rfl, h⟩
    · rintro (hx | ⟨a', q', hx, h⟩)
      · cases hx
      · cases hx
        exact h

@[simp] theorem gives_pure {a b : α} : Gives (pure a) p b p' ↔ b = a ∧ p' = p := by
  unfold Gives
  rw [exec_pure]
  simp [eq_comm]

@[simp] theorem not_gives_throw {f : Failure} {a : α} : ¬ Gives (throw f : Step α) p a p' := by
  unfold Gives
  rw [exec_throw]
  simp

@[simp] theorem not_fails_pure {a : α} {f : Failure} : ¬ Fails (pure a : Step α) p f p' := by
  unfold Fails
  rw [exec_pure]
  simp

@[simp] theorem gives_get {f : Progress → Step β} {b : β} :
    Gives (get >>= f) p b p' ↔ Gives (f p) p b p' := by
  unfold Gives
  rw [exec_bind, exec_get]

@[simp] theorem gives_tell {m : Message} {f : Unit → Step β} {b : β} :
    Gives (tell m >>= f) p b p' ↔ Gives (f ()) { p with messages := p.messages ++ [m] } b p' := by
  unfold Gives
  rw [exec_bind, exec_tell]

@[simp] theorem gives_log {e : LogEvent} {f : Unit → Step β} {b : β} :
    Gives (log e >>= f) p b p' ↔
      Gives (f ()) { p with messages := p.messages ++ [.log e] } b p' :=
  gives_tell

theorem gives_attempt {fail : ε → Failure} {r : Except ε α} {a : α} :
    Gives (attempt fail r) p a p' ↔ r = .ok a ∧ p' = p := by
  unfold Gives
  rw [exec_attempt]
  constructor
  · intro h
    cases r <;> cases h
    exact ⟨rfl, rfl⟩
  · rintro ⟨rfl, rfl⟩
    rfl

@[simp] theorem gives_attempt_bind {fail : ε → Failure} {r : Except ε α} {f : α → Step β} {b : β} :
    Gives (attempt fail r >>= f) p b p' ↔ ∃ a, r = .ok a ∧ Gives (f a) p b p' := by
  simp only [gives_bind, gives_attempt]
  constructor
  · rintro ⟨a, q, ⟨hr, rfl⟩, h⟩
    exact ⟨a, hr, h⟩
  · rintro ⟨a, hr, h⟩
    exact ⟨a, p, ⟨hr, rfl⟩, h⟩

@[simp] theorem gives_changeFiles {fail : ε → Failure} {change : FileTree → Except ε FileTree}
    {f : Unit → Step β} {b : β} : Gives (changeFiles fail change >>= f) p b p' ↔
      ∃ files, change p.files = .ok files ∧ Gives (f ()) { p with files } b p' := by
  unfold Gives
  rw [exec_bind, exec_changeFiles]
  cases change p.files <;> simp

@[simp] theorem gives_writeFile {fail : ε → Failure} {write : FileTree → FileTree × Except ε Unit}
    {f : Unit → Step β} {b : β} : Gives (writeFile fail write >>= f) p b p' ↔
      ∃ files, write p.files = (files, .ok ()) ∧ Gives (f ()) { p with files } b p' := by
  unfold Gives
  rw [exec_bind, exec_writeFile]
  rcases write p.files with ⟨files, e | _⟩
  · change (Except.error (fail e), _) = (Except.ok b, p') ↔ _
    simp
  · change exec (f ()) { p with files } = (.ok b, p') ↔ _
    simp

theorem gives_print {fail : IoError → Failure} {room : Room} {text : String} :
    Gives (print fail room text) p () p' ↔ room.result text.toUTF8 = .ok () ∧
      p' = { p with printed := p.printed ++ text.toUTF8 } := by
  unfold Gives
  rw [exec_print]
  cases hresult : room.result text.toUTF8 with
  | error e =>
    change (Except.error (fail e), _) = (Except.ok (), p') ↔ _
    simp
  | ok _ =>
    rw [Room.taken_of_ok hresult]
    change (Except.ok (), _) = (Except.ok (), p') ↔ _
    simp [eq_comm]

/-! ## Harmless steps -/

/-- Nothing but directories is new among the files, nothing is printed, and nothing is told but
events that are not of a file that was written. -/
structure Leaves (p p' : Progress) : Prop where
  files : Extends p.files p'.files
  printed : p'.printed = p.printed
  messages : ∃ events : List LogEvent, (∀ e ∈ events, e.level ≠ .info) ∧
    p'.messages = p.messages ++ events.map .log

namespace Leaves

theorem of_extends {files : FileTree} (h : Extends p.files files) :
    Leaves p { p with files } :=
  ⟨h, rfl, [], by simp, (List.append_nil _).symm⟩

theorem refl (p : Progress) : Leaves p p :=
  of_extends (.refl _)

theorem trans (h : Leaves p p') (h' : Leaves p' p'') : Leaves p p'' := by
  obtain ⟨events, hlevel, hevents⟩ := h.messages
  obtain ⟨events', hlevel', hevents'⟩ := h'.messages
  refine ⟨h.files.trans h'.files, h'.printed.trans h.printed, events ++ events', fun e he => ?_,
    ?_⟩
  · exact (List.mem_append.1 he).elim (hlevel e) (hlevel' e)
  · rw [hevents', hevents, List.map_append, List.append_assoc]

end Leaves

/-- A step changes no file, whether it fails or not. -/
def Harmless (x : Step α) : Prop :=
  ∀ p, Leaves p (exec x p).2

namespace Harmless

theorem gives {x : Step α} (h : Harmless x) {a : α} (hx : Gives x p a p') : Leaves p p' := by
  have hp := h p
  rwa [show exec x p = _ from hx] at hp

theorem fails {x : Step α} (h : Harmless x) {f : Failure} (hx : Fails x p f p') :
    Leaves p p' := by
  have hp := h p
  rwa [show exec x p = _ from hx] at hp

theorem bind {x : Step α} {f : α → Step β} (hx : Harmless x) (hf : ∀ a, Harmless (f a)) :
    Harmless (x >>= f) := by
  intro p
  have hp := hx p
  rw [exec_bind]
  rcases hexec : exec x p with ⟨e | a, q⟩
  · rwa [hexec] at hp
  · rw [hexec] at hp
    exact hp.trans (hf a q)

theorem pure (a : α) : Harmless (pure a) :=
  fun p => .refl p

theorem throw (e : Failure) : Harmless (throw e : Step α) :=
  fun p => .refl p

theorem get : Harmless (get : Step Progress) :=
  fun p => .refl p

theorem log {e : LogEvent} (h : e.level ≠ .info) : Harmless (log e) :=
  fun _ => ⟨.refl _, rfl, [e], by simpa using h, rfl⟩

theorem attempt (fail : ε → Failure) (r : Except ε α) : Harmless (attempt fail r) := by
  cases r with
  | ok a => exact pure a
  | error e => exact throw _

theorem changeFiles {fail : ε → Failure} {change : FileTree → Except ε FileTree}
    (h : ∀ {t t' : FileTree}, change t = .ok t' → Extends t t') :
    Harmless (changeFiles fail change) := by
  intro p
  rw [exec_changeFiles]
  cases hchange : change p.files with
  | error e => exact .refl p
  | ok files => exact .of_extends (h hchange)

end Harmless

/-! ## Opening the store -/

theorem create_extends {s : Store} {t t' : FileTree} (h : s.create t = .ok t') : Extends t t' := by
  unfold Store.create at h
  cases hmake : t.makeDirectories s.directory with
  | error e =>
    rw [hmake] at h
    cases h
  | ok made =>
    rw [hmake] at h
    cases h
    exact (makeDirectories_ok hmake).1

theorem harmless_openStore (d : DataDirectory) : Harmless (openStore d) :=
  .bind (.changeFiles fun h => (makeDirectories_ok h).1) fun _ =>
    .bind (.changeFiles create_extends) fun _ => .pure _

/-- What a store needs to be opened without making a directory. -/
structure Opened (d : DataDirectory) (t : FileTree) : Prop where
  root : d.root = "" ∨ ∃ place, IsDirectory t d.root place
  store : ∃ place, IsDirectory t d.store.directory place

theorem Opened.keeps {d : DataDirectory} {t t' : FileTree} (h : Opened d t) (hkeeps : Keeps t t') :
    Opened d t' := by
  refine ⟨h.root.imp_right ?_, ?_⟩
  · rintro ⟨place, hplace⟩
    exact ⟨place, hkeeps.isDirectory hplace⟩
  · obtain ⟨place, hplace⟩ := h.store
    exact ⟨place, hkeeps.isDirectory hplace⟩

theorem isAbsolute_store {d : DataDirectory} (h : Path.isAbsolute d.root = true) :
    Path.isAbsolute d.store.directory = true := by
  have hroot : d.root ≠ "" := by
    intro hempty
    rw [hempty] at h
    cases h
  exact (Path.isAbsolute_join hroot rfl).trans h

theorem Opened.seenFrom {d : DataDirectory} {t : FileTree} {c : Location} (h : Opened d t)
    (hplace : Path.isAbsolute d.root = true ∨ c = t.current) :
    Opened d { t with current := c } := by
  refine ⟨h.root.imp_right ?_, ?_⟩
  · rintro ⟨place, hroot⟩
    exact ⟨place, hroot.seenFrom hplace⟩
  · obtain ⟨place, hstore⟩ := h.store
    exact ⟨place, hstore.seenFrom (hplace.imp_left isAbsolute_store)⟩

theorem store_directory_ne_empty (d : DataDirectory) : d.store.directory ≠ "" := by
  show Path.join d.root "rulesets" ≠ ""
  by_cases hroot : d.root = ""
  · rw [hroot]
    decide
  · exact Path.join_ne_empty hroot rfl

/-- **The store is there when it was opened.** -/
theorem gives_openStore {d : DataDirectory} {s : Store} (h : Gives (openStore d) p s p') :
    s = d.store ∧ Opened d p'.files ∧ p'.messages = p.messages := by
  unfold openStore at h
  simp only [gives_changeFiles, gives_pure] at h
  obtain ⟨t, hroot, t', hcreate, rfl, rfl⟩ := h
  refine ⟨rfl, ⟨?_, ?_⟩, rfl⟩
  · by_cases hempty : d.root = ""
    · exact .inl hempty
    · obtain ⟨place, hplace⟩ := (makeDirectories_ok hroot).2 hempty
      exact .inr ⟨place, (create_extends hcreate).keeps.isDirectory hplace⟩
  · unfold Store.create at hcreate
    cases hmake : t.makeDirectories d.store.directory with
    | error e =>
      rw [hmake] at hcreate
      cases hcreate
    | ok made =>
      rw [hmake] at hcreate
      cases hcreate
      exact (makeDirectories_ok hmake).2 (store_directory_ne_empty d)

theorem Opened.gives {d : DataDirectory} (h : Opened d p.files) :
    Gives (openStore d) p d.store p := by
  have hroot : p.files.makeDirectories d.root = .ok p.files := by
    rcases h.root with hempty | ⟨place, hplace⟩
    · rw [hempty]
      rfl
    · exact hplace.makeDirectories
  obtain ⟨place, hplace⟩ := h.store
  have hcreate : d.store.create p.files = .ok p.files := by
    unfold Store.create
    rw [hplace.makeDirectories]
    rfl
  unfold openStore
  rw [gives_changeFiles]
  refine ⟨p.files, hroot, ?_⟩
  rw [gives_changeFiles]
  exact ⟨p.files, hcreate, gives_pure.2 ⟨rfl, rfl⟩⟩

/-! ## Loading rules -/

/-- The data directory that the arguments choose. -/
abbrev dataDirectory (home : String) (a : Arguments) : DataDirectory :=
  .choose home a.store

/-- The rules that the arguments ask for, as the files hold them: those of a stored rule set, those
of a file or the built-in ones. -/
def Loaded (files : FileTree) (home : String) (a : Arguments) (config : Config) : Prop :=
  match a.ruleSet with
  | some name => ∃ stored, (dataDirectory home a).store.load files name = .ok (some stored) ∧
      config = stored.config
  | none => config = (Config.loadOrBuiltin files a.rules).1

theorem harmless_loadStored (d : DataDirectory) (name : String) : Harmless (loadStored d name) := by
  unfold loadStored
  refine .bind (harmless_openStore d) fun store => .bind .get fun q => .bind (.attempt _ _) ?_
  intro found
  cases found with
  | none => exact .throw _
  | some stored =>
    refine .bind (.log nofun) fun _ => ?_
    dsimp only
    split
    · exact .bind (.log nofun) fun _ => .bind (.log nofun) fun _ => .pure _
    · exact .bind (.log nofun) fun _ => .pure _

theorem harmless_loadFile (path : Option String) : Harmless (loadFile path) := by
  unfold loadFile
  refine .bind .get fun q => ?_
  dsimp only
  cases path with
  | none => exact .bind (.log nofun) fun _ => .pure _
  | some path =>
    dsimp only
    split
    · exact .bind (.log nofun) fun _ => .bind (.log nofun) fun _ => .pure _
    · exact .bind (.log nofun) fun _ => .pure _

theorem harmless_loadRules (home : String) (a : Arguments) : Harmless (loadRules home a) := by
  unfold loadRules
  split
  · exact harmless_loadStored _ _
  · exact harmless_loadFile _

theorem gives_loadStored {d : DataDirectory} {name : String} {config : Config}
    (h : Gives (loadStored d name) p config p') :
    ∃ t stored, Extends p.files t ∧ d.store.load t name = .ok (some stored) ∧
      config = stored.config ∧ p'.files = t := by
  unfold loadStored at h
  obtain ⟨store, q, hopen, hload⟩ := gives_bind.1 h
  obtain ⟨rfl, -, -⟩ := gives_openStore hopen
  have hextends := ((harmless_openStore d).gives hopen).files
  simp only [gives_get, gives_attempt_bind] at hload
  obtain ⟨found, hfound, hload⟩ := hload
  cases found with
  | none => exact absurd hload not_gives_throw
  | some stored =>
    refine ⟨q.files, stored, hextends, hfound, ?_⟩
    dsimp only at hload
    split at hload
    · simp only [gives_log, gives_pure] at hload
      exact ⟨hload.1, hload.2 ▸ rfl⟩
    · simp only [gives_log, gives_pure] at hload
      exact ⟨hload.1, hload.2 ▸ rfl⟩

theorem gives_loadFile {path : Option String} {config : Config}
    (h : Gives (loadFile path) p config p') :
    config = (Config.loadOrBuiltin p.files path).1 ∧ p'.files = p.files := by
  unfold loadFile at h
  simp only [gives_get] at h
  cases path with
  | none =>
    simp only [gives_log, gives_pure] at h
    exact ⟨h.1, h.2 ▸ rfl⟩
  | some path =>
    dsimp only at h
    split at h
    · simp only [gives_log, gives_pure] at h
      exact ⟨h.1, h.2 ▸ rfl⟩
    · simp only [gives_log, gives_pure] at h
      exact ⟨h.1, h.2 ▸ rfl⟩

/-- **What is loaded is what the files hold before anything is written.** -/
theorem gives_loadRules {home : String} {a : Arguments} {config : Config}
    (h : Gives (loadRules home a) p config p') :
    Extends p.files p'.files ∧ Loaded p'.files home a config := by
  refine ⟨((harmless_loadRules home a).gives h).files, ?_⟩
  unfold loadRules at h
  unfold Loaded
  cases hname : a.ruleSet with
  | some name =>
    rw [hname] at h
    obtain ⟨t, stored, -, hload, hconfig, rfl⟩ := gives_loadStored h
    exact ⟨stored, hload, hconfig⟩
  | none =>
    rw [hname] at h
    obtain ⟨hconfig, hfiles⟩ := gives_loadFile h
    rw [hfiles]
    exact hconfig

/-! ## Saving rules -/

/-- Rules under the name that the arguments give them, if they do. -/
def named (a : Arguments) (config : Config) : Config :=
  match a.saveAs with
  | none => config
  | some name => { config with name }

/-- What the files become where rules are saved: the store is opened and the file of the rule set
written. -/
def Saved (i : Invocation) (a : Arguments) (config : Config) (before after : FileTree) : Prop :=
  match a.saveAs with
  | none => after = before
  | some name => ∃ opened, Extends before opened ∧ Opened (dataDirectory i.home a) opened ∧
      (dataDirectory i.home a).store.saveOn opened i.media name config i.now = (after, .ok ())

/-- What is told when rules are saved. -/
def savingMessages (a : Arguments) (config : Config) : List Message :=
  match a.saveAs with
  | none => []
  | some name =>
    [.log (.stored name config.fingerprint), .log (.saved name config.rules.length)]

/-- **Rules are saved as they were loaded**, but for their name. -/
theorem gives_saveRules {i : Invocation} {a : Arguments} {config saved : Config}
    (h : Gives (saveRules i a config) p saved p') :
    saved = named a config ∧ Saved i a saved p.files p'.files ∧
      p'.messages = p.messages ++ savingMessages a saved ∧ p'.printed = p.printed := by
  unfold saveRules at h
  unfold named Saved savingMessages
  cases hname : a.saveAs with
  | none =>
    rw [hname] at h
    obtain ⟨rfl, rfl⟩ := gives_pure.1 h
    exact ⟨rfl, rfl, (List.append_nil _).symm, rfl⟩
  | some name =>
    rw [hname] at h
    obtain ⟨store, q, hopen, hsave⟩ := gives_bind.1 h
    obtain ⟨rfl, hopened, hmessages⟩ := gives_openStore hopen
    obtain ⟨hextends, hprinted, -⟩ := (harmless_openStore _).gives hopen
    simp only [gives_writeFile, gives_log, gives_pure] at hsave
    obtain ⟨t, hwrite, rfl, rfl⟩ := hsave
    refine ⟨rfl, ⟨q.files, hextends, hopened, hwrite⟩, ?_, hprinted⟩
    simp [hmessages]

/-- Rules that cannot be saved leave the files as they are, or else saving them broke off. -/
theorem fails_saveRules {i : Invocation} {a : Arguments} {config : Config} {f : Failure}
    (h : Fails (saveRules i a config) p f p') :
    Leaves p p' ∨ ∃ name content place q, a.saveAs = some name ∧ Leaves p q ∧
      p' = { q with files := p'.files } ∧
      q.files.write ((dataDirectory i.home a).store.path name) content = .ok p'.files ∧
      (i.media.file place).room ≠ none := by
  unfold saveRules at h
  cases hname : a.saveAs with
  | none =>
    rw [hname] at h
    exact absurd h not_fails_pure
  | some name =>
    rw [hname] at h
    rcases fails_bind.1 h with hopen | ⟨store, q, hopen, hsave⟩
    · exact .inl ((harmless_openStore _).fails hopen)
    · have hleaves := (harmless_openStore _).gives hopen
      obtain ⟨rfl, -, -⟩ := gives_openStore hopen
      unfold Fails at hsave
      rw [exec_bind, exec_writeFile] at hsave
      rcases Store.saveOn_cases (dataDirectory i.home a).store q.files i.media name
        { config with name } i.now with ⟨e, hrefused⟩ | ⟨m, content, written, -, hm, -, hwrite, hrun⟩
      -- the name or the path is refused before anything is written
      · rw [hrefused] at hsave
        cases hsave
        exact .inl hleaves
      · rw [hrun] at hsave
        cases hresult : m.room.result content with
        | ok _ =>
          rw [hresult] at hsave
          cases hsave
        | error e =>
          rw [hresult] at hsave
          cases hsave
          have hroom : m.room ≠ none := by
            intro hnone
            rw [hnone] at hresult
            cases hresult
          exact .inr ⟨name, _, _, q, rfl, hleaves, rfl, hwrite, hm ▸ hroom⟩

/-! ## Reading, applying and writing -/

def inputText (i : Invocation) (a : Arguments) (files : FileTree) : Except IoError String :=
  match a.input with
  | some path => files.readText path
  | none => decodeText i.input

theorem exec_readInput (i : Invocation) (a : Arguments) (p : Progress) :
    exec (readInput i a) p = ((inputText i a p.files).mapError (.readInput a.input), p) := by
  unfold readInput inputText
  rw [exec_bind, exec_get]
  exact exec_attempt _ _ p

def reportOf (config : Config) (text : String) : Report :=
  ((Engine.mk config.toRules).transform text).1

/-- What is told when rules are applied. -/
def applyingMessages (config : Config) (text : String) : List Message :=
  let r := reportOf config text
  .log (.engineBuilt config.name config.rules.length) ::
    (r.skipped.map fun s => .log (.ruleSkipped s)) ++
    if !text.isEmpty && !config.rules.isEmpty then
      [.log (.transformed config.rules.length r.claims.length r.skipped.length)]
    else []

theorem exec_forM_log {γ : Type} (e : γ → LogEvent) (cs : List γ) (p : Progress) :
    exec (cs.forM fun c => log (e c)) p =
      (.ok (), { p with messages := p.messages ++ cs.map fun c => .log (e c) }) := by
  induction cs generalizing p with
  | nil => exact congrArg (Prod.mk _) (by simp)
  | cons c cs ih =>
    show exec (log (e c) >>= fun _ => cs.forM fun c => log (e c)) p = _
    rw [exec_bind, log, exec_tell]
    dsimp only
    rw [ih]
    simp

/-- **Rules can be applied to every text.** -/
theorem exec_applyRules (config : Config) (text : String) (p : Progress) :
    exec (applyRules config text) p =
      (.ok (reportOf config text), { p with
        messages := p.messages ++ applyingMessages config text }) := by
  unfold applyRules applyingMessages
  rw [exec_bind, log, exec_tell]
  dsimp only
  rw [exec_bind]
  have hskipped := exec_forM_log .ruleSkipped (reportOf config text).skipped
    { p with messages := p.messages ++ [.log (.engineBuilt config.name config.rules.length)] }
  unfold reportOf at hskipped
  rw [hskipped]
  dsimp only
  split
  · rw [exec_bind, log, exec_tell]
    dsimp only
    rw [exec_pure]
    simp [reportOf]
  · rw [exec_pure]
    simp [reportOf]

/-- What is told of the report, if it is asked for. -/
def reportMessages (i : Invocation) (a : Arguments) (config : Config) (text : String) :
    List Message :=
  if a.report then [.report config (reportOf config text) i.now] else []

theorem exec_writeOutput_none (i : Invocation) (text : String) (p : Progress) :
    exec (writeOutput i none text) p = ((i.media.output.result text.toUTF8).mapError .print,
      { p with printed := p.printed ++ i.media.output.taken text.toUTF8 }) :=
  exec_print .print i.media.output text p

theorem exec_writeOutput_some (i : Invocation) (path text : String) (p : Progress) :
    exec (writeOutput i (some path) text) p = match p.files.writeOn i.media path text.toUTF8 with
      | (files, .ok ()) =>
        (.ok (), { p with files, messages := p.messages ++ [.log (.outputWritten path)] })
      | (files, .error e) => (.error (.writeOutput path e), { p with files }) := by
  show exec (writeFile (.writeOutput path) (·.writeOn i.media path text.toUTF8) >>= fun _ =>
    log (.outputWritten path)) p = _
  rw [exec_bind, exec_writeFile]
  rcases p.files.writeOn i.media path text.toUTF8 with ⟨files, _ | _⟩ <;> rfl

/-! ## Whole runs -/

/-- All that a run does behind the loading and saving of its rules. -/
def behindRules (i : Invocation) (a : Arguments) (config : Config) : Step Unit :=
  if a.showRules then print .showRules i.media.output (config.render .yaml)
  else do
    let text ← readInput i a
    let r ← applyRules config text
    if a.report then tell (.report config r i.now)
    writeOutput i a.output r.output

def prepare (i : Invocation) (a : Arguments) : Step Config := do
  saveRules i a (← loadRules i.home a)

theorem gives_prepare_printed {i : Invocation} {a : Arguments} {config : Config}
    (h : Gives (prepare i a) p config p') : p'.printed = p.printed := by
  obtain ⟨rules, q, hload, hsave⟩ := gives_bind.1 h
  obtain ⟨-, -, -, hprinted⟩ := gives_saveRules hsave
  exact hprinted.trans ((harmless_loadRules _ _).gives hload).printed

theorem all_eq (i : Invocation) (a : Arguments) : all i a = prepare i a >>= behindRules i a := by
  rw [prepare, bind_assoc]
  rfl

/-- **A run prepares its rules and goes on with them.** -/
theorem exec_all (i : Invocation) (a : Arguments) (p : Progress) :
    exec (all i a) p = match exec (prepare i a) p with
      | (.ok config, p') => exec (behindRules i a config) p'
      | (.error f, p') => (.error f, p') := by
  rw [all_eq, exec_bind]
  rcases exec (prepare i a) p with ⟨f | config, p'⟩ <;> rfl

theorem exec_behindRules_showRules {i : Invocation} {a : Arguments} (h : a.showRules = true)
    (config : Config) (p : Progress) :
    exec (behindRules i a config) p =
      exec (print .showRules i.media.output (config.render .yaml)) p := by
  unfold behindRules
  rw [if_pos h]

/-- **Behind its rules, a run reads its input and writes what the rules make of it.** -/
theorem exec_behindRules {i : Invocation} {a : Arguments} (h : a.showRules = false)
    (config : Config) (p : Progress) :
    exec (behindRules i a config) p = match inputText i a p.files with
      | .error e => (.error (.readInput a.input e), p)
      | .ok text => exec (writeOutput i a.output (reportOf config text).output)
        { p with messages :=
            p.messages ++ (applyingMessages config text ++ reportMessages i a config text) } := by
  unfold behindRules
  rw [if_neg (by simp [h]), exec_bind, exec_readInput]
  cases inputText i a p.files with
  | error e => rfl
  | ok text =>
    change exec (applyRules config text >>= _) p = _
    rw [exec_bind, exec_applyRules]
    dsimp only
    unfold reportMessages
    split
    · rw [exec_bind, exec_tell, List.append_assoc]
    · rw [List.append_nil]

end Step

theorem Failure.exitCode_ne_zero (f : Failure) : f.exitCode ≠ 0 := by
  cases f <;> exact nofun

theorem outcome_eq {i : Invocation} {a : Arguments} (h : Arguments.read i.arguments = .ok a) :
    i.outcome = match Step.exec (Step.all i a) ⟨i.files, [], .empty⟩ with
      | (.ok (), p) => ⟨0, p.printed, p.messages.filter (·.isShown a.verbose), p.files⟩
      | (.error f, p) => ⟨f.exitCode, p.printed,
        p.messages.filter (·.isShown a.verbose) ++ [.failure f], p.files⟩ := by
  unfold Invocation.outcome
  rw [h]
  rfl

/-- A run that succeeds comes to its end. -/
theorem gives_of_exitCode {i : Invocation} {a : Arguments}
    (h : Arguments.read i.arguments = .ok a) (hok : i.outcome.exitCode = 0) :
    ∃ p, Step.Gives (Step.all i a) ⟨i.files, [], .empty⟩ () p ∧ i.outcome =
      ⟨0, p.printed, p.messages.filter (·.isShown a.verbose), p.files⟩ := by
  rw [outcome_eq h] at hok ⊢
  unfold Step.Gives
  rcases hexec : Step.exec (Step.all i a) ⟨i.files, [], .empty⟩ with ⟨f | _, p⟩
  · rw [hexec] at hok
    exact absurd hok f.exitCode_ne_zero
  · exact ⟨p, rfl, rfl⟩

end FirstClaim.CommandLine
