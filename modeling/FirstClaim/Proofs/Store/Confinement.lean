import FirstClaim.Proofs.Medium
import FirstClaim.Proofs.Steps
import FirstClaim.Proofs.Store.History
import FirstClaim.Proofs.Store.Names

/-!
# What a store may change

An operation of a store is a series of steps on the files (`Operation.steps`), each of which may
fail, and it does what `perform` says (`exec_steps`). Whatever stands in the files, the only place
that an operation changes is that of the file of its name, and only if the name is one that the
store takes (`perform_cases`). The main statement is `steps_confined`.
-/

set_option autoImplicit false

namespace FirstClaim.Store

open FileTree

variable {s : Store} {t t' : FileTree} {name : String} {config : Config} {now : Timestamp}

/-! ## Places -/

theorem leadsTo_path (t : FileTree) (parent : String) (hname : isStoreName name = true) :
    t.leadsTo ((below parent).path name) = t.leadsTo parent ++ ["rulesets", name ++ ".json"] := by
  have hdirectory : t.leadsTo (below parent).directory = t.leadsTo parent ++ ["rulesets"] :=
    leadsTo_join t (by decide) (by decide) (by decide) (by decide)
  have hpath : t.leadsTo ((below parent).path name) =
      t.leadsTo (below parent).directory ++ [name ++ ".json"] :=
    leadsTo_join t (not_mem_json hname (by decide) rfl) (json_ne hname (by decide))
      (json_ne hname (by decide)) (json_ne hname (by decide))
  rw [hpath, hdirectory, List.append_assoc]
  rfl

/-- **Different names have different files.** -/
theorem name_eq_of_leadsTo {parent other : String} (hname : isStoreName name = true)
    (hother : isStoreName other = true)
    (h : t.leadsTo ((below parent).path name) = t.leadsTo ((below parent).path other)) :
    name = other := by
  rw [leadsTo_path t parent hname, leadsTo_path t parent hother] at h
  simpa using List.append_cancel_left h

/-! ## What succeeds -/

/-- What succeeds behind the check of a name succeeds, and the name is one that the store takes. -/
theorem checkName_bind_ok {α : Type} {x : Except StoreError α} {a : α} :
    (do checkName name; x) = .ok a ↔ isStoreName name = true ∧ x = .ok a := by
  unfold checkName
  cases isStoreName name <;> simp [bind, Except.bind]

theorem mapError_ok {α ε ε' : Type} (a : α) (f : ε → ε') :
    (Except.ok a : Except ε α).mapError f = .ok a :=
  rfl

theorem ok_of_mapError {α ε ε' : Type} {x : Except ε α} {f : ε → ε'} {a : α}
    (h : x.mapError f = .ok a) : x = .ok a := by
  cases x with
  | error e => cases h
  | ok b =>
    cases h
    rfl

/-- A save that succeeds is a write of the file of the rule set. -/
theorem save_ok (h : s.save t name config now = .ok t') :
    isStoreName name = true ∧
      t.write (s.path name) (StoredRuleSet.ofConfig config now).render.toUTF8 = .ok t' := by
  obtain ⟨hname, hwrite⟩ := checkName_bind_ok.1 h
  exact ⟨hname, ok_of_mapError hwrite⟩

/-- **A save is refused**, and then nothing changes, or else the file of the rule set holds what its
medium keeps. -/
theorem saveOn_cases (s : Store) (t : FileTree) (media : Media) (name : String)
    (config : Config) (now : Timestamp) :
    (∃ e, s.saveOn t media name config now = (t, .error e)) ∨
      ∃ m content written, isStoreName name = true ∧ m = media.file (t.leadsTo (s.path name)) ∧
        content = (StoredRuleSet.ofConfig config now).render.toUTF8 ∧
        t.write (s.path name) (m.kept content) = .ok written ∧
        s.saveOn t media name config now = (written, (m.room.result content).mapError .io) := by
  unfold saveOn
  cases hname : checkName name with
  | error e => exact .inl ⟨e, rfl⟩
  | ok _ =>
    dsimp only
    rcases t.writeOn_cases media (s.path name) (StoredRuleSet.ofConfig config now).render.toUTF8
      with ⟨e, hrefused⟩ | ⟨m, written, hm, hwrite, hrun⟩
    · exact .inl ⟨.io e, by rw [hrefused]; rfl⟩
    · exact .inr ⟨m, _, written, checkName_ok_iff.1 hname, hm, rfl, hwrite, by rw [hrun]⟩

theorem saveOn_ok {media : Media} (h : s.saveOn t media name config now = (t', .ok ())) :
    let m := media.file (t.leadsTo (s.path name))
    let content := (StoredRuleSet.ofConfig config now).render.toUTF8
    isStoreName name = true ∧ m.room.result content = .ok () ∧
      t.write (s.path name) (m.kept content) = .ok t' := by
  obtain ⟨e, hrefused⟩ | ⟨m, content, written, hname, rfl, rfl, hwrite, hrun⟩ :=
    s.saveOn_cases t media name config now
  · rw [hrefused] at h
    cases h
  · obtain ⟨rfl, hresult⟩ := Prod.mk.inj (hrun.symm.trans h)
    exact ⟨hname, ok_of_mapError hresult, hwrite⟩

theorem remove_ok (h : s.remove t name = .ok t') :
    isStoreName name = true ∧
      (t.contains (s.path name) = false ∧ t' = t ∨ t.removeFile (s.path name) = .ok t') := by
  obtain ⟨hname, hremove⟩ := checkName_bind_ok.1 h
  refine ⟨hname, ?_⟩
  split at hremove
  · exact .inr (ok_of_mapError hremove)
  · rename_i hcontains
    cases hremove
    exact .inl ⟨by simpa using hcontains, rfl⟩

/-! ## Operations step by step -/

/-- The steps of an operation. Each looks at the files or makes one change. -/
def Operation.steps (s : Store) : Operation → Steps StoreError FileTree Answer
  | .save name config now => do
    Steps.look fun _ => checkName name
    let text := (StoredRuleSet.ofConfig config now).render
    Steps.change fun files => (files.write (s.path name) text.toUTF8).mapError .io
    pure .done
  | .load name => do
    Steps.look fun _ => checkName name
    if ← Steps.look fun files => .ok (files.contains (s.path name)) then
      let text ← Steps.look fun files => (files.readText (s.path name)).mapError .io
      let stored ← Steps.look fun _ => (StoredRuleSet.parse text).mapError .json
      pure (.found (some stored))
    else pure (.found none)
  | .remove name => do
    Steps.look fun _ => checkName name
    if ← Steps.look fun files => .ok (files.contains (s.path name)) then
      Steps.change fun files => (files.removeFile (s.path name)).mapError .io
    pure .done
  | .list => do
    return .names (← Steps.look s.list)

/-- **The steps of an operation do what the operation does.** -/
theorem exec_steps (s : Store) (files : FileTree) (op : Operation) :
    Steps.exec (op.steps s) files = s.perform files op := by
  cases op with
  | save name config now =>
    simp only [Operation.steps, perform, save, Steps.exec_look_bind, Steps.exec_change_bind]
    cases checkName name with
    | error e => rfl
    | ok u =>
      cases files.write (s.path name) (StoredRuleSet.ofConfig config now).render.toUTF8 <;> rfl
  | load name =>
    simp only [Operation.steps, perform, load, Steps.exec_look_bind]
    cases checkName name with
    | error e => rfl
    | ok u =>
      cases files.contains (s.path name) with
      | false => rfl
      | true =>
        simp only [if_true, Steps.exec_look_bind]
        cases files.readText (s.path name) with
        | error e => rfl
        | ok text =>
          simp only [mapError_ok, bind, Except.bind]
          cases StoredRuleSet.parse text <;> rfl
  | remove name =>
    simp only [Operation.steps, perform, remove, Steps.exec_look_bind]
    cases checkName name with
    | error e => rfl
    | ok u =>
      cases files.contains (s.path name) with
      | false => rfl
      | true =>
        simp only [if_true, Steps.exec_change_bind]
        cases files.removeFile (s.path name) <;> rfl
  | list =>
    simp only [Operation.steps, perform, Steps.exec_look_bind]
    cases s.list files <;> rfl

/-! ## What changes -/

/-- Two trees have the same at all places but one. -/
structure SameBut (t t' : FileTree) (place : Location) : Prop where
  current : t'.current = t.current
  other : ∀ q, q ≠ place → t'.node? q = t.node? q

theorem sameBut_of_write {path : String} {content : ByteArray}
    (h : t.write path content = .ok t') : SameBut t t' (t.leadsTo path) := by
  obtain ⟨place, hpath, -, -, rfl⟩ := write_ok h
  rw [← resolve_ok hpath]
  exact ⟨rfl, fun _ hq => node?_put_other _ _ hq⟩

theorem sameBut_of_removeFile {path : String} (h : t.removeFile path = .ok t') :
    SameBut t t' (t.leadsTo path) := by
  obtain ⟨place, content, hpath, -, rfl⟩ := removeFile_ok h
  rw [← resolve_ok hpath]
  exact ⟨rfl, fun _ hq => node?_erase_other _ hq⟩

theorem contains_of_removeFile {path : String} (h : t.removeFile path = .ok t') :
    t'.contains path = false := by
  obtain ⟨place, content, hpath, hnode, rfl⟩ := removeFile_ok h
  have hfile : t.node? place ≠ some .directory := by
    rw [hnode]
    exact nofun
  have hgone := find_none ((keeps_erase hfile).resolve hpath)
    (node?_erase_self t (ne_root_of_not_directory hfile))
  rw [contains, hgone]
  rfl

/-- **An operation changes nothing, or nothing but the file of its name.** -/
theorem perform_cases (s : Store) (files : FileTree) (op : Operation) :
    (s.perform files op).2 = files ∨
      (s.perform files op).1 = .ok .done ∧ ∃ name, op.Sets name ∧ isStoreName name = true ∧
        SameBut files (s.perform files op).2 (files.leadsTo (s.path name)) := by
  cases op with
  | save name config now =>
    rw [perform]
    cases hsave : s.save files name config now with
    | error e => exact .inl rfl
    | ok files' =>
      obtain ⟨hname, hwrite⟩ := save_ok hsave
      exact .inr ⟨rfl, name, .inl ⟨config, now, rfl⟩, hname, sameBut_of_write hwrite⟩
  | load name => exact .inl rfl
  | remove name =>
    rw [perform]
    cases hremove : s.remove files name with
    | error e => exact .inl rfl
    | ok files' =>
      obtain ⟨hname, ⟨-, rfl⟩ | hfile⟩ := remove_ok hremove
      · exact .inl rfl
      · exact .inr ⟨rfl, name, .inr rfl, hname, sameBut_of_removeFile hfile⟩
  | list => exact .inl rfl

/-- What the operations of a store do to files, step by step: each failure leaves them as they were,
and so does a look at them. All changes are to the files of names that the store takes, in the
directory at `place`, and these are as many as the names. -/
structure Confined (s : Store) (place : Location) (files : FileTree) : Prop where
  performs : ∀ op : Operation, Steps.exec (op.steps s) files = s.perform files op
  fails : ∀ (op : Operation) e files',
    Steps.exec (op.steps s) files = (.error e, files') → files' = files
  loads : ∀ name, (Steps.exec ((Operation.load name).steps s) files).2 = files
  lists : (Steps.exec (Operation.list.steps s) files).2 = files
  changes : ∀ (op : Operation) q, (Steps.exec (op.steps s) files).2.node? q ≠ files.node? q →
    ∃ name, op.Sets name ∧ isStoreName name = true ∧ q = place ++ [name ++ ".json"]
  current : ∀ op : Operation, (Steps.exec (op.steps s) files).2.current = files.current
  saves : ∀ name config now files',
    Steps.exec ((Operation.save name config now).steps s) files = (.ok .done, files') →
      files'.readText (s.path name) = .ok (StoredRuleSet.ofConfig config now).render
  removes : ∀ name files',
    Steps.exec ((Operation.remove name).steps s) files = (.ok .done, files') →
      files'.contains (s.path name) = false
  leads : ∀ name, isStoreName name = true →
    files.leadsTo (s.path name) = place ++ [name ++ ".json"]
  distinct : ∀ name other, isStoreName name = true → isStoreName other = true →
    files.leadsTo (s.path name) = files.leadsTo (s.path other) → name = other

/-- **The operations of a store change nothing but its own files, and nothing if they fail**,
whatever stands in the files and whether or not the directory of the store is there. -/
theorem steps_confined (parent : String) (files : FileTree) :
    Confined (below parent) (files.leadsTo parent ++ ["rulesets"]) files where
  performs op := exec_steps (below parent) files op
  fails op e files' hexec := by
    rw [exec_steps] at hexec
    rcases perform_cases (below parent) files op with hsame | ⟨hdone, -⟩
    · rw [← hsame, hexec]
    · rw [hexec] at hdone
      cases hdone
  loads name := by
    rw [exec_steps]
    rfl
  lists := by
    rw [exec_steps]
    rfl
  changes op q hq := by
    rw [exec_steps] at hq
    rcases perform_cases (below parent) files op with hsame | ⟨-, name, hsets, hname, hbut⟩
    · rw [hsame] at hq
      exact absurd rfl hq
    · refine ⟨name, hsets, hname, ?_⟩
      rw [← List.append_cons, ← leadsTo_path files parent hname]
      exact Decidable.byContradiction fun hne => hq (hbut.other q hne)
  current op := by
    rw [exec_steps]
    rcases perform_cases (below parent) files op with hsame | ⟨-, name, -, -, hbut⟩
    · rw [hsame]
    · exact hbut.current
  saves name config now files' hexec := by
    rw [exec_steps, perform] at hexec
    cases hsave : (below parent).save files name config now with
    | error e =>
      rw [hsave] at hexec
      cases hexec
    | ok t =>
      rw [hsave] at hexec
      cases hexec
      exact readText_of_write (save_ok hsave).2
  removes name files' hexec := by
    rw [exec_steps, perform] at hexec
    cases hremove : (below parent).remove files name with
    | error e =>
      rw [hremove] at hexec
      cases hexec
    | ok t =>
      rw [hremove] at hexec
      cases hexec
      obtain ⟨-, ⟨hnone, rfl⟩ | hfile⟩ := remove_ok hremove
      · exact hnone
      · exact contains_of_removeFile hfile
  leads name hname := by
    rw [leadsTo_path files parent hname, ← List.append_cons]
  distinct name other hname hother := name_eq_of_leadsTo hname hother

end FirstClaim.Store
