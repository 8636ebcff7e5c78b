import FirstClaim.Proofs.RuleSet.Editing
import Mathlib.Data.List.Perm.Subperm

/-!
# Rule sets that come about by editing

A rule set is made from an `Origin` and goes through a list of `Change`s (`session`). A change that
is refused leaves the set as it is.

* `Change.run_identified`, `Origin.make_identified`: every record has an id, whatever is done.
* `Change.ids_subperm`, `Origin.ids_perm`: an id in the set after a change was there before or is
  brought by the change, and it occurs no more often than that.

`session_identified`: a set that has been edited needs no more ids, so it comes back from its own
export as it is.
-/

set_option autoImplicit false

namespace FirstClaim.RuleSet

open scoped List

/-- What a rule set is made from. -/
inductive Origin where
  | empty (name : String)
  | records (name : String) (records : List RuleRecord)
  | config (config : Config)

/-- An operation on a rule set, with its arguments. -/
inductive Change where
  | add (r : RuleRecord)
  | addEmpty
  | edit (id : String) (r : RuleRecord)
  | delete (id : String)
  | move (source target : String)
  | reset
  | ensureIds

def Origin.make : Origin → WithIds RuleSet
  | .empty name => pure (.empty name)
  | .records name rs => ofRecords name rs
  | .config c => ofConfig c

def Origin.input : Origin → List RuleRecord
  | .empty _ => []
  | .records _ rs => rs
  | .config c => c.rules

/-- The rule set after a change; it stays as it is if the change is refused. -/
def Change.run (s : RuleSet) : Change → WithIds RuleSet
  | .add r => do return (← s.add r).2
  | .addEmpty => do return (← s.addEmpty).2
  | .edit id r => pure ((s.edit id r).toOption.getD s)
  | .delete id => pure ((s.delete id).toOption.elim s (·.2))
  | .move source target => pure ((s.move source target).toOption.getD s)
  | .reset => s.reset
  | .ensureIds => s.ensureIds

/-- The id that comes with a new record. -/
def Change.given : Change → List String
  | .add r => r.id.toList
  | _ => []

def changed (s : RuleSet) (changes : List Change) : WithIds RuleSet :=
  changes.foldlM Change.run s

/-- The rule set that is made from an origin and goes through changes. -/
def session (origin : Origin) (changes : List Change) : WithIds RuleSet := do
  changed (← origin.make) changes

theorem run_changed_cons (s : RuleSet) (c : Change) (changes : List Change) (supply : IdSupply) :
    (s.changed (c :: changes)).run supply =
      (((c.run s).run supply).1.changed changes).run ((c.run s).run supply).2 := by
  unfold changed
  rw [List.foldlM_cons]
  rfl

theorem run_session (origin : Origin) (changes : List Change) (supply : IdSupply) :
    (session origin changes).run supply =
      ((origin.make.run supply).1.changed changes).run (origin.make.run supply).2 := rfl

/-! ## Ids -/

variable {s : RuleSet} {supply : IdSupply}

theorem Origin.make_spec (origin : Origin) (supply : IdSupply) :
    (origin.make.run supply).1.Identified ∧
      (origin.make.run supply).1.ids ~ idsOf origin.input ++ drawn origin.make supply := by
  have hrecords : ∀ name records, ((ofRecords name records).run supply).1.Identified ∧
      ((ofRecords name records).run supply).1.ids ~
        idsOf records ++ drawn (ofRecords name records) supply := by
    intro name records
    obtain ⟨identified, hrun, hsome, hperm⟩ := run_identifyAll records supply
    have hmade : (ofRecords name records).run supply =
        (⟨name, identified⟩, supply.after (lacking records)) := by
      unfold ofRecords
      rw [run_ensureIds, hrun]
    rw [drawn_of_run hmade, hmade]
    exact ⟨hsome, hperm⟩
  cases origin with
  | empty name =>
    have hdrawn : drawn (Origin.empty name).make supply = [] := drawn_of_run (n := 0) rfl
    rw [hdrawn]
    exact ⟨fun r hr => (List.not_mem_nil hr).elim, .refl _⟩
  | records name records => exact hrecords name records
  | config c => exact hrecords c.name c.rules

/-- The ids of a rule set come from those of another one and from ids that are brought in, and no
record is without one unless it was so before. -/
structure IdsFrom (s : RuleSet) (brought : List String) (s' : RuleSet) : Prop where
  identified : s.Identified → s'.Identified
  ids : s'.ids <+~ s.ids ++ brought

theorem IdsFrom.refl (s : RuleSet) : s.IdsFrom [] s := by
  refine ⟨id, ?_⟩
  rw [List.append_nil]

theorem add_idsFrom (s : RuleSet) (r : RuleRecord) (supply : IdSupply) :
    s.IdsFrom (r.id.toList ++ drawn (s.add r) supply) ((s.add r).run supply).1.2 := by
  obtain ⟨id, hrun, hid⟩ := s.run_add r supply
  rw [drawn_of_run hrun, hid, hrun]
  constructor
  · intro h t ht
    rcases List.mem_append.1 ht with ht | ht
    · exact h t ht
    · rw [List.mem_singleton.1 ht]
      rfl
  · simp [RuleSet.ids, idsOf, List.Subperm.refl]

theorem edit_idsFrom {s s' : RuleSet} {id : String} {r : RuleRecord} (h : s.edit id r = .ok s') :
    s.IdsFrom [] s' := by
  obtain ⟨before, old, after, hfirst, rfl⟩ := edit_ok h
  constructor
  · intro hs t ht
    change t ∈ before ++ _ :: after at ht
    rw [List.mem_append, List.mem_cons] at ht
    rcases ht with ht | rfl | ht
    · exact hs t (by simp [hfirst.records, ht])
    · rfl
    · exact hs t (by simp [hfirst.records, ht])
  · -- the id of the record that goes is the id of the one that comes
    simp [RuleSet.ids, idsOf, hfirst.records, hfirst.id_eq, List.Subperm.refl]

theorem delete_idsFrom {s s' : RuleSet} {id : String} {r : RuleRecord}
    (h : s.delete id = .ok (r, s')) : s.IdsFrom [] s' := by
  obtain ⟨before, after, hfirst, rfl⟩ := delete_ok h
  have hsub : before ++ after <+ s.records := by
    rw [hfirst.records]
    exact (List.sublist_cons_self r after).append_left before
  constructor
  · exact fun hs t ht => hs t (hsub.mem ht)
  · rw [List.append_nil]
    exact (hsub.filterMap _).subperm

theorem move_idsFrom {s s' : RuleSet} {source target : String}
    (h : s.move source target = .ok s') : s.IdsFrom [] s' := by
  obtain ⟨-, hperm⟩ := move_perm h
  constructor
  · exact fun hs t ht => hs t (hperm.mem_iff.1 ht)
  · rw [List.append_nil]
    exact (hperm.filterMap _).subperm

theorem reset_idsFrom (s : RuleSet) (supply : IdSupply) :
    s.IdsFrom (drawn s.reset supply) (s.reset.run supply).1 := by
  obtain ⟨identified, hrun, hsome, hperm⟩ := run_identifyAll builtinRules supply
  have hreset : s.reset.run supply =
      ({ s with records := identified }, supply.after (lacking builtinRules)) := by
    rw [run_reset, hrun]
  rw [drawn_of_run hreset, hreset]
  constructor
  · exact fun _ => hsome
  · -- the built-in rules come without ids, so all ids are new
    have hnone : idsOf builtinRules = [] := rfl
    rw [hnone, List.nil_append] at hperm
    exact hperm.subperm.trans (List.sublist_append_right _ _).subperm

theorem ensureIds_idsFrom (s : RuleSet) (supply : IdSupply) :
    s.IdsFrom (drawn s.ensureIds supply) (s.ensureIds.run supply).1 := by
  obtain ⟨identified, hrun, hsome, hperm⟩ := run_identifyAll s.records supply
  have hensure : s.ensureIds.run supply =
      ({ s with records := identified }, supply.after (lacking s.records)) := by
    rw [run_ensureIds, hrun]
  rw [drawn_of_run hensure, hensure]
  exact ⟨fun _ => hsome, hperm.subperm⟩

/-- **What a change does to the ids**: those after it were there before, came with a new record or
were taken from the supply. -/
theorem Change.idsFrom (c : Change) (s : RuleSet) (supply : IdSupply) :
    s.IdsFrom (c.given ++ drawn (c.run s) supply) ((c.run s).run supply).1 := by
  -- a change that takes nothing from the supply
  have hpure : ∀ s', s.IdsFrom [] s' →
      s.IdsFrom ([] ++ drawn (pure s' : WithIds RuleSet) supply) s' := by
    intro s' h
    rwa [drawn_of_run (m := (pure s' : WithIds RuleSet)) (n := 0) rfl]
  cases c with
  | add r => exact s.add_idsFrom r supply
  | addEmpty => exact s.add_idsFrom {} supply
  | edit id r =>
    refine hpure _ ?_
    cases h : s.edit id r with
    | error e => exact .refl s
    | ok s' => exact edit_idsFrom h
  | delete id =>
    refine hpure _ ?_
    cases h : s.delete id with
    | error e => exact .refl s
    | ok p => exact delete_idsFrom h
  | move source target =>
    refine hpure _ ?_
    cases h : s.move source target with
    | error e => exact .refl s
    | ok s' => exact move_idsFrom h
  | reset => exact s.reset_idsFrom supply
  | ensureIds => exact s.ensureIds_idsFrom supply

/-! ## Every rule is identified -/

theorem changed_identified : ∀ (changes : List Change) {s : RuleSet} (supply : IdSupply),
    s.Identified → ((s.changed changes).run supply).1.Identified
  | [], _, _, h => h
  | c :: changes, s, supply, h => by
    rw [run_changed_cons]
    exact changed_identified changes _ ((c.idsFrom s supply).identified h)

theorem identified_session (origin : Origin) (changes : List Change) (supply : IdSupply) :
    ((session origin changes).run supply).1.Identified := by
  rw [run_session]
  exact changed_identified changes _ (origin.make_spec supply).1

/-- **A rule set that has been edited is fully identified**: each rule has an id, no more ids are
wanted, and reading back its export gives the very set and takes no id from the supply. -/
theorem session_identified (origin : Origin) (changes : List Change) (supply : IdSupply) :
    let s := ((session origin changes).run supply).1
    (∀ r ∈ s.records, r.id.isSome) ∧
      ∀ supply', s.ensureIds.run supply' = (s, supply') ∧
        (ofConfig s.toConfig).run supply' = (s, supply') := by
  intro s
  have hs : s.Identified := identified_session origin changes supply
  refine ⟨hs, fun supply' => ?_⟩
  have hensure : s.ensureIds.run supply' = (s, supply') := by
    rw [run_ensureIds, run_identifyAll_of_isSome supply' hs]
  exact ⟨hensure, hensure⟩

end FirstClaim.RuleSet
