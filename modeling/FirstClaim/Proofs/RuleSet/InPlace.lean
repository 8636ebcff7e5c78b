import FirstClaim.Proofs.RuleSet.Session
import FirstClaim.Proofs.Steps

/-!
# Rule sets edited in place

A rule set is edited in steps that look up an id and change the list of records (`editSteps`,
`deleteSteps`, `moveSteps`). An index that is out of range would make a step fail and leave what
the steps before it have done; no step does (`exec_editSteps`, `exec_deleteSteps`,
`exec_moveSteps`), and a look-up that fails comes before all changes.

The main statement is `touches_only_targets`: an operation touches the records that its ids lead to,
and no others.
-/

set_option autoImplicit false

namespace FirstClaim.RuleSet

open scoped List

/-! ## Steps -/

/-- Why a step of editing fails. -/
inductive EditFailure where
  | unknown (error : UnknownRule)
  /-- There is no record at the index, or none can be put there. -/
  | outOfRange (index : Nat)
deriving DecidableEq, Repr

/-- Steps on a rule set. -/
abbrev Editing := Steps EditFailure RuleSet

def find (id : String) : Editing Nat :=
  Steps.look fun s => (s.indexOf id).mapError .unknown

def replaceAt (i : Nat) (r : RuleRecord) : Editing Unit :=
  Steps.change fun s =>
    if i < s.records.length then .ok { s with records := s.records.set i r }
    else .error (.outOfRange i)

def takeAt (i : Nat) : Editing RuleRecord := do
  let r ← Steps.look fun s =>
    match s.records[i]? with
    | some r => .ok r
    | none => .error (.outOfRange i)
  Steps.change fun s => .ok { s with records := s.records.eraseIdx i }
  pure r

/-- Puts in a record before the one at an index, or behind the last one. -/
def putAt (i : Nat) (r : RuleRecord) : Editing Unit :=
  Steps.change fun s =>
    if i ≤ s.records.length then .ok { s with records := s.records.insertIdx i r }
    else .error (.outOfRange i)

def editSteps (id : String) (r : RuleRecord) : Editing Unit := do
  let i ← find id
  replaceAt i { r with id := some id }

def deleteSteps (id : String) : Editing RuleRecord := do
  let i ← find id
  takeAt i

/-- The steps of a move. Both ids are looked up before the record is taken out. -/
def moveSteps (source target : String) : Editing Unit :=
  if source = target then pure ()
  else do
    let i ← find source
    let j ← find target
    let r ← takeAt i
    putAt j r

/-- What is given and left behind if an operation that fails changes nothing. -/
def inPlace {α : Type} (s : RuleSet) : Except UnknownRule (α × RuleSet) →
    Except EditFailure α × RuleSet
  | .ok (a, s') => (.ok a, s')
  | .error e => (.error (.unknown e), s)

/-! ## What the steps do -/

variable {s s' : RuleSet} {id source target : String} {r : RuleRecord}

theorem exec_find_bind {β : Type} (f : Nat → Editing β) :
    Steps.exec (find id >>= f) s = match s.indexOf id with
      | .ok i => Steps.exec (f i) s
      | .error e => (.error (.unknown e), s) := by
  rw [find, Steps.exec_look_bind]
  cases s.indexOf id <;> rfl

theorem exec_replaceAt {i : Nat} (h : i < s.records.length) (r : RuleRecord) :
    Steps.exec (replaceAt i r) s = (.ok (), { s with records := s.records.set i r }) := by
  rw [replaceAt, Steps.exec_change, if_pos h]

theorem exec_takeAt {i : Nat} (h : s.records[i]? = some r) :
    Steps.exec (takeAt i) s = (.ok r, { s with records := s.records.eraseIdx i }) := by
  rw [takeAt, Steps.exec_look_bind, h]
  dsimp only
  rw [Steps.exec_change_bind]
  rfl

theorem exec_putAt {i : Nat} (h : i ≤ s.records.length) (r : RuleRecord) :
    Steps.exec (putAt i r) s = (.ok (), { s with records := s.records.insertIdx i r }) := by
  rw [putAt, Steps.exec_change, if_pos h]

/-- **The steps of an edit do what the edit does**, and the index is in range. -/
theorem exec_editSteps (s : RuleSet) (id : String) (r : RuleRecord) :
    Steps.exec (editSteps id r) s = s.inPlace ((s.edit id r).map ((), ·)) := by
  rw [editSteps, exec_find_bind]
  by_cases hid : id ∈ s.ids
  · obtain ⟨before, old, after, hfirst⟩ := exists_firstWith hid
    have hlt := (List.getElem?_eq_some_iff.1 hfirst.getElem?).1
    rw [hfirst.indexOf, hfirst.edit]
    dsimp only [Except.map, inPlace]
    rw [exec_replaceAt hlt, hfirst.records]
    simp
  · rw [indexOf_error.2 ⟨rfl, hid⟩, edit_error hid]
    rfl

/-- **The steps of a deletion do what the deletion does**, and the index is in range. -/
theorem exec_deleteSteps (s : RuleSet) (id : String) :
    Steps.exec (deleteSteps id) s = s.inPlace (s.delete id) := by
  rw [deleteSteps, exec_find_bind]
  by_cases hid : id ∈ s.ids
  · obtain ⟨before, r, after, hfirst⟩ := exists_firstWith hid
    rw [hfirst.indexOf, hfirst.delete]
    dsimp only [inPlace]
    rw [exec_takeAt hfirst.getElem?, hfirst.eraseIdx]
  · rw [indexOf_error.2 ⟨rfl, hid⟩, delete_error hid]
    rfl

/-- **The steps of a move do what the move does**: the index to insert at, which is found before the
record is taken out, is still in range behind that. -/
theorem exec_moveSteps (s : RuleSet) (source target : String) :
    Steps.exec (moveSteps source target) s = s.inPlace ((s.move source target).map ((), ·)) := by
  by_cases hne : source = target
  · subst hne
    rw [moveSteps, if_pos rfl, move_self]
    rfl
  rw [moveSteps, if_neg hne, exec_find_bind]
  by_cases hsource : source ∈ s.ids
  · obtain ⟨before, r, after, hfirst⟩ := exists_firstWith hsource
    rw [hfirst.indexOf]
    dsimp only
    rw [exec_find_bind]
    by_cases htarget : target ∈ s.ids
    · obtain ⟨before', t, after', hfirst'⟩ := exists_firstWith htarget
      rw [hfirst'.indexOf, hfirst.move hfirst' hne]
      dsimp only [Except.map, inPlace]
      rw [Steps.exec_bind, exec_takeAt hfirst.getElem?]
      exact exec_putAt (hfirst.length_le hfirst') r
    · rw [indexOf_error.2 ⟨rfl, htarget⟩, move_error hne htarget (.inr ⟨hsource, rfl⟩)]
      rfl
  · rw [indexOf_error.2 ⟨rfl, hsource⟩, move_error hne hsource (.inl rfl)]
    rfl

/-! ## What is left behind -/

theorem inPlace_ok_iff {α : Type} {x : Except UnknownRule (α × RuleSet)} {a : α} :
    s.inPlace x = (.ok a, s') ↔ x = .ok (a, s') := by
  cases x with
  | error e => simp [inPlace]
  | ok p => simp [inPlace, Prod.ext_iff]

theorem inPlace_error_iff {α : Type} {x : Except UnknownRule (α × RuleSet)} {e : EditFailure} :
    s.inPlace x = (.error e, s') ↔ s' = s ∧ ∃ u, e = .unknown u ∧ x = .error u := by
  cases x with
  | error u => simp [inPlace, eq_comm, and_comm]
  | ok p => simp [inPlace]

theorem map_ok_iff {x : Except UnknownRule RuleSet} :
    x.map ((), ·) = .ok ((), s') ↔ x = .ok s' := by
  cases x <;> simp [Except.map]

theorem map_error_iff {x : Except UnknownRule RuleSet} {u : UnknownRule} :
    x.map ((), ·) = .error u ↔ x = .error u := by
  cases x <;> simp [Except.map]

/-! ## What is touched -/

theorem Change.run_name (c : Change) (s : RuleSet) (supply : IdSupply) :
    ((c.run s).run supply).1.name = s.name := by
  have hadd : ∀ r, ((s.add r).run supply).1.2.name = s.name := fun r => by
    obtain ⟨id, hrun, -⟩ := s.run_add r supply
    rw [hrun]
  cases c with
  | add r => exact hadd r
  | addEmpty => exact hadd {}
  | edit id r =>
    change ((s.edit id r).toOption.getD s).name = s.name
    cases h : s.edit id r with
    | error e => rfl
    | ok s' =>
      obtain ⟨_, _, _, -, rfl⟩ := edit_ok h
      rfl
  | delete id =>
    change ((s.delete id).toOption.elim s (·.2)).name = s.name
    cases h : s.delete id with
    | error e => rfl
    | ok p =>
      obtain ⟨r, s'⟩ := p
      obtain ⟨_, _, -, rfl⟩ := delete_ok h
      rfl
  | move source target =>
    change ((s.move source target).toOption.getD s).name = s.name
    cases h : s.move source target with
    | error e => rfl
    | ok s' => exact (move_perm h).1
  | reset => rfl
  | ensureIds => rfl

theorem changed_name : ∀ (changes : List Change) (s : RuleSet) (supply : IdSupply),
    ((s.changed changes).run supply).1.name = s.name
  | [], _, _ => rfl
  | c :: changes, s, supply => by
    rw [run_changed_cons, changed_name changes, c.run_name]

/-- What the operations on a rule set do to it, step by step: which records they touch, and what
they fail on. -/
structure TouchesOnlyTargets (s : RuleSet) : Prop where
  adds : ∀ r supply, ∃ id,
    ((s.add r).run supply).1 = (id, { s with records := s.records ++ [{ r with id := some id }] }) ∧
      ∀ given, r.id = some given → id = given
  addsEmpty : ∀ supply, ∃ id,
    (s.addEmpty.run supply).1 = (id, { s with records := s.records ++ [{ id := some id }] })
  edits : ∀ id r s', Steps.exec (editSteps id r) s = (.ok (), s') ↔
    ∃ before old after, s.FirstWith id before old after ∧
      s' = { s with records := before ++ { r with id := some id } :: after }
  editFails : ∀ id r e s', Steps.exec (editSteps id r) s = (.error e, s') ↔
    s' = s ∧ e = .unknown ⟨id⟩ ∧ id ∉ s.ids
  deletes : ∀ id r s', Steps.exec (deleteSteps id) s = (.ok r, s') ↔
    ∃ before after, s.FirstWith id before r after ∧
      s' = { s with records := before ++ after }
  deleteFails : ∀ id e s', Steps.exec (deleteSteps id) s = (.error e, s') ↔
    s' = s ∧ e = .unknown ⟨id⟩ ∧ id ∉ s.ids
  moves : ∀ source target s', Steps.exec (moveSteps source target) s = (.ok (), s') →
    s'.name = s.name ∧ s'.records ~ s.records
  moveFails : ∀ source target e s', Steps.exec (moveSteps source target) s = (.error e, s') →
    s' = s ∧ ∃ id ∈ [source, target], e = .unknown ⟨id⟩ ∧ id ∉ s.ids
  edit_eq : ∀ id r,
    Steps.exec (editSteps id r) s = s.inPlace ((s.edit id r).map ((), ·))
  delete_eq : ∀ id, Steps.exec (deleteSteps id) s = s.inPlace (s.delete id)
  move_eq : ∀ source target,
    Steps.exec (moveSteps source target) s = s.inPlace ((s.move source target).map ((), ·))
  name : ∀ changes supply, ((s.changed changes).run supply).1.name = s.name

/-- **An operation on a rule set touches only what its ids lead to.** It fails on ids that no record
has, and then the set is as it was. -/
theorem touches_only_targets (s : RuleSet) : s.TouchesOnlyTargets where
  adds r supply := by
    obtain ⟨id, hrun, hid⟩ := s.run_add r supply
    refine ⟨id, by rw [hrun], fun given hgiven => ?_⟩
    rw [hgiven] at hid
    exact (List.cons.inj hid).1.symm
  addsEmpty supply := by
    obtain ⟨id, hrun, -⟩ := s.run_add {} supply
    exact ⟨id, congrArg Prod.fst hrun⟩
  edits id r s' := by
    rw [exec_editSteps, inPlace_ok_iff, map_ok_iff]
    refine ⟨edit_ok, ?_⟩
    rintro ⟨before, old, after, hfirst, rfl⟩
    exact hfirst.edit r
  editFails id r e s' := by
    rw [exec_editSteps, inPlace_error_iff]
    simp [map_error_iff, edit_error_iff]
  deletes id r s' := by
    rw [exec_deleteSteps, inPlace_ok_iff]
    refine ⟨delete_ok, ?_⟩
    rintro ⟨before, after, hfirst, rfl⟩
    exact hfirst.delete
  deleteFails id e s' := by
    rw [exec_deleteSteps, inPlace_error_iff]
    simp [delete_error_iff]
  moves source target s' h := by
    rw [exec_moveSteps, inPlace_ok_iff, map_ok_iff] at h
    exact move_perm h
  moveFails source target e s' h := by
    rw [exec_moveSteps, inPlace_error_iff] at h
    obtain ⟨rfl, u, rfl, herror⟩ := h
    rw [map_error_iff] at herror
    obtain ⟨-, hok⟩ | ⟨-, id, hid, hnot, hunknown⟩ | ⟨-, _, _, _, _, _, _, -, -, hok⟩ :=
      s'.move_cases source target
    · cases hok.symm.trans herror
    · cases hunknown.symm.trans herror
      exact ⟨rfl, id, hid, rfl, hnot⟩
    · cases hok.symm.trans herror
  edit_eq := s.exec_editSteps
  delete_eq := s.exec_deleteSteps
  move_eq := s.exec_moveSteps
  name changes supply := changed_name changes s supply

end FirstClaim.RuleSet
