import FirstClaim.RuleSet
import Mathlib.Data.List.Perm.Basic

/-!
# What the operations on rule sets do

One statement for each operation on a rule set, from which everything else about it follows.

* `run_identifyAll`: a rule that has an id keeps it, each other one gets the next id of the supply.
* `run_add`: where a new record goes and which id it gets.
* `indexOf_ok`, `indexOf_error`: a look-up ends at the first rule with the id, or there is none.
* `edit_ok`, `delete_ok`, `move_perm`: which records an operation that succeeds touches.
* `edit_error_iff`, `delete_error_iff`, `move_cases`: when an operation is refused.
-/

set_option autoImplicit false

namespace FirstClaim

open scoped List

/-! ## Ids from a supply -/

namespace IdSupply

/-- The next ids that a supply gives. -/
def next (supply : IdSupply) (n : Nat) : List String :=
  (List.range n).map fun k => idText (supply.number (supply.used + k))

/-- The supply after some ids have been taken. -/
def after (supply : IdSupply) (n : Nat) : IdSupply :=
  { supply with used := supply.used + n }

@[simp]
theorem after_after (supply : IdSupply) (m n : Nat) :
    (supply.after m).after n = supply.after (m + n) := by
  simp [after, Nat.add_assoc]

@[simp]
theorem next_zero (supply : IdSupply) : supply.next 0 = [] := rfl

theorem next_add (supply : IdSupply) (m n : Nat) :
    supply.next (m + n) = supply.next m ++ (supply.after m).next n := by
  simp [next, after, List.range_add, Nat.add_assoc, Function.comp_def]

end IdSupply

/-- The ids that a computation takes from a supply. -/
def drawn {α : Type} (m : WithIds α) (supply : IdSupply) : List String :=
  supply.next ((m.run supply).2.used - supply.used)

theorem drawn_of_run {α : Type} {m : WithIds α} {supply : IdSupply} {a : α} {n : Nat}
    (h : m.run supply = (a, supply.after n)) : drawn m supply = supply.next n := by
  simp [drawn, h, IdSupply.after]

/-! ## Records with ids -/

def idsOf (records : List RuleRecord) : List String :=
  records.filterMap (·.id)

/-- How many records have no id. -/
def lacking (records : List RuleRecord) : Nat :=
  records.countP (·.id.isNone)

theorem RuleRecord.run_identify_some {r : RuleRecord} (h : r.id.isSome) (supply : IdSupply) :
    r.identify.run supply = (r, supply) := by
  obtain ⟨id, hid⟩ := Option.isSome_iff_exists.1 h
  unfold identify
  rw [hid]
  rfl

theorem RuleRecord.run_identify_none {r : RuleRecord} (h : r.id = none) (supply : IdSupply) :
    r.identify.run supply =
      ({ r with id := some (idText (supply.number supply.used)) }, supply.after 1) := by
  unfold identify
  rw [h]
  rfl

/-- Records with ids for those that had none. -/
def identifyAll (records : List RuleRecord) : WithIds (List RuleRecord) :=
  records.mapM (·.identify)

theorem run_identifyAll_cons (r : RuleRecord) (records : List RuleRecord) (supply : IdSupply) :
    (identifyAll (r :: records)).run supply =
      ((r.identify.run supply).1 :: ((identifyAll records).run (r.identify.run supply).2).1,
        ((identifyAll records).run (r.identify.run supply).2).2) := by
  unfold identifyAll
  rw [List.mapM_cons]
  rfl

theorem run_identifyAll_of_isSome : ∀ {records : List RuleRecord} (supply : IdSupply),
    (∀ r ∈ records, r.id.isSome) → (identifyAll records).run supply = (records, supply)
  | [], _, _ => rfl
  | r :: records, supply, h => by
    rw [run_identifyAll_cons, RuleRecord.run_identify_some (h r (.head _)),
      run_identifyAll_of_isSome supply fun t ht => h t (.tail _ ht)]

/-- **Afterwards every record has an id**: its own one or one that was taken from the supply. -/
theorem run_identifyAll : ∀ (records : List RuleRecord) (supply : IdSupply),
    ∃ identified, (identifyAll records).run supply =
        (identified, supply.after (lacking records)) ∧
      (∀ r ∈ identified, r.id.isSome) ∧
      idsOf identified ~ idsOf records ++ supply.next (lacking records)
  | [], supply => ⟨[], rfl, by simp, by simp [idsOf, lacking]⟩
  | r :: records, supply => by
    cases hid : r.id with
    | some id =>
      obtain ⟨identified, hrun, hsome, hperm⟩ := run_identifyAll records supply
      have hlacking : lacking (r :: records) = lacking records := by simp [lacking, hid]
      refine ⟨r :: identified, ?_, ?_, ?_⟩
      · rw [run_identifyAll_cons, RuleRecord.run_identify_some (by simp [hid]), hrun, hlacking]
      · simpa [hid] using hsome
      · rw [hlacking]
        simpa [idsOf, hid] using hperm
    | none =>
      obtain ⟨identified, hrun, hsome, hperm⟩ := run_identifyAll records (supply.after 1)
      have hlacking : lacking (r :: records) = 1 + lacking records := by
        simp [lacking, hid, Nat.add_comm]
      refine ⟨{ r with id := some (idText (supply.number supply.used)) } :: identified, ?_, ?_, ?_⟩
      · rw [run_identifyAll_cons, RuleRecord.run_identify_none hid, hrun, hlacking,
          IdSupply.after_after]
      · simpa using hsome
      · rw [hlacking, IdSupply.next_add]
        -- the new id goes from the front to behind the ids that were there
        have hfront := (hperm.cons (idText (supply.number supply.used))).trans
          List.perm_middle.symm
        simpa [idsOf, hid, IdSupply.next] using hfront

namespace RuleSet

def ids (s : RuleSet) : List String :=
  idsOf s.records

def Identified (s : RuleSet) : Prop :=
  ∀ r ∈ s.records, r.id.isSome

theorem mem_ids {s : RuleSet} {id : String} : id ∈ s.ids ↔ ∃ r ∈ s.records, r.id = some id := by
  simp [ids, idsOf]

theorem run_ensureIds (s : RuleSet) (supply : IdSupply) :
    s.ensureIds.run supply = ({ s with records := ((identifyAll s.records).run supply).1 },
      ((identifyAll s.records).run supply).2) := rfl

theorem run_reset (s : RuleSet) (supply : IdSupply) :
    s.reset.run supply = ({ s with records := ((identifyAll builtinRules).run supply).1 },
      ((identifyAll builtinRules).run supply).2) := rfl

/-- **A new record stands behind the others**, under its own id or the next one of the supply. -/
theorem run_add (s : RuleSet) (r : RuleRecord) (supply : IdSupply) :
    ∃ id, (s.add r).run supply =
        ((id, { s with records := s.records ++ [{ r with id := some id }] }),
          supply.after (lacking [r])) ∧
      r.id.toList ++ supply.next (lacking [r]) = [id] := by
  unfold add
  cases hid : r.id with
  | some id => exact ⟨id, by simp [lacking, hid]; rfl, by simp [lacking, hid]⟩
  | none =>
    exact ⟨idText (supply.number supply.used), by simp [lacking, hid]; rfl,
      by simp [lacking, hid, IdSupply.next]⟩

/-! ## Looking up -/

/-- The first rule with the id stands behind rules with other ids. -/
structure FirstWith (s : RuleSet) (id : String) (before : List RuleRecord) (r : RuleRecord)
    (after : List RuleRecord) : Prop where
  records : s.records = before ++ r :: after
  id_eq : r.id = some id
  others : ∀ t ∈ before, t.id ≠ some id

theorem indexOf_ok {s : RuleSet} {id : String} {i : Nat} (h : s.indexOf id = .ok i) :
    ∃ before r after, s.FirstWith id before r after ∧ before.length = i := by
  unfold indexOf at h
  split at h
  · rename_i j hj
    cases h
    obtain ⟨hlt, hid, hbefore⟩ := List.findIdx?_eq_some_iff_getElem.1 hj
    refine ⟨s.records.take i, s.records[i], s.records.drop (i + 1), ⟨?_, ?_, fun t ht => ?_⟩, ?_⟩
    · rw [List.getElem_cons_drop, List.take_append_drop]
    · simpa using hid
    · obtain ⟨j, hj, rfl⟩ := List.mem_take_iff_getElem.1 ht
      simpa using hbefore j (by omega)
    · simp
      omega
  · cases h

theorem indexOf_error {s : RuleSet} {id : String} {e : UnknownRule} :
    s.indexOf id = .error e ↔ e = ⟨id⟩ ∧ id ∉ s.ids := by
  unfold indexOf
  split
  · rename_i i hi
    obtain ⟨hlt, hid, -⟩ := List.findIdx?_eq_some_iff_getElem.1 hi
    have hmem : id ∈ s.ids := mem_ids.2 ⟨s.records[i], List.getElem_mem hlt, by simpa using hid⟩
    simp [hmem]
  · rename_i hnone
    have hnot : id ∉ s.ids := fun hmem => by
      obtain ⟨r, hr, hid⟩ := mem_ids.1 hmem
      have := List.findIdx?_eq_none_iff.1 hnone r hr
      simp [hid] at this
    simp [hnot, eq_comm]

theorem FirstWith.indexOf {s : RuleSet} {id : String} {before after : List RuleRecord}
    {r : RuleRecord} (h : s.FirstWith id before r after) : s.indexOf id = .ok before.length := by
  have hbefore : before.findIdx? (·.id == some id) = none :=
    List.findIdx?_eq_none_iff.2 (by simpa using h.others)
  have hfound : s.records.findIdx? (·.id == some id) = some before.length := by
    rw [h.records, List.findIdx?_append, hbefore]
    simp [List.findIdx?_cons, h.id_eq]
  unfold RuleSet.indexOf
  rw [hfound]

theorem exists_firstWith {s : RuleSet} {id : String} (h : id ∈ s.ids) :
    ∃ before r after, s.FirstWith id before r after := by
  cases hi : s.indexOf id with
  | error e => exact absurd h (indexOf_error.1 hi).2
  | ok i =>
    obtain ⟨before, r, after, hfirst, -⟩ := indexOf_ok hi
    exact ⟨before, r, after, hfirst⟩

theorem get?_eq_some_iff {s : RuleSet} {id : String} {r : RuleRecord} :
    s.get? id = some r ↔ ∃ before after, s.FirstWith id before r after := by
  unfold get?
  rw [List.find?_eq_some_iff_append]
  constructor
  · rintro ⟨hid, before, after, hrecords, hothers⟩
    exact ⟨before, after, hrecords, by simpa using hid, by simpa using hothers⟩
  · rintro ⟨before, after, hrecords, hid, hothers⟩
    exact ⟨by simpa using hid, before, after, hrecords, by simpa using hothers⟩

/-! ## Operations that may be refused -/

section Operations

variable {s s' : RuleSet} {id source target : String}
  {before before' after after' : List RuleRecord} {r old t : RuleRecord}

theorem edit_error (h : id ∉ s.ids) (r : RuleRecord) : s.edit id r = .error ⟨id⟩ := by
  unfold edit
  rw [indexOf_error.2 ⟨rfl, h⟩]
  rfl

theorem delete_error (h : id ∉ s.ids) : s.delete id = .error ⟨id⟩ := by
  unfold delete
  rw [indexOf_error.2 ⟨rfl, h⟩]
  rfl

theorem FirstWith.edit (h : s.FirstWith id before old after) (r : RuleRecord) :
    s.edit id r = .ok { s with records := before ++ { r with id := some id } :: after } := by
  unfold RuleSet.edit
  rw [h.indexOf, h.records]
  simp [bind, Except.bind]

theorem FirstWith.getElem? (h : s.FirstWith id before r after) :
    s.records[before.length]? = some r := by
  simp [h.records]

theorem FirstWith.eraseIdx (h : s.FirstWith id before r after) :
    s.records.eraseIdx before.length = before ++ after := by
  simp [h.records, List.eraseIdx_append_of_length_le]

theorem FirstWith.delete (h : s.FirstWith id before r after) :
    s.delete id = .ok (r, { s with records := before ++ after }) := by
  unfold RuleSet.delete
  simp only [h.indexOf, bind, Except.bind, h.getElem?, h.eraseIdx]

theorem FirstWith.move (h : s.FirstWith source before r after)
    (h' : s.FirstWith target before' t after') (hne : source ≠ target) :
    s.move source target =
      .ok { s with
        records := (s.records.eraseIdx before.length).insertIdx before'.length r } := by
  unfold RuleSet.move
  simp only [if_neg hne, h.indexOf, h'.indexOf, bind, Except.bind, h.getElem?]

/-- **An edit puts a record in the place of the first one with the id**, and the id stays. -/
theorem edit_ok (h : s.edit id r = .ok s') :
    ∃ before old after, s.FirstWith id before old after ∧
      s' = { s with records := before ++ { r with id := some id } :: after } := by
  by_cases hid : id ∈ s.ids
  · obtain ⟨before, old, after, hfirst⟩ := exists_firstWith hid
    rw [hfirst.edit, Except.ok.injEq] at h
    exact ⟨before, old, after, hfirst, h.symm⟩
  · rw [edit_error hid] at h
    cases h

/-- **A deletion takes away the first record with the id.** -/
theorem delete_ok (h : s.delete id = .ok (r, s')) :
    ∃ before after, s.FirstWith id before r after ∧
      s' = { s with records := before ++ after } := by
  by_cases hid : id ∈ s.ids
  · obtain ⟨before, old, after, hfirst⟩ := exists_firstWith hid
    rw [hfirst.delete, Except.ok.injEq, Prod.mk.injEq] at h
    obtain ⟨rfl, rfl⟩ := h
    exact ⟨before, after, hfirst, rfl⟩
  · rw [delete_error hid] at h
    cases h

theorem edit_error_iff {e : UnknownRule} : s.edit id r = .error e ↔ e = ⟨id⟩ ∧ id ∉ s.ids := by
  by_cases hid : id ∈ s.ids
  · obtain ⟨before, old, after, hfirst⟩ := exists_firstWith hid
    simp [hfirst.edit, hid]
  · simp [edit_error hid, hid, eq_comm]

theorem delete_error_iff {e : UnknownRule} : s.delete id = .error e ↔ e = ⟨id⟩ ∧ id ∉ s.ids := by
  by_cases hid : id ∈ s.ids
  · obtain ⟨before, old, after, hfirst⟩ := exists_firstWith hid
    simp [hfirst.delete, hid]
  · simp [delete_error hid, hid, eq_comm]

/-- The target of a move is one of the records, so it is an index to insert at when the source has
been taken out. -/
theorem FirstWith.length_le (h : s.FirstWith source before r after)
    (h' : s.FirstWith target before' t after') :
    before'.length ≤ (s.records.eraseIdx before.length).length := by
  have hlen := congrArg List.length (h.records.symm.trans h'.records)
  rw [h.eraseIdx]
  simp only [List.length_append, List.length_cons] at hlen ⊢
  omega

theorem move_self (s : RuleSet) (id : String) : s.move id id = .ok s := by
  unfold RuleSet.move
  rw [if_pos rfl]

theorem move_error (hne : source ≠ target) (h : id ∉ s.ids)
    (hid : source = id ∨ source ∈ s.ids ∧ target = id) : s.move source target = .error ⟨id⟩ := by
  unfold RuleSet.move
  rw [if_neg hne]
  obtain rfl | ⟨hsource, rfl⟩ := hid
  · rw [indexOf_error.2 ⟨rfl, h⟩]
    rfl
  · obtain ⟨before, r, after, hfirst⟩ := exists_firstWith hsource
    rw [hfirst.indexOf, indexOf_error.2 ⟨rfl, h⟩]
    rfl

/-- **All that can come of a move**: nothing for one id, a refusal of an id that no record has, or
the record of the source at the index of the target. -/
theorem move_cases (s : RuleSet) (source target : String) :
    (source = target ∧ s.move source target = .ok s) ∨
      (source ≠ target ∧ ∃ id ∈ [source, target], id ∉ s.ids ∧
        s.move source target = .error ⟨id⟩) ∨
      (source ≠ target ∧ ∃ before r after before' t after',
        s.FirstWith source before r after ∧ s.FirstWith target before' t after' ∧
        s.move source target =
          .ok { s with
            records := (s.records.eraseIdx before.length).insertIdx before'.length r }) := by
  by_cases hne : source = target
  · exact .inl ⟨hne, hne ▸ s.move_self source⟩
  refine .inr ?_
  by_cases hsource : source ∈ s.ids
  · by_cases htarget : target ∈ s.ids
    · obtain ⟨before, r, after, hfirst⟩ := exists_firstWith hsource
      obtain ⟨before', t, after', hfirst'⟩ := exists_firstWith htarget
      exact .inr ⟨hne, before, r, after, before', t, after', hfirst, hfirst',
        hfirst.move hfirst' hne⟩
    · exact .inl ⟨hne, target, by simp, htarget, move_error hne htarget (.inr ⟨hsource, rfl⟩)⟩
  · exact .inl ⟨hne, source, by simp, hsource, move_error hne hsource (.inl rfl)⟩

/-- **A move only changes the order of the records.** -/
theorem move_perm (h : s.move source target = .ok s') :
    s'.name = s.name ∧ s'.records ~ s.records := by
  obtain ⟨-, hself⟩ | ⟨-, id, -, -, herror⟩ |
    ⟨-, before, r, after, before', t, after', hfirst, hfirst', hok⟩ := s.move_cases source target
  · cases hself.symm.trans h
    exact ⟨rfl, .refl _⟩
  · cases herror.symm.trans h
  · cases hok.symm.trans h
    refine ⟨rfl, ?_⟩
    calc (s.records.eraseIdx before.length).insertIdx before'.length r
      _ ~ r :: s.records.eraseIdx before.length :=
        List.perm_insertIdx _ _ (hfirst.length_le hfirst')
      _ = r :: (before ++ after) := by rw [hfirst.eraseIdx]
      _ ~ before ++ r :: after := List.perm_middle.symm
      _ = s.records := hfirst.records.symm

end Operations

end RuleSet

end FirstClaim
