import FirstClaim.Proofs.RuleSet.Distinct
import FirstClaim.Proofs.RuleSet.InPlace

/-!
# Moving rules

A move takes a record to the index of another one. Both indices are looked up before the record is
taken out, so behind a move the record stands at the very index of its target, whichever of the two
came first, and the records between the two go one place towards where it was (`Moved`).

The main statement is `move_undone`: a move succeeds if both ids are there, and where ids tell the
rules apart, it is undone by moving the record onto the one that has taken its place.
-/

set_option autoImplicit false

namespace FirstClaim.RuleSet

variable {s s' : RuleSet} {source target : String} {before before' after after' : List RuleRecord}
  {r t : RuleRecord} {i j : Nat}

/-! ## Indices -/

/-- The record at `i` has been taken to `j`. The others are as they were and in the same order, so
that those between the two indices have gone by one place. -/
structure Moved (s : RuleSet) (i j : Nat) (s' : RuleSet) : Prop where
  name : s'.name = s.name
  length : s'.records.length = s.records.length
  record : s'.records[j]? = s.records[i]?
  others : s'.records.eraseIdx j = s.records.eraseIdx i
  down : ∀ k, i < k → k ≤ j → s'.records[k - 1]? = s.records[k]?
  up : ∀ k, j ≤ k → k < i → s'.records[k + 1]? = s.records[k]?
  outside : ∀ k, k < i ∧ k < j ∨ i < k ∧ j < k → s'.records[k]? = s.records[k]?

theorem moved_insertIdx (hi : s.records[i]? = some r) (hj : j ≤ (s.records.eraseIdx i).length) :
    s.Moved i j { s with records := (s.records.eraseIdx i).insertIdx j r } where
  name := rfl
  length := by
    have hlt := (List.getElem?_eq_some_iff.1 hi).1
    rw [List.length_insertIdx_of_le_length hj, List.length_eraseIdx_of_lt hlt]
    omega
  record := by
    rw [hi, List.getElem?_insertIdx_self, if_pos hj]
  others := List.eraseIdx_insertIdx_self r
  down k hik hkj := by
    rw [List.getElem?_insertIdx_of_lt (by omega), List.getElem?_eraseIdx_of_ge (by omega),
      Nat.sub_add_cancel (by omega)]
  up k hjk hki := by
    rw [List.getElem?_insertIdx_of_gt (by omega), Nat.add_sub_cancel,
      List.getElem?_eraseIdx_of_lt hki]
  outside k hk := by
    rcases hk with ⟨hki, hkj⟩ | ⟨hik, hjk⟩
    · rw [List.getElem?_insertIdx_of_lt hkj, List.getElem?_eraseIdx_of_lt hki]
    · rw [List.getElem?_insertIdx_of_gt hjk, List.getElem?_eraseIdx_of_ge (by omega),
        Nat.sub_add_cancel (by omega)]

theorem Moved.insertIdx_eraseIdx (h : s.Moved i j s') (hi : s.records[i]? = some r) :
    (s'.records.eraseIdx j).insertIdx i r = s.records := by
  obtain ⟨hlt, rfl⟩ := List.getElem?_eq_some_iff.1 hi
  rw [h.others, List.insertIdx_eraseIdx_getElem]

/-! ## Moves -/

theorem FirstWith.length_ne (h : s.FirstWith source before r after)
    (h' : s.FirstWith target before' t after') (hne : source ≠ target) :
    before.length ≠ before'.length := by
  intro heq
  have hsame := h.getElem?.symm.trans (heq ▸ h'.getElem?)
  cases hsame
  exact hne (Option.some.inj (h.id_eq.symm.trans h'.id_eq))

/-- **A move takes the record of the source to the index of the target.** -/
theorem FirstWith.moved (h : s.FirstWith source before r after)
    (h' : s.FirstWith target before' t after') (hne : source ≠ target) :
    ∃ s', s.move source target = .ok s' ∧ s.Moved before.length before'.length s' :=
  ⟨_, h.move h' hne, moved_insertIdx h.getElem? (h.length_le h')⟩

theorem Distinct.of_move (h : s.Distinct) (hmove : s.move source target = .ok s') : s'.Distinct :=
  ((move_perm hmove).2.pairwise_iff Ne.symm).2 h

/-- **A record is moved back by a move onto the one that stands where it was**, if ids tell the
rules apart. -/
theorem Moved.move_back (h : s.Moved i j s') (hdistinct : s'.Distinct) (hij : i ≠ j)
    (hi : s.records[i]? = some r) (hr : r.id = some source) {b : RuleRecord} {back : String}
    (hb : s'.records[i]? = some b) (hback : b.id = some back) :
    s'.move source back = .ok s := by
  have hj : s'.records[j]? = some r := h.record.trans hi
  have hsource := hdistinct.firstWith hj hr
  have htarget := hdistinct.firstWith hb hback
  have hilt := (List.getElem?_eq_some_iff.1 hb).1
  have hjlt := (List.getElem?_eq_some_iff.1 hj).1
  have hlen : (s'.records.take j).length = j ∧ (s'.records.take i).length = i := by
    constructor <;> rw [List.length_take] <;> omega
  have hne : source ≠ back := by
    rintro rfl
    have hindex := hsource.indexOf.symm.trans htarget.indexOf
    rw [hlen.1, hlen.2] at hindex
    cases hindex
    exact hij rfl
  rw [hsource.move htarget hne, hlen.1, hlen.2, h.insertIdx_eraseIdx hi, h.name]

/-- **A move is an array move, and the opposite move undoes it.** With both ids there it succeeds,
and no step of it goes out of range. -/
theorem move_undone (hsource : s.FirstWith source before r after)
    (htarget : s.FirstWith target before' t after') (hne : source ≠ target) :
    ∃ s', s.move source target = .ok s' ∧
      Steps.exec (moveSteps source target) s = (.ok (), s') ∧
      s.Moved before.length before'.length s' ∧
      (s.Distinct → ∃ b, s'.records[before.length]? = some b ∧ (s.Identified → b.id.isSome) ∧
        ∀ back, b.id = some back → s'.move source back = .ok s ∧
          Steps.exec (moveSteps source back) s' = (.ok (), s)) := by
  obtain ⟨s', hmove, hmoved⟩ := hsource.moved htarget hne
  refine ⟨s', hmove, ?_, hmoved, fun hdistinct => ?_⟩
  · rw [exec_moveSteps, hmove]
    rfl
  have hlt : before.length < s'.records.length := by
    rw [hmoved.length]
    exact (List.getElem?_eq_some_iff.1 hsource.getElem?).1
  refine ⟨s'.records[before.length], List.getElem?_eq_getElem hlt, fun hall => ?_,
    fun back hback => ?_⟩
  · exact (move_idsFrom hmove).identified hall _ (List.getElem_mem hlt)
  -- the way back is named by the rule that has taken the place of the source
  have hback' : s'.move source back = .ok s :=
    hmoved.move_back (hdistinct.of_move hmove) (hsource.length_ne htarget hne) hsource.getElem?
      hsource.id_eq (List.getElem?_eq_getElem hlt) hback
  refine ⟨hback', ?_⟩
  rw [exec_moveSteps, hback']
  rfl

/-- Three rules with ids of their own. -/
def trio : RuleSet :=
  ⟨"trio", [{ id := some "a", pattern := "x" }, { id := some "b", pattern := "y" },
    { id := some "c", pattern := "z" }]⟩

/-- The first of the three has gone to the place of the last one. -/
def turned : RuleSet :=
  ⟨"trio", [{ id := some "b", pattern := "y" }, { id := some "c", pattern := "z" },
    { id := some "a", pattern := "x" }]⟩

theorem move_undone_trio :
    (trio.FirstWith "a" [] { id := some "a", pattern := "x" } (trio.records.drop 1) ∧
      trio.FirstWith "c" (trio.records.take 2) { id := some "c", pattern := "z" } [] ∧
      trio.Distinct) ∧
    trio.move "a" "c" = .ok turned ∧ trio.Moved 0 2 turned ∧ turned.move "a" "b" = .ok trio := by
  have hsource : trio.FirstWith "a" [] { id := some "a", pattern := "x" } (trio.records.drop 1) :=
    ⟨rfl, rfl, by decide⟩
  have htarget : trio.FirstWith "c" (trio.records.take 2) { id := some "c", pattern := "z" } [] :=
    ⟨rfl, rfl, by decide⟩
  have hdistinct : trio.Distinct := by decide
  have hturned : trio.move "a" "c" = .ok turned := by decide
  obtain ⟨s', hmove, -, hmoved, hundo⟩ := move_undone hsource htarget (by decide)
  cases hturned.symm.trans hmove
  obtain ⟨b, hb, -, hback⟩ := hundo hdistinct
  cases hb
  exact ⟨⟨hsource, htarget, hdistinct⟩, hturned, hmoved, (hback "b" rfl).1⟩

end FirstClaim.RuleSet
