import FirstClaim.Proofs.RuleSet.Distinct
import Mathlib.Data.List.Forall2

/-!
# Rule sets opened from a config and exported

A config is opened for editing (`RuleSet.ofConfig`) and exported again (`RuleSet.toConfig`). A rule
set has no description of its own, so that of the config is not in the export
(`description_not_exported`).

* `RuleRecord.identifiedAs_identify`, `forall₂_identifyAll`: rules only get the ids that they lack.
* `eq_of_identifiedAs_iff`: so they stay as they are just when all of them have ids.

The main statement is `toConfig_ofConfig`: nothing else changes on the way.
-/

set_option autoImplicit false

namespace FirstClaim

/-! ## Rules and the ids they lack -/

/-- `t` is the rule `r` with an id, which is that of `r` if it has one. -/
structure RuleRecord.IdentifiedAs (r t : RuleRecord) : Prop where
  isSome : t.id.isSome
  kept : r.id.isSome → t.id = r.id
  same : t = { r with id := t.id }

theorem RuleRecord.identifiedAs_identify (r : RuleRecord) (supply : IdSupply) :
    r.IdentifiedAs (r.identify.run supply).1 := by
  cases hid : r.id with
  | some id =>
    have hsome : r.id.isSome := by simp [hid]
    rw [run_identify_some hsome]
    exact ⟨hsome, fun _ => rfl, rfl⟩
  | none =>
    rw [run_identify_none hid]
    exact ⟨rfl, fun hsome => by simp [hid] at hsome, rfl⟩

/-- A rule that gets no more than an id stays as it is if it has one, and only then. -/
theorem RuleRecord.IdentifiedAs.eq_iff {r t : RuleRecord} (h : r.IdentifiedAs t) :
    t = r ↔ r.id.isSome := by
  constructor
  · rintro rfl
    exact h.isSome
  · intro hsome
    rw [h.same, h.kept hsome]

/-- **Each rule gets the id that it lacks**, and nothing else is changed. -/
theorem forall₂_identifyAll : ∀ (records : List RuleRecord) (supply : IdSupply),
    List.Forall₂ RuleRecord.IdentifiedAs records ((identifyAll records).run supply).1
  | [], _ => .nil
  | r :: records, supply => by
    rw [run_identifyAll_cons]
    exact .cons (r.identifiedAs_identify supply) (forall₂_identifyAll records _)

theorem eq_of_identifiedAs_iff {records identified : List RuleRecord}
    (h : List.Forall₂ RuleRecord.IdentifiedAs records identified) :
    identified = records ↔ ∀ r ∈ records, r.id.isSome := by
  induction h with
  | nil => simp
  | cons hr _ ih => rw [List.cons.injEq, hr.eq_iff, ih, List.forall_mem_cons]

/-! ## Opened and exported -/

namespace RuleSet

/-- **A config that is opened and exported loses its description, and gains the ids that its rules
lack.** Its name and everything else about its rules stay as they are. -/
theorem toConfig_ofConfig (c : Config) (supply : IdSupply) :
    let exported := ((ofConfig c).run supply).1.toConfig
    exported.name = c.name ∧ exported.description = none ∧
      List.Forall₂ RuleRecord.IdentifiedAs c.rules exported.rules ∧
      (exported = { c with description := none } ↔ ∀ r ∈ c.rules, r.id.isSome) ∧
      (exported = c ↔ c.description = none ∧ ∀ r ∈ c.rules, r.id.isSome) := by
  intro exported
  have hexported : exported =
      { name := c.name, rules := ((identifyAll c.rules).run supply).1 } := rfl
  have hrules := forall₂_identifyAll c.rules supply
  have hsame := eq_of_identifiedAs_iff hrules
  rw [hexported]
  refine ⟨rfl, rfl, hrules, ?_, ?_⟩
  · rw [← hsame]
    simp
  · rw [← hsame]
    cases c
    simp [eq_comm]

/-- A config with a description of its own, whose rule has an id. -/
def described : Config :=
  { name := "chat", description := some "Chat style",
    rules := [{ id := some "a", pattern := "x", replacement := "y" }] }

/-- **The description of a config is not in the export**, although its rules have ids. -/
theorem description_not_exported :
    (∀ r ∈ described.rules, r.id.isSome) ∧
      ((ofConfig described).run counting).1.toConfig ≠ described ∧
      ((ofConfig described).run counting).1.toConfig =
        { described with description := none } := by
  decide

end RuleSet

end FirstClaim
