import FirstClaim.Proofs.Engine.Renumber
import FirstClaim.Proofs.Engine.Turn

/-!
# Skipped rules leave no trace

Without the rules that a report lists as skipped (`Skipped.remove`) the other ones do what they did:
they move up to their new places (`Skipped.place`), and under their new numbers they make the same
claims.

* `claimAll_remove`: so it is with every run, rule by rule.
* `transform_remove_skipped`: so it is with every report, and then no rule is skipped. A rule whose
  callback fails at any of its eligible matches is one of those skipped: it makes no claim at all,
  and what was open to it is open to the next rule (`failure_leaves_open`).
-/

set_option autoImplicit false

namespace FirstClaim

/-! ## Removing rules from a list -/

namespace Skipped

/-- No entry of the list is about the rule at an index. -/
def spares (listed : List Skipped) (index : Nat) : Bool :=
  listed.all (·.rule != index)

/-- The rules without those that are listed. The first rule has the number `index`. -/
def remove (listed : List Skipped) (index : Nat) (rules : List Rule) : List Rule :=
  ((rules.zipIdx index).filter fun p => spares listed p.2).map (·.1)

/-- The number of a rule without those that are listed: how many of the rules before it remain. -/
def place (listed : List Skipped) (index : Nat) : Nat :=
  (List.range index).countP (spares listed)

variable {listed : List Skipped} {index : Nat}

theorem spares_iff : spares listed index = true ↔ ∀ s ∈ listed, s.rule ≠ index := by
  simp [spares]

theorem spares_cons_of_ne {s : Skipped} (h : s.rule ≠ index) :
    spares (s :: listed) index = spares listed index := by
  rw [spares, List.all_cons, bne_iff_ne.2 h, Bool.true_and, spares]

@[simp]
theorem remove_nil (listed : List Skipped) (index : Nat) : remove listed index [] = [] := rfl

theorem remove_cons_of_spares (h : spares listed index = true) (rule : Rule) (rules : List Rule) :
    remove listed index (rule :: rules) = rule :: remove listed (index + 1) rules := by
  rw [remove, List.zipIdx_cons, List.filter_cons_of_pos (by simpa using h), List.map_cons, remove]

theorem remove_cons_of_not_spares (h : spares listed index = false) (rule : Rule)
    (rules : List Rule) :
    remove listed index (rule :: rules) = remove listed (index + 1) rules := by
  rw [remove, List.zipIdx_cons, List.filter_cons_of_neg (by simp [h]), remove]

theorem remove_of_nil : ∀ (rules : List Rule) (index : Nat), remove [] index rules = rules
  | [], _ => rfl
  | rule :: rules, index => by
    rw [remove_cons_of_spares rfl, remove_of_nil rules]

theorem place_succ_of_spares (h : spares listed index = true) :
    place listed (index + 1) = place listed index + 1 := by
  rw [place, List.range_succ, List.countP_append, List.countP_singleton, if_pos h, place]

theorem place_succ_of_not_spares (h : spares listed index = false) :
    place listed (index + 1) = place listed index := by
  rw [place, List.range_succ, List.countP_append, List.countP_singleton, h]
  rfl

/-- **A rule that remains is found at its new place.** -/
theorem getElem?_remove : ∀ {rules : List Rule} {index k : Nat},
    spares listed (index + k) = true →
    (remove listed index rules)[(List.range' index k).countP (spares listed)]? = rules[k]?
  | [], _, _, _ => by simp
  | rule :: rules, index, 0, h => by
    rw [remove_cons_of_spares (show spares listed index = true from h)]
    rfl
  | rule :: rules, index, k + 1, h => by
    have hk : spares listed (index + 1 + k) = true := by rwa [Nat.add_right_comm]
    rw [List.range'_succ, List.countP_cons, List.getElem?_cons_succ, ← getElem?_remove hk]
    by_cases hindex : spares listed index = true
    · rw [remove_cons_of_spares hindex, if_pos hindex, List.getElem?_cons_succ]
    · rw [remove_cons_of_not_spares (by simpa using hindex), if_neg hindex]
      rfl

end Skipped

open Skipped (spares remove place)

namespace Engine

/-! ## Runs -/

section Runs

variable {text : String} {index : Nat} {taken : ClaimMap} {rule : Rule}

theorem claimAll_cons_of_error {reason : RuleError}
    (hp : (rule.pending text index taken).1 = .error reason) (rules : List Rule) :
    claimAll text index taken (rule :: rules) =
      ((claimAll text (index + 1) taken rules).1,
        ⟨index, rule.pattern.map (·.text), reason⟩ :: (claimAll text (index + 1) taken rules).2.1,
        (rule.pending text index taken).2 :: (claimAll text (index + 1) taken rules).2.2) := by
  rw [claimAll_cons, Rule.claimed, Rule.skips, hp]
  rfl

theorem claimAll_cons_of_ok {cs : List Claim} (hp : (rule.pending text index taken).1 = .ok cs)
    (rules : List Rule) :
    claimAll text index taken (rule :: rules) =
      ((claimAll text (index + 1) (taken.commit cs) rules).1,
        (claimAll text (index + 1) (taken.commit cs) rules).2.1,
        (rule.pending text index taken).2 ::
          (claimAll text (index + 1) (taken.commit cs) rules).2.2) := by
  rw [claimAll_cons, Rule.claimed, Rule.skips, hp]
  rfl

end Runs

/-- **The rules that are not skipped do the same without the others.** The list may also name rules
that are not among these. -/
theorem claimAll_remove {text : String} {listed : List Skipped} : ∀ {rules : List Rule}
    {index : Nat} {taken : ClaimMap},
    (∀ i, index ≤ i → spares listed i = spares (claimAll text index taken rules).2.1 i) →
    claimAll text (place listed index) (taken.renumber (place listed))
        (remove listed index rules) =
      ((claimAll text index taken rules).1.renumber (place listed), [],
        remove listed index (claimAll text index taken rules).2.2)
  | [], _, _, _ => rfl
  | rule :: rules, index, taken, h => by
    cases hp : (rule.pending text index taken).1 with
    | error reason =>
      rw [claimAll_cons_of_error hp] at h ⊢
      have hindex : spares listed index = false := by
        rw [h index (Nat.le_refl _)]
        simp [spares]
      have hrest : ∀ i, index + 1 ≤ i → spares listed i =
          spares (claimAll text (index + 1) taken rules).2.1 i := fun i hi => by
        rw [h i (by omega), Skipped.spares_cons_of_ne (show index ≠ i by omega)]
      -- the rule is gone, so the next one has its number
      rw [Skipped.remove_cons_of_not_spares hindex, Skipped.remove_cons_of_not_spares hindex,
        ← Skipped.place_succ_of_not_spares hindex, claimAll_remove hrest]
    | ok cs =>
      rw [claimAll_cons_of_ok hp] at h ⊢
      have hindex : spares listed index = true := by
        rw [h index (Nat.le_refl _), Skipped.spares_iff]
        intro s hs
        have := (mem_claimAll_skipped hs).1
        omega
      have hp' : (rule.pending text (place listed index) (taken.renumber (place listed))).1 =
          .ok (cs.map (·.renumber (place listed))) := by
        rw [Rule.pending_renumber, hp]
        rfl
      rw [Skipped.remove_cons_of_spares hindex, Skipped.remove_cons_of_spares hindex,
        claimAll_cons_of_ok hp', ClaimMap.commit_renumber, ← Skipped.place_succ_of_spares hindex,
        claimAll_remove fun i hi => h i (by omega), Rule.pending_renumber]

/-! ## Reports -/

theorem eligible_succ {r : Report} {index : Nat} (h : r.claimsOf index = [])
    (ms : List Regex.Match) : r.eligible (index + 1) ms = r.eligible index ms := by
  rw [Report.eligible, Report.eligible, Report.before, Report.before]
  have hfilter : r.claims.filter (·.rule < index + 1) = r.claims.filter (·.rule < index) := by
    refine List.filter_congr fun c hc => ?_
    have := Report.claimsOf_eq_nil_iff.1 h c hc
    rw [Bool.eq_iff_iff, decide_eq_true_eq, decide_eq_true_eq]
    omega
  rw [hfilter]

/-- **A callback that fails at any of its eligible matches** makes its rule a skipped one without
claims, also for the matches that it has answered. What was open to the rule is open to the next
one. -/
theorem failure_leaves_open {e : Engine} {text : String} {index : Nat} {rule : Rule} {f : Callback}
    {earlier : List Call} (h : e.rules[index]? = some rule)
    (hf : rule.replacement = .computed f earlier) {done rest : List Regex.Match} {m : Regex.Match}
    (hsplit : (e.transform text).1.eligible index (rule.found text) = done ++ m :: rest)
    {texts : List String} (hdone : f.Answers earlier (done.map (·.call)) texts) {message : String}
    (hm : f ((done.map (·.call)).reverse ++ earlier) m.call = .error message) :
    ⟨index, rule.pattern.map (·.text), .callback message⟩ ∈ (e.transform text).1.skipped ∧
      (∀ c ∈ (e.transform text).1.claims, c.rule ≠ index) ∧
      ∀ ms, (e.transform text).1.eligible (index + 1) ms =
        (e.transform text).1.eligible index ms := by
  obtain ⟨hclaims, hentry, -⟩ := turn_failure h hf hsplit hdone hm
  exact ⟨(List.mem_filter.1 (hentry ▸ List.mem_singleton_self _)).1,
    Report.claimsOf_eq_nil_iff.1 hclaims, eligible_succ hclaims⟩

/-- **Skipped rules leave no trace.** Without them the output is the same, the claims are the same
under the new numbers of their rules, no rule is skipped, and callbacks are called alike. This
includes a rule whose callback answers some eligible matches and fails at the next one: its claims
are dropped, and each match that was open to it is open to the next rule. -/
theorem transform_remove_skipped (e : Engine) (text : String) :
    let report := (e.transform text).1
    let other := (Engine.mk (remove report.skipped 0 e.rules)).transform text
    other.1.output = report.output ∧
      other.1.claims = report.claims.map (·.renumber (place report.skipped)) ∧
      other.1.skipped = [] ∧
      other.2.rules = remove report.skipped 0 (e.transform text).2.rules ∧
      (∀ i, spares report.skipped i = true →
        (remove report.skipped 0 e.rules)[place report.skipped i]? = e.rules[i]?) ∧
      ∀ index rule f earlier, e.rules[index]? = some rule →
        rule.replacement = .computed f earlier →
        ∀ done m rest, report.eligible index (rule.found text) = done ++ m :: rest →
        ∀ texts message, f.Answers earlier (done.map (·.call)) texts →
          f ((done.map (·.call)).reverse ++ earlier) m.call = .error message →
          ⟨index, rule.pattern.map (·.text), .callback message⟩ ∈ report.skipped ∧
            (∀ c ∈ report.claims, c.rule ≠ index) ∧
            ∀ ms, report.eligible (index + 1) ms = report.eligible index ms := by
  intro report other
  have hplaces : ∀ i, spares report.skipped i = true →
      (remove report.skipped 0 e.rules)[place report.skipped i]? = e.rules[i]? := fun i hi => by
    rw [place, List.range_eq_range']
    exact Skipped.getElem?_remove (by rwa [Nat.zero_add])
  -- the first four parts are one equation, so the empty text is a case of its own only once
  suffices hsame : other = (⟨report.output, report.claims.map (·.renumber (place report.skipped)),
      []⟩, ⟨remove report.skipped 0 (e.transform text).2.rules⟩) by
    rw [hsame]
    exact ⟨rfl, rfl, rfl, rfl, hplaces, fun _ _ _ _ h hf _ _ _ hsplit _ _ hdone hm =>
      failure_leaves_open h hf hsplit hdone hm⟩
  by_cases ht : text = ""
  · subst ht
    simp only [other, report, transform_empty, Report.passthrough, Skipped.remove_of_nil,
      List.map_nil]
  · have hrun := @claimAll_remove text (claimAll text 0 .empty e.rules).2.1 e.rules 0 .empty
      fun _ _ => rfl
    have hzero : place (claimAll text 0 .empty e.rules).2.1 0 = 0 := rfl
    rw [hzero, ClaimMap.renumber_empty] at hrun
    simp only [other, report, transform_of_ne ht, hrun, ClaimMap.toList_renumber, splice_renumber]

/-- Rules of which the second one fails at its second match, and the third one has the same pattern
again. -/
def failsHalfway : Engine :=
  ⟨[{ pattern := some (.source "b"), replacement := .template "B" },
    { pattern := some (.source "a")
      replacement :=
        .computed (fun earlier _ => if earlier.length = 1 then .error "no" else .ok "A") [] },
    { pattern := some (.source "a"), replacement := .template "z" }]⟩

theorem transform_remove_skipped_failsHalfway :
    ⟨1, some "a", .callback "no"⟩ ∈ (failsHalfway.transform "aba").1.skipped ∧
      (failsHalfway.transform "aba").1.output = "zBz" ∧
      ((Engine.mk (remove (failsHalfway.transform "aba").1.skipped 0
        failsHalfway.rules)).transform "aba").1.output = "zBz" := by
  obtain ⟨houtput, -, -, -, -, hfailure⟩ := transform_remove_skipped failsHalfway "aba"
  have heligible : (failsHalfway.transform "aba").1.eligible 1
      (Rule.found { pattern := some (.source "a"), replacement := .template "A" } "aba") =
      [⟨⟨0, 1, "a"⟩, []⟩, ⟨⟨2, 3, "a"⟩, []⟩] := by
    decide +kernel
  have hresult : (failsHalfway.transform "aba").1.output = "zBz" := by decide +kernel
  refine ⟨?_, hresult, houtput.trans hresult⟩
  exact (hfailure 1 _ _ [] rfl rfl [⟨⟨0, 1, "a"⟩, []⟩] _ [] heligible ["A"] "no"
    (.cons rfl (.nil _)) rfl).1

end Engine

end FirstClaim
