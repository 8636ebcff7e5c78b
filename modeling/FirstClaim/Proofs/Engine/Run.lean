import FirstClaim.Proofs.ClaimMap
import FirstClaim.Proofs.Regex.Spans

/-!
# A run over the rules

What one rule does to the claims made so far, and from it what all rules do in turn.

* `eligible_eq_filter`: matches come from left to right, so only the claims of earlier rules decide
  which of them a rule may claim.
* `pending_claims`: the claims of a rule that succeeds (`Pending`): they lie where its matches lie
  and fit to the claims made before.
* `claimAll_cons`, `claimAll_append`: a rule, and a list of rules, at a time.
* `claimAll_on`: after every run the claims are parts of the text, not empty, in order and disjoint.
* `mem_claimAll`, `claimAll_skipped`: a claim belongs to a rule of the run that is not skipped; the
  rules skipped are listed in order.
-/

set_option autoImplicit false

namespace FirstClaim

/-- The part of the text that a claim has taken. -/
def Claim.capture (c : Claim) : Regex.Capture :=
  ⟨c.start, c.stop, c.matched⟩

/-- The claim matched what stands in the text between its ends. -/
def Claim.In (text : List Char) (c : Claim) : Prop :=
  IsPart text c.start c.stop c.matched.toList

/-- The claims of a map are parts of the text. -/
structure ClaimMap.On (text : List Char) (m : ClaimMap) : Prop extends m.Valid where
  inside : ∀ c ∈ m.toList, c.In text

theorem ClaimMap.On.empty (text : List Char) : On text .empty :=
  ⟨.empty, by simp [ClaimMap.empty]⟩

theorem ClaimMap.On.toList_eq_nil {m : ClaimMap} (h : m.On []) : m.toList = [] := by
  refine List.eq_nil_iff_forall_not_mem.2 fun c hc => ?_
  have hstop : c.stop ≤ 0 := (h.inside c hc).stop_le
  have := h.nonempty c hc
  omega

/-! ## One rule -/

namespace Rule

/-- A rule may claim this match beside the claims made before. -/
def mayClaim (taken : ClaimMap) (m : Regex.Match) : Bool :=
  m.whole.start < m.whole.stop && taken.isFree m.whole.start m.whole.stop

/-- **Only the claims of earlier rules stand in the way of a match.** -/
theorem eligible_eq_filter {text : List Char} {taken : ClaimMap} : ∀ {position : Nat}
    {ms : List Regex.Match}, Regex.Ordered text position ms →
    eligible taken position ms = ms.filter (mayClaim taken)
  | _, [], _ => rfl
  | position, m :: ms, h => by
    have hm : position ≤ m.whole.start := h.behind m (.head _)
    by_cases hc : mayClaim taken m
    · rw [List.filter_cons_of_pos hc, eligible, if_pos (by simpa [mayClaim, hm] using hc),
        eligible_eq_filter h.tail]
    · rw [List.filter_cons_of_neg hc, eligible, if_neg (by simpa [mayClaim, hm] using hc),
        eligible_eq_filter h.rest]

theorem resolveEach_ok {index : Nat} : ∀ {r : Replacement} {ms : List Regex.Match}
    {cs : List Claim}, (resolveEach index r ms).1 = .ok cs →
    cs.map Claim.capture = ms.map (·.whole) ∧ ∀ c ∈ cs, c.rule = index
  | _, [], cs, h => by
    cases h
    simp
  | r, m :: ms, cs, h => by
    unfold resolveEach at h
    split at h
    · cases h
    · rename_i replacement r' _
      cases hrest : (resolveEach index r' ms).1 with
      | error e => simp [hrest, Except.map] at h
      | ok ds =>
        simp only [hrest, Except.map, Except.ok.injEq] at h
        subst h
        obtain ⟨hcapture, hrule⟩ := resolveEach_ok hrest
        exact ⟨by simp [hcapture, Claim.capture], by simpa using hrule⟩

/-- What the claims of one rule are like. -/
structure Pending (text : List Char) (index : Nat) (taken : ClaimMap) (cs : List Claim) :
    Prop where
  owned : ∀ c ∈ cs, c.rule = index
  inside : ∀ c ∈ cs, c.In text
  before : cs.Pairwise Claim.Before
  fits : taken.Fits cs

theorem pending_eq {text : String} {index : Nat} {taken : ClaimMap} {rule : Rule} {regex : Regex}
    (h : rule.build = .ok regex) :
    rule.pending text index taken =
      ((resolveEach index rule.replacement ((regex.findAll text).filter (mayClaim taken))).1,
        { rule with replacement := (resolveEach index rule.replacement
          ((regex.findAll text).filter (mayClaim taken))).2 }) := by
  rw [pending, h, ← eligible_eq_filter (Regex.findAll_ordered regex text)]

theorem pending_claims {text : String} {index : Nat} {taken : ClaimMap} (htaken : taken.Valid)
    {rule : Rule} {cs : List Claim} (h : (rule.pending text index taken).1 = .ok cs) :
    Pending text.toList index taken cs := by
  cases hb : rule.build with
  | error e =>
    rw [pending, hb] at h
    cases h
  | ok regex =>
    rw [pending_eq hb] at h
    obtain ⟨hcapture, hrule⟩ := resolveEach_ok h
    have ho := Regex.findAll_ordered regex text
    -- each claim lies where an eligible match lies
    have hmem : ∀ c ∈ cs, ∃ m ∈ regex.findAll text, mayClaim taken m ∧ m.whole = c.capture := by
      intro c hc
      have := List.mem_map_of_mem (f := Claim.capture) hc
      rw [hcapture] at this
      obtain ⟨m, hm, hwhole⟩ := List.mem_map.1 this
      obtain ⟨hm, hmay⟩ := List.mem_filter.1 hm
      exact ⟨m, hm, hmay, hwhole⟩
    have hbefore : cs.Pairwise Claim.Before := by
      have hp : (((regex.findAll text).filter (mayClaim taken)).map (·.whole)).Pairwise
          fun a b => a.stop ≤ b.start := List.pairwise_map.2 (ho.apart.filter (mayClaim taken))
      rw [← hcapture, List.pairwise_map] at hp
      exact hp
    refine ⟨hrule, fun c hc => ?_, hbefore, fun c hc => ?_, hbefore.imp Claim.Before.misses,
      fun c hc => ?_⟩
    · obtain ⟨m, hm, -, hwhole⟩ := hmem c hc
      have := ho.parts m hm
      rw [Regex.Match.In, hwhole] at this
      exact this
    · obtain ⟨m, -, hmay, hwhole⟩ := hmem c hc
      rw [mayClaim, hwhole, Bool.and_eq_true, decide_eq_true_eq] at hmay
      exact hmay.1
    · obtain ⟨m, -, hmay, hwhole⟩ := hmem c hc
      rw [mayClaim, hwhole, Bool.and_eq_true] at hmay
      exact (ClaimMap.isFree_iff htaken).1 hmay.2

theorem pending_empty (rule : Rule) (index : Nat) (taken : ClaimMap) :
    (rule.pending "" index taken).2 = rule := by
  cases hb : rule.build with
  | error e => rw [pending, hb]
  | ok regex =>
    have hnone : (regex.findAll "").filter (mayClaim taken) = [] := by
      refine List.filter_eq_nil_iff.2 fun m hm => ?_
      have hstop : m.whole.stop ≤ 0 := ((Regex.findAll_ordered regex "").parts m hm).stop_le
      simp [mayClaim]
      omega
    rw [pending_eq hb, hnone]
    rfl

/-- The claims after a rule: those of a rule that fails are dropped. -/
def claimed (text : String) (index : Nat) (taken : ClaimMap) (rule : Rule) : ClaimMap :=
  match (rule.pending text index taken).1 with
  | .ok cs => taken.commit cs
  | .error _ => taken

/-- The entry of a rule that fails in the list of the rules skipped. -/
def skips (text : String) (index : Nat) (taken : ClaimMap) (rule : Rule) : List Skipped :=
  match (rule.pending text index taken).1 with
  | .ok _ => []
  | .error reason => [⟨index, rule.pattern.map (·.text), reason⟩]

theorem pattern_pending (rule : Rule) (text : String) (index : Nat) (taken : ClaimMap) :
    (rule.pending text index taken).2.pattern = rule.pattern := by
  unfold pending
  split <;> rfl

variable {text : String} {index : Nat} {taken : ClaimMap} {rule : Rule}

/-- **A rule keeps the claims in order**, whether it fails or not. -/
theorem claimed_on (h : taken.On text.toList) : (rule.claimed text index taken).On text.toList := by
  unfold claimed
  split
  · rename_i cs hp
    have hcs := pending_claims h.toValid hp
    refine ⟨h.toValid.commit hcs.fits, fun c hc => ?_⟩
    rcases (ClaimMap.mem_commit h.toValid hcs.fits).1 hc with hc | hc
    · exact h.inside c hc
    · exact hcs.inside c hc
  · exact h

/-- A rule makes claims of its own, and only if it is not skipped. -/
theorem mem_claimed (h : taken.On text.toList) {c : Claim}
    (hc : c ∈ (rule.claimed text index taken).toList) :
    c ∈ taken.toList ∨ c.rule = index ∧ rule.skips text index taken = [] := by
  unfold claimed at hc
  unfold skips
  split at hc
  · rename_i cs hp
    have hcs := pending_claims h.toValid hp
    exact ((ClaimMap.mem_commit h.toValid hcs.fits).1 hc).imp_right fun hc => ⟨hcs.owned c hc, rfl⟩
  · exact .inl hc

theorem mem_skips {s : Skipped} (h : s ∈ rule.skips text index taken) : s.rule = index := by
  unfold skips at h
  split at h
  · cases h
  · rw [List.mem_singleton.1 h]

theorem skips_pairwise : (rule.skips text index taken).Pairwise (·.rule < ·.rule) := by
  unfold skips
  split
  · exact .nil
  · exact List.pairwise_singleton _ _

end Rule

/-! ## All rules -/

namespace Engine

@[simp]
theorem claimAll_nil (text : String) (index : Nat) (taken : ClaimMap) :
    claimAll text index taken [] = (taken, [], []) := rfl

/-- **The first rule, and then the others.** -/
theorem claimAll_cons (text : String) (index : Nat) (taken : ClaimMap) (rule : Rule)
    (rules : List Rule) :
    claimAll text index taken (rule :: rules) =
      ((claimAll text (index + 1) (rule.claimed text index taken) rules).1,
        rule.skips text index taken ++
          (claimAll text (index + 1) (rule.claimed text index taken) rules).2.1,
        (rule.pending text index taken).2 ::
          (claimAll text (index + 1) (rule.claimed text index taken) rules).2.2) := by
  have hpattern := rule.pattern_pending text index taken
  rw [claimAll, Rule.claimed, Rule.skips]
  rcases h : rule.pending text index taken with ⟨reason | cs, after⟩
  · rw [h] at hpattern
    simp only at hpattern
    simp [hpattern]
  · simp

/-- **Some rules, and then the others.** -/
theorem claimAll_append (text : String) (B : List Rule) : ∀ (index : Nat) (taken : ClaimMap)
    (A : List Rule), claimAll text index taken (A ++ B) =
      ((claimAll text (index + A.length) (claimAll text index taken A).1 B).1,
        (claimAll text index taken A).2.1 ++
          (claimAll text (index + A.length) (claimAll text index taken A).1 B).2.1,
        (claimAll text index taken A).2.2 ++
          (claimAll text (index + A.length) (claimAll text index taken A).1 B).2.2)
  | _, _, [] => by simp
  | index, taken, rule :: A => by
    simp only [List.cons_append, claimAll_cons, claimAll_append text B (index + 1),
      List.length_cons, List.append_assoc]
    rw [show index + 1 + A.length = index + (A.length + 1) by omega]

variable {text : String}

/-- **After every run the claims are in order.** -/
theorem claimAll_on : ∀ {rules : List Rule} {index : Nat} {taken : ClaimMap},
    taken.On text.toList → (claimAll text index taken rules).1.On text.toList
  | [], _, _, h => h
  | rule :: rules, index, taken, h => by
    rw [claimAll_cons]
    exact claimAll_on (Rule.claimed_on h)

theorem length_claimAll : ∀ {rules : List Rule} {index : Nat} {taken : ClaimMap},
    (claimAll text index taken rules).2.2.length = rules.length
  | [], _, _ => rfl
  | rule :: rules, index, taken => by
    rw [claimAll_cons]
    simp [length_claimAll]

theorem claimAll_empty_rules : ∀ (rules : List Rule) (index : Nat) (taken : ClaimMap),
    (claimAll "" index taken rules).2.2 = rules
  | [], _, _ => rfl
  | rule :: rules, index, taken => by
    rw [claimAll_cons, rule.pending_empty, claimAll_empty_rules rules]

theorem mem_claimAll_skipped : ∀ {rules : List Rule} {index : Nat} {taken : ClaimMap} {s : Skipped},
    s ∈ (claimAll text index taken rules).2.1 → index ≤ s.rule ∧ s.rule < index + rules.length
  | [], _, _, _, h => by cases h
  | rule :: rules, index, taken, s, h => by
    rw [claimAll_cons] at h
    rw [List.length_cons]
    rcases List.mem_append.1 h with h | h
    · have := Rule.mem_skips h
      omega
    · have := mem_claimAll_skipped h
      omega

theorem claimAll_skipped : ∀ {rules : List Rule} {index : Nat} {taken : ClaimMap},
    (claimAll text index taken rules).2.1.Pairwise (·.rule < ·.rule)
  | [], _, _ => .nil
  | rule :: rules, index, taken => by
    rw [claimAll_cons]
    refine List.pairwise_append.2 ⟨Rule.skips_pairwise, claimAll_skipped, fun s hs t ht => ?_⟩
    have h1 := Rule.mem_skips hs
    have h2 := (mem_claimAll_skipped ht).1
    omega

/-- **A new claim belongs to a rule of the run that is not skipped.** -/
theorem mem_claimAll : ∀ {rules : List Rule} {index : Nat} {taken : ClaimMap} {c : Claim},
    taken.On text.toList → c ∈ (claimAll text index taken rules).1.toList →
    c ∈ taken.toList ∨ index ≤ c.rule ∧ c.rule < index + rules.length ∧
      ∀ s ∈ (claimAll text index taken rules).2.1, s.rule ≠ c.rule
  | [], _, _, _, _, hc => .inl hc
  | rule :: rules, index, taken, c, h, hc => by
    rw [claimAll_cons] at hc ⊢
    rw [List.length_cons]
    rcases mem_claimAll (Rule.claimed_on h) hc with hc | ⟨hlow, hhigh, hskip⟩
    · refine (Rule.mem_claimed h hc).imp_right fun ⟨hrule, hnone⟩ =>
        ⟨by omega, by omega, fun s hs => ?_⟩
      rw [hnone, List.nil_append] at hs
      have := (mem_claimAll_skipped hs).1
      omega
    · refine .inr ⟨by omega, by omega, fun s hs => ?_⟩
      rcases List.mem_append.1 hs with hs | hs
      · have := Rule.mem_skips hs
        omega
      · exact hskip s hs

end Engine

end FirstClaim
