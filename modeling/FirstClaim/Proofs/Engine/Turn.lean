import FirstClaim.Proofs.Engine.Precedence
import FirstClaim.Proofs.Engine.Resolve

/-!
# The turn of one rule

When a rule has its turn, the claims made so far are those of the rules before it, and in the report
they are still the claims with smaller indices (`Report.before`). So what a rule does in the course
of a run can be read off from the report:

* `Rule.found`: the matches of a rule that are not empty; `Report.eligible`: those of them into
  which no claim of an earlier rule reaches.
* `Rule.made`: the claims of a rule on its turn, none if it fails.
* `transform_turn`: the claims of a rule in a report, its entry among the rules skipped and the
  rule that comes back are those of its turn.
* `turn_ok`, `turn_error`, `turn_unbuilt`: a rule that can be matched resolves its eligible matches,
  and either all of them become claims or the rule is skipped; a rule that cannot be matched does
  nothing.
* `turn_template`, `filled_mem_claims`: a rule with a template claims all its eligible matches.
* `turn_answers`, `turn_failure`: so the callback of a rule answers at all eligible matches, or its
  first failure ends the turn.
-/

set_option autoImplicit false

namespace FirstClaim

open scoped List

/-- The byte `p` lies in the match. -/
def Regex.Match.Covers (m : Regex.Match) (p : Nat) : Prop :=
  m.whole.start ≤ p ∧ p < m.whole.stop

/-- The matches of a rule in a text that are not empty, from left to right. A rule that cannot be
matched has none. -/
def Rule.found (rule : Rule) (text : String) : List Regex.Match :=
  match rule.build with
  | .ok regex => (regex.findAll text).filter fun m => m.whole.start < m.whole.stop
  | .error _ => []

/-- The matches into which no claim of the map reaches. -/
def ClaimMap.avoiding (taken : ClaimMap) (ms : List Regex.Match) : List Regex.Match :=
  ms.filter fun m => taken.toList.all fun c => c.Misses m.whole.start m.whole.stop

namespace Report

/-- The claims of the rules before the one at `index`. -/
def before (r : Report) (index : Nat) : ClaimMap :=
  ⟨r.claims.filter (·.rule < index)⟩

/-- The claims of the rule at `index`. -/
def claimsOf (r : Report) (index : Nat) : List Claim :=
  r.claims.filter (·.rule = index)

/-- The matches into which no claim of a rule before the one at `index` reaches. -/
def eligible (r : Report) (index : Nat) (ms : List Regex.Match) : List Regex.Match :=
  (r.before index).avoiding ms

theorem mem_eligible {r : Report} {index : Nat} {ms : List Regex.Match} {m : Regex.Match} :
    m ∈ r.eligible index ms ↔
      m ∈ ms ∧ ∀ c ∈ r.claims, c.rule < index → c.Misses m.whole.start m.whole.stop := by
  simp only [eligible, ClaimMap.avoiding, before, List.mem_filter, List.all_eq_true,
    decide_eq_true_eq, and_imp]

theorem mem_claimsOf {r : Report} {index : Nat} {c : Claim} :
    c ∈ r.claimsOf index ↔ c ∈ r.claims ∧ c.rule = index := by
  rw [claimsOf, List.mem_filter, decide_eq_true_eq]

theorem claimsOf_eq_nil_iff {r : Report} {index : Nat} :
    r.claimsOf index = [] ↔ ∀ c ∈ r.claims, c.rule ≠ index := by
  simp only [claimsOf, List.filter_eq_nil_iff, decide_eq_true_eq, ne_eq]

end Report

/-! ## What a rule finds -/

namespace Rule

variable {rule : Rule} {text : String}

theorem found_of_build {regex : Regex} (h : rule.build = .ok regex) :
    rule.found text = (regex.findAll text).filter fun m => m.whole.start < m.whole.stop := by
  rw [found, h]

theorem mem_found {m : Regex.Match} : m ∈ rule.found text ↔
    ∃ regex, rule.build = .ok regex ∧ m ∈ regex.findAll text ∧ m.whole.start < m.whole.stop := by
  cases hb : rule.build with
  | error e => simp [found, hb]
  | ok regex => simp [found, hb]

theorem nonempty_of_mem_found {m : Regex.Match} (h : m ∈ rule.found text) :
    m.whole.start < m.whole.stop := by
  obtain ⟨-, -, -, hne⟩ := mem_found.1 h
  exact hne

theorem found_ordered (rule : Rule) (text : String) :
    Regex.Ordered text.toList 0 (rule.found text) := by
  cases hb : rule.build with
  | error e =>
    rw [found, hb]
    exact .nil _ _
  | ok regex =>
    have h := Regex.findAll_ordered regex text
    rw [found_of_build hb]
    exact ⟨fun m hm => h.parts m (List.mem_filter.1 hm).1,
      fun m hm => h.behind m (List.mem_filter.1 hm).1, h.apart.filter _⟩

theorem found_empty (rule : Rule) : rule.found "" = [] := by
  refine List.eq_nil_iff_forall_not_mem.2 fun m hm => ?_
  have hne := nonempty_of_mem_found hm
  have hstop : m.whole.stop ≤ 0 := ((rule.found_ordered "").parts m hm).stop_le
  omega

/-- Only the source of its pattern decides what a rule is matched with. -/
theorem build_congr {other : Rule} (h : rule.pattern.map (·.text) = other.pattern.map (·.text)) :
    rule.build = other.build := by
  unfold build
  cases hp : rule.pattern with
  | none =>
    rw [hp, Option.map_none, eq_comm, Option.map_eq_none_iff] at h
    rw [h]
  | some p =>
    rw [hp, Option.map_some, eq_comm, Option.map_eq_some_iff] at h
    obtain ⟨q, hq, hpq⟩ := h
    have hbuild : q.build = p.build := by
      rw [Pattern.build, Pattern.build, Pattern.isEmpty, hpq]
      rfl
    simp only [hq, hbuild]

end Rule

/-! ## One turn -/

namespace Rule

variable {text : String} {index : Nat} {taken : ClaimMap} {rule : Rule}

/-- The matches that a rule may claim, told by the claims made before. -/
theorem filter_mayClaim (hv : taken.Valid) {regex : Regex} (hb : rule.build = .ok regex) :
    (regex.findAll text).filter (mayClaim taken) = taken.avoiding (rule.found text) := by
  rw [found_of_build hb, ClaimMap.avoiding, List.filter_filter]
  refine List.filter_congr fun m _ => ?_
  rw [mayClaim, Bool.and_comm, Bool.eq_iff_iff, Bool.and_eq_true, Bool.and_eq_true,
    ClaimMap.isFree_iff hv, List.all_eq_true]
  simp only [decide_eq_true_eq]

theorem pending_of_build (text : String) (index : Nat) (hv : taken.Valid) {regex : Regex}
    (hb : rule.build = .ok regex) :
    rule.pending text index taken =
      ((resolveEach index rule.replacement (taken.avoiding (rule.found text))).1,
        { rule with replacement :=
          (resolveEach index rule.replacement (taken.avoiding (rule.found text))).2 }) := by
  rw [pending_eq hb, filter_mayClaim hv hb]

theorem pending_of_error {e : RuleError} (hb : rule.build = .error e) :
    rule.pending text index taken = (.error e, rule) := by
  rw [pending, hb]

/-- A turn depends only on which of the matches found the claims made before leave. -/
theorem pending_congr {other : ClaimMap} (hv : taken.Valid) (hv' : other.Valid)
    (h : taken.avoiding (rule.found text) = other.avoiding (rule.found text)) :
    rule.pending text index taken = rule.pending text index other := by
  cases hb : rule.build with
  | error e => rw [pending_of_error hb, pending_of_error hb]
  | ok regex => rw [pending_of_build _ _ hv hb, pending_of_build _ _ hv' hb, h]

/-- The claims that a rule makes on its turn: none if it fails. -/
def made (text : String) (index : Nat) (taken : ClaimMap) (rule : Rule) : List Claim :=
  match (rule.pending text index taken).1 with
  | .ok cs => cs
  | .error _ => []

theorem claimed_eq_commit : rule.claimed text index taken =
    taken.commit (rule.made text index taken) := by
  unfold claimed made
  cases (rule.pending text index taken).1 <;> rfl

theorem made_pending (hv : taken.Valid) :
    Pending text.toList index taken (rule.made text index taken) := by
  unfold made
  split
  · exact pending_claims hv ‹_›
  · exact ⟨by simp, by simp, .nil, ⟨by simp, .nil, by simp⟩⟩

theorem mem_made (hv : taken.Valid) {c : Claim} (hc : c ∈ rule.made text index taken) :
    ∃ m ∈ rule.found text, c.capture = m.whole := by
  unfold made at hc
  split at hc
  · rename_i cs hp
    cases hb : rule.build with
    | error e =>
      rw [pending_of_error hb] at hp
      cases hp
    | ok regex =>
      rw [pending_of_build _ _ hv hb] at hp
      obtain ⟨hcapture, -⟩ := resolveEach_ok hp
      have hmem := List.mem_map_of_mem (f := Claim.capture) hc
      rw [hcapture] at hmem
      obtain ⟨m, hm, hwhole⟩ := List.mem_map.1 hmem
      exact ⟨m, (List.mem_filter.1 hm).1, hwhole.symm⟩
  · cases hc

theorem filter_claimed_self (hv : taken.Valid) (hbefore : ∀ c ∈ taken.toList, c.rule < index) :
    (rule.claimed text index taken).toList.filter (·.rule = index) =
      rule.made text index taken := by
  have hmade : Pending text.toList index taken (rule.made text index taken) := made_pending hv
  have hv' : (taken.commit (rule.made text index taken)).Valid := hv.commit hmade.fits
  have hfiltered : ClaimMap.Valid
      ⟨(taken.commit (rule.made text index taken)).toList.filter (·.rule = index)⟩ :=
    ⟨fun c hc => hv'.nonempty c (List.mem_filter.1 hc).1, hv'.apart.filter _⟩
  have hown : ClaimMap.Valid ⟨rule.made text index taken⟩ :=
    ⟨hmade.fits.nonempty, hmade.before⟩
  rw [claimed_eq_commit]
  refine congrArg ClaimMap.toList (hfiltered.eq_of_perm hown ?_)
  have hnone : taken.toList.filter (·.rule = index) = [] :=
    List.filter_eq_nil_iff.2 fun c hc => by
      have := hbefore c hc
      simp
      omega
  have hall : (rule.made text index taken).filter (·.rule = index) = rule.made text index taken :=
    List.filter_eq_self.2 fun c hc => by simpa using hmade.owned c hc
  calc (taken.commit (rule.made text index taken)).toList.filter (·.rule = index)
    _ ~ (taken.toList ++ rule.made text index taken).filter (·.rule = index) :=
      (ClaimMap.commit_perm hv hmade.fits).filter _
    _ = rule.made text index taken := by rw [List.filter_append, hnone, hall, List.nil_append]

end Rule

/-! ## A turn in a report -/

/-- What the claims of rules up to one are decides what its own claims are. -/
theorem Claim.filter_eq_of_filter_lt {l l' : List Claim} {n : Nat}
    (h : l.filter (·.rule < n + 1) = l'.filter (·.rule < n + 1)) :
    l.filter (·.rule = n) = l'.filter (·.rule = n) := by
  have hsub : ∀ k : List Claim,
      (k.filter (·.rule < n + 1)).filter (·.rule = n) = k.filter (·.rule = n) := fun k => by
    rw [List.filter_filter]
    refine List.filter_congr fun c _ => ?_
    rw [Bool.eq_iff_iff]
    simp
    omega
  rw [← hsub l, h, hsub l']

namespace Engine

variable {e : Engine} {text : String} {index : Nat} {rule : Rule}

theorem rule_lt_of_mem_claimAll {A : List Rule} {c : Claim}
    (hc : c ∈ (claimAll text 0 .empty A).1.toList) : c.rule < A.length := by
  rcases mem_claimAll (.empty _) hc with hc | ⟨-, hrule, -⟩
  · cases hc
  · omega

theorem filter_claimAll_append (text : String) (A B : List Rule) :
    (claimAll text 0 .empty (A ++ B)).1.toList.filter (·.rule < A.length) =
      (claimAll text 0 .empty A).1.toList := by
  rw [claimAll_append, filter_claimAll (by omega) (claimAll_on (.empty _)), filter_claimAll_self]

theorem before_on (e : Engine) (text : String) (index : Nat) :
    ((e.transform text).1.before index).On text.toList := by
  have hon := (e.transform_report text).1
  exact ⟨⟨fun c hc => hon.nonempty c (List.mem_filter.1 hc).1, hon.apart.filter _⟩,
    fun c hc => hon.inside c (List.mem_filter.1 hc).1⟩

/-- **What a rule does on its turn is what the report says of it.** On the empty text no rule has a
turn, and so none is skipped. -/
theorem transform_turn (text : String) (h : e.rules[index]? = some rule) :
    (e.transform text).1.claimsOf index =
        rule.made text index ((e.transform text).1.before index) ∧
      (text ≠ "" → (e.transform text).1.skipped.filter (·.rule = index) =
        rule.skips text index ((e.transform text).1.before index)) ∧
      (e.transform text).2.rules[index]? =
        some (rule.pending text index ((e.transform text).1.before index)).2 := by
  by_cases ht : text = ""
  · subst ht
    refine ⟨?_, fun hne => absurd rfl hne, ?_⟩
    · refine (List.eq_nil_iff_forall_not_mem.2 fun c hc => ?_).symm
      obtain ⟨m, hm, -⟩ := Rule.mem_made (e.before_on "" index).toValid hc
      rw [Rule.found_empty] at hm
      cases hm
    · rw [Rule.pending_empty, transform_empty, h]
  -- the claims of `A` are those before the turn, and those of `B` bear larger numbers
  obtain ⟨A, B, hrules, rfl⟩ : ∃ A B, e.rules = A ++ rule :: B ∧ A.length = index := by
    obtain ⟨hlt, hrule⟩ := List.getElem?_eq_some_iff.1 h
    refine ⟨e.rules.take index, e.rules.drop (index + 1), ?_, by simp; omega⟩
    rw [← hrule, ← List.drop_eq_getElem_cons hlt, List.take_append_drop]
  have hon : (claimAll text 0 .empty A).1.On text.toList := claimAll_on (.empty _)
  have hbefore : (e.transform text).1.before A.length = (claimAll text 0 .empty A).1 := by
    rw [Report.before, transform_of_ne ht, hrules]
    exact congrArg ClaimMap.mk (filter_claimAll_append text A (rule :: B))
  rw [hbefore, Report.claimsOf, transform_of_ne ht, hrules, claimAll_append, claimAll_cons,
    Nat.zero_add]
  refine ⟨?_, fun _ => ?_, ?_⟩
  · rw [← Rule.filter_claimed_self hon.toValid fun c hc => rule_lt_of_mem_claimAll hc]
    exact Claim.filter_eq_of_filter_lt (filter_claimAll (Nat.le_refl _) (Rule.claimed_on hon))
  · have hearlier : (claimAll text 0 .empty A).2.1.filter (·.rule = A.length) = [] :=
      List.filter_eq_nil_iff.2 fun s hs => by
        have := (mem_claimAll_skipped hs).2
        simp
        omega
    have hlater : (claimAll text (A.length + 1) (rule.claimed text A.length
        (claimAll text 0 .empty A).1) B).2.1.filter (·.rule = A.length) = [] :=
      List.filter_eq_nil_iff.2 fun s hs => by
        have := (mem_claimAll_skipped hs).1
        simp
        omega
    rw [List.filter_append, List.filter_append, hearlier, hlater, List.nil_append, List.append_nil]
    exact List.filter_eq_self.2 fun s hs => by simpa using Rule.mem_skips hs
  · have hlen : (claimAll text 0 .empty A).2.2.length = A.length := length_claimAll
    rw [List.getElem?_append_right (by omega), hlen, Nat.sub_self, List.getElem?_cons_zero]

theorem turn_ok (h : e.rules[index]? = some rule) {regex : Regex} (hb : rule.build = .ok regex)
    {cs : List Claim} {r : Replacement}
    (hr : Rule.resolveEach index rule.replacement
      ((e.transform text).1.eligible index (rule.found text)) = (.ok cs, r)) :
    (e.transform text).1.claimsOf index = cs ∧
      (∀ s ∈ (e.transform text).1.skipped, s.rule ≠ index) ∧
      (e.transform text).2.rules[index]? = some { rule with replacement := r } := by
  obtain ⟨hclaims, hskipped, hafter⟩ := transform_turn text h
  have hp := Rule.pending_of_build text index (e.before_on text index).toValid hb
  rw [← Report.eligible, hr] at hp
  rw [Rule.made, hp] at hclaims
  rw [hp] at hafter
  refine ⟨hclaims, fun s hs => ?_, hafter⟩
  by_cases ht : text = ""
  · subst ht
    rw [transform_empty] at hs
    cases hs
  · rw [Rule.skips, hp] at hskipped
    simpa using List.filter_eq_nil_iff.1 (hskipped ht) s hs

theorem turn_template (text : String) (h : e.rules[index]? = some rule) {template : String}
    (htemplate : rule.replacement = .template template) {regex : Regex}
    (hb : rule.build = .ok regex) :
    (e.transform text).1.claimsOf index =
      ((e.transform text).1.eligible index (rule.found text)).map (·.filled index template) := by
  have hr := Rule.resolveEach_template index template
    ((e.transform text).1.eligible index (rule.found text))
  rw [← htemplate] at hr
  exact (turn_ok h hb hr).1

theorem filled_mem_claims (h : e.rules[index]? = some rule) {template : String}
    (htemplate : rule.replacement = .template template) {regex : Regex}
    (hb : rule.build = .ok regex) {m : Regex.Match} (hm : m ∈ rule.found text)
    (hfree : ∀ c ∈ (e.transform text).1.claims, c.rule < index →
      c.Misses m.whole.start m.whole.stop) :
    m.filled index template ∈ (e.transform text).1.claims := by
  have hown : m.filled index template ∈ (e.transform text).1.claimsOf index := by
    rw [turn_template text h htemplate hb]
    exact List.mem_map_of_mem (Report.mem_eligible.2 ⟨hm, hfree⟩)
  exact (Report.mem_claimsOf.1 hown).1

/-- A rule that fails at one of its eligible matches makes no claim and is skipped. -/
theorem turn_error (h : e.rules[index]? = some rule) {regex : Regex} (hb : rule.build = .ok regex)
    {reason : RuleError} {r : Replacement}
    (hr : Rule.resolveEach index rule.replacement
      ((e.transform text).1.eligible index (rule.found text)) = (.error reason, r)) :
    (e.transform text).1.claimsOf index = [] ∧
      (e.transform text).1.skipped.filter (·.rule = index) =
        [⟨index, rule.pattern.map (·.text), reason⟩] ∧
      (e.transform text).2.rules[index]? = some { rule with replacement := r } := by
  obtain ⟨hclaims, hskipped, hafter⟩ := transform_turn text h
  have hp := Rule.pending_of_build text index (e.before_on text index).toValid hb
  rw [← Report.eligible, hr] at hp
  rw [Rule.made, hp] at hclaims
  rw [hp] at hafter
  have ht : text ≠ "" := by
    -- in the empty text there is nothing to fail at
    rintro rfl
    rw [Rule.found_empty] at hr
    cases hr
  refine ⟨hclaims, ?_, hafter⟩
  rw [hskipped ht, Rule.skips, hp]

/-- A rule that cannot be matched makes no claim and stays as it is. It is skipped unless the text
is empty. -/
theorem turn_unbuilt (text : String) (h : e.rules[index]? = some rule) {reason : RuleError}
    (hb : rule.build = .error reason) :
    (e.transform text).1.claimsOf index = [] ∧
      (text ≠ "" → (e.transform text).1.skipped.filter (·.rule = index) =
        [⟨index, rule.pattern.map (·.text), reason⟩]) ∧
      (e.transform text).2.rules[index]? = some rule := by
  obtain ⟨hclaims, hskipped, hafter⟩ := transform_turn text h
  rw [Rule.made, Rule.pending_of_error hb] at hclaims
  rw [Rule.pending_of_error hb] at hafter
  refine ⟨hclaims, fun ht => ?_, hafter⟩
  rw [hskipped ht, Rule.skips, Rule.pending_of_error hb]

/-- A rule whose callback answers at all eligible matches replaces these by the answers. -/
theorem turn_answers {f : Callback} {earlier : List Call} (h : e.rules[index]? = some rule)
    (hf : rule.replacement = .computed f earlier) {regex : Regex} (hb : rule.build = .ok regex)
    {texts : List String} (hanswers : f.Answers earlier
      (((e.transform text).1.eligible index (rule.found text)).map (·.call)) texts) :
    ((e.transform text).1.claimsOf index).map (·.replacement) = texts ∧
      (∀ s ∈ (e.transform text).1.skipped, s.rule ≠ index) ∧
      (e.transform text).2.rules[index]? = some (rule.withCalls f
        ((((e.transform text).1.eligible index (rule.found text)).map (·.call)).reverse ++
          earlier)) := by
  obtain ⟨cs, hr, rfl⟩ := Rule.resolveEach_of_answers index hanswers
  rw [← hf] at hr
  obtain ⟨rfl, hskipped, hafter⟩ := turn_ok h hb hr
  exact ⟨rfl, hskipped, hafter⟩

/-- A rule whose callback fails at an eligible match makes no claim and is skipped for that. -/
theorem turn_failure {f : Callback} {earlier : List Call} (h : e.rules[index]? = some rule)
    (hf : rule.replacement = .computed f earlier) {done rest : List Regex.Match} {m : Regex.Match}
    (hsplit : (e.transform text).1.eligible index (rule.found text) = done ++ m :: rest)
    {texts : List String} (hdone : f.Answers earlier (done.map (·.call)) texts) {message : String}
    (hm : f ((done.map (·.call)).reverse ++ earlier) m.call = .error message) :
    (e.transform text).1.claimsOf index = [] ∧
      (e.transform text).1.skipped.filter (·.rule = index) =
        [⟨index, rule.pattern.map (·.text), .callback message⟩] ∧
      (e.transform text).2.rules[index]? =
        some (rule.withCalls f (((done ++ [m]).map (·.call)).reverse ++ earlier)) := by
  have hmem : m ∈ (e.transform text).1.eligible index (rule.found text) := by
    rw [hsplit]
    exact List.mem_append_right _ List.mem_cons_self
  obtain ⟨regex, hb, -⟩ := Rule.mem_found.1 (Report.mem_eligible.1 hmem).1
  have hr := Rule.resolveEach_of_failure index rest hdone hm
  rw [← hsplit, ← hf] at hr
  exact turn_error h hb hr

/-- **A rule that is not skipped claims each eligible match**, and nothing else. -/
theorem claimsOf_capture (h : e.rules[index]? = some rule)
    (hs : ∀ s ∈ (e.transform text).1.skipped, s.rule ≠ index) :
    ((e.transform text).1.claimsOf index).map Claim.capture =
      ((e.transform text).1.eligible index (rule.found text)).map (·.whole) := by
  cases hb : rule.build with
  | error reason =>
    rw [(turn_unbuilt text h hb).1, Rule.found, hb]
    rfl
  | ok regex =>
    rcases hr : Rule.resolveEach index rule.replacement
      ((e.transform text).1.eligible index (rule.found text)) with ⟨reason | cs, r⟩
    · have hentry := (turn_error h hb hr).2.1
      rw [List.filter_eq_nil_iff.2 fun s hmem => by simpa using hs s hmem] at hentry
      cases hentry
    · rw [(turn_ok h hb hr).1, (Rule.resolveEach_ok (congrArg Prod.fst hr)).1]

end Engine

end FirstClaim
