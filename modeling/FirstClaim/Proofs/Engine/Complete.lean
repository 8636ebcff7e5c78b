import FirstClaim.Proofs.Engine.Turn

/-!
# No match is lost

A rule that is not skipped claims every match that it finds, unless a claim of an earlier rule
reaches into it (`claimed_or_blocked`). Neither its own claims (`takes_of_overlaps`) nor those of
later rules (`exists_blocking`) ever stand in its way. So nothing is left for a later rule with the
same pattern: whatever that rule finds is claimed already (`eligible_eq_nil`).

`transform_complete` puts this together.
-/

set_option autoImplicit false

namespace FirstClaim

/-- The claim and the match have a position in common. -/
def Claim.Overlaps (c : Claim) (m : Regex.Match) : Prop :=
  ∃ p, c.Covers p ∧ m.Covers p

/-- The claim has exactly the span of the match. -/
def Claim.Takes (c : Claim) (m : Regex.Match) : Prop :=
  c.start = m.whole.start ∧ c.stop = m.whole.stop

instance (c : Claim) (m : Regex.Match) : Decidable (c.Takes m) :=
  inferInstanceAs (Decidable (_ ∧ _))

theorem Claim.misses_or_overlaps {c : Claim} {m : Regex.Match} (hc : c.start < c.stop)
    (hm : m.whole.start < m.whole.stop) :
    c.Misses m.whole.start m.whole.stop ∨ c.Overlaps m := by
  rw [Claim.misses_iff hc hm, or_iff_not_imp_left]
  intro h
  simp only [not_forall, not_not] at h
  obtain ⟨p, hlow, hhigh, hp⟩ := h
  exact ⟨p, hp, hlow, hhigh⟩

theorem Claim.Misses.not_overlaps {c : Claim} {m : Regex.Match} (hc : c.start < c.stop)
    (hm : m.whole.start < m.whole.stop) (h : c.Misses m.whole.start m.whole.stop) :
    ¬ c.Overlaps m := by
  rintro ⟨p, hp, hlow, hhigh⟩
  exact (Claim.misses_iff hc hm).1 h p hlow hhigh hp

theorem Claim.Takes.covers {c : Claim} {m : Regex.Match} (h : c.Takes m) {p : Nat}
    (hp : m.Covers p) : c.Covers p := by
  rw [Claim.Covers, h.1, h.2]
  exact hp

namespace Engine

variable {e : Engine} {text : String} {index : Nat} {rule : Rule}

theorem claim_nonempty {c : Claim} (hc : c ∈ (e.transform text).1.claims) : c.start < c.stop :=
  (e.transform_report text).1.nonempty c hc

theorem claim_eq_of_covers {c d : Claim} (hc : c ∈ (e.transform text).1.claims)
    (hd : d ∈ (e.transform text).1.claims) {p : Nat} (hcp : c.Covers p) (hdp : d.Covers p) :
    c = d :=
  eq_of_apart (e.transform_report text).1.apart hc hd hcp hdp

/-- A claim of a rule that is not skipped has the span of an eligible match. -/
theorem exists_takes (h : e.rules[index]? = some rule)
    (hs : ∀ s ∈ (e.transform text).1.skipped, s.rule ≠ index) {c : Claim}
    (hc : c ∈ (e.transform text).1.claims) (hrule : c.rule = index) :
    ∃ m ∈ (e.transform text).1.eligible index (rule.found text), c.Takes m := by
  have hcapture := List.mem_map_of_mem (f := Claim.capture) (Report.mem_claimsOf.2 ⟨hc, hrule⟩)
  rw [claimsOf_capture h hs] at hcapture
  obtain ⟨m, hm, hwhole⟩ := List.mem_map.1 hcapture
  exact ⟨m, hm, by rw [hwhole]; rfl, by rw [hwhole]; rfl⟩

/-- **A match that a rule finds is claimed by it, or a claim of an earlier rule overlaps it.** -/
theorem claimed_or_blocked (h : e.rules[index]? = some rule)
    (hs : ∀ s ∈ (e.transform text).1.skipped, s.rule ≠ index) {m : Regex.Match}
    (hm : m ∈ rule.found text) :
    (∃ c ∈ (e.transform text).1.claims, c.rule = index ∧ c.Takes m) ∨
      ∃ c ∈ (e.transform text).1.claims, c.rule < index ∧ c.Overlaps m := by
  by_cases hfree : ∀ c ∈ (e.transform text).1.claims, c.rule < index →
      c.Misses m.whole.start m.whole.stop
  · have hcapture := List.mem_map_of_mem (f := (·.whole)) (Report.mem_eligible.2 ⟨hm, hfree⟩)
    rw [← claimsOf_capture h hs] at hcapture
    obtain ⟨c, hc, hwhole⟩ := List.mem_map.1 hcapture
    obtain ⟨hc, hrule⟩ := Report.mem_claimsOf.1 hc
    exact .inl ⟨c, hc, hrule, by rw [← hwhole]; rfl, by rw [← hwhole]; rfl⟩
  · simp only [not_forall] at hfree
    obtain ⟨c, hc, hrule, hmeets⟩ := hfree
    exact .inr ⟨c, hc, hrule, (Claim.misses_or_overlaps (claim_nonempty hc)
      (Rule.nonempty_of_mem_found hm)).resolve_left hmeets⟩

theorem not_blocked {m : Regex.Match} {c : Claim} (hc : c ∈ (e.transform text).1.claims)
    (hrule : c.rule = index) (htakes : c.Takes m) :
    ¬ ∃ d ∈ (e.transform text).1.claims, d.rule < index ∧ d.Overlaps m := by
  rintro ⟨d, hd, hlt, p, hdp, hmp⟩
  have hcd := claim_eq_of_covers hc hd (htakes.covers hmp) hdp
  rw [hcd] at hrule
  omega

/-- A claim of the rule itself overlaps only the match that it takes. -/
theorem takes_of_overlaps (h : e.rules[index]? = some rule)
    (hs : ∀ s ∈ (e.transform text).1.skipped, s.rule ≠ index) {m : Regex.Match}
    (hm : m ∈ rule.found text) {c : Claim} (hc : c ∈ (e.transform text).1.claims)
    (hrule : c.rule = index) (hoverlap : c.Overlaps m) : c.Takes m := by
  obtain ⟨k, hk, htakes⟩ := exists_takes h hs hc hrule
  obtain ⟨p, hcp, hmp⟩ := hoverlap
  have hkp : k.Covers p := by
    rw [Regex.Match.Covers, ← htakes.1, ← htakes.2]
    exact hcp
  -- the rule finds its matches one after the other
  have hkm : k = m := eq_of_apart (rule.found_ordered text).apart (Report.mem_eligible.1 hk).1 hm
    hkp hmp
  exact hkm ▸ htakes

/-- Where a claim of a later rule overlaps a match, one of an earlier rule does too. -/
theorem exists_blocking (h : e.rules[index]? = some rule)
    (hs : ∀ s ∈ (e.transform text).1.skipped, s.rule ≠ index) {m : Regex.Match}
    (hm : m ∈ rule.found text) {c : Claim} (hc : c ∈ (e.transform text).1.claims)
    (hrule : index < c.rule) (hoverlap : c.Overlaps m) :
    ∃ d ∈ (e.transform text).1.claims, d.rule < index ∧ d.Overlaps m := by
  refine (claimed_or_blocked h hs hm).resolve_left ?_
  rintro ⟨d, hd, rfl, htakes⟩
  obtain ⟨p, hcp, hmp⟩ := hoverlap
  have hcd := claim_eq_of_covers hc hd hcp (htakes.covers hmp)
  rw [hcd] at hrule
  exact Nat.lt_irrefl _ hrule

/-- **Nothing is left for a later rule with the same pattern.** -/
theorem eligible_eq_nil (h : e.rules[index]? = some rule)
    (hs : ∀ s ∈ (e.transform text).1.skipped, s.rule ≠ index) {j : Nat} (hj : index < j) :
    (e.transform text).1.eligible j (rule.found text) = [] := by
  refine List.eq_nil_iff_forall_not_mem.2 fun m hmem => ?_
  obtain ⟨hm, hfree⟩ := Report.mem_eligible.1 hmem
  have hne := Rule.nonempty_of_mem_found hm
  rcases claimed_or_blocked h hs hm with ⟨c, hc, rfl, htakes⟩ | ⟨c, hc, hlt, hoverlap⟩
  · exact (hfree c hc hj).not_overlaps (claim_nonempty hc) hne
      ⟨m.whole.start, htakes.covers ⟨Nat.le_refl _, hne⟩, Nat.le_refl _, hne⟩
  · exact (hfree c hc (Nat.lt_trans hlt hj)).not_overlaps (claim_nonempty hc) hne hoverlap

/-- **No match is lost, and a pattern that occurs again does nothing.** Of a rule that can be
matched and is not skipped, every match that is not empty is either claimed with exactly its span or
blocked by a claim of an earlier rule; claims of the rule itself or of later rules block nothing. A
later rule with the same pattern makes no claim, is not skipped and comes back as it was, its
callback without a call. -/
theorem transform_complete {regex : Regex} (h : e.rules[index]? = some rule)
    (hb : rule.build = .ok regex) (hs : ∀ s ∈ (e.transform text).1.skipped, s.rule ≠ index) :
    (∀ m ∈ regex.findAll text, m.whole.start < m.whole.stop →
      ((∃ c ∈ (e.transform text).1.claims, c.rule = index ∧ c.Takes m) ∨
        ∃ c ∈ (e.transform text).1.claims, c.rule < index ∧ c.Overlaps m) ∧
      ¬ ((∃ c ∈ (e.transform text).1.claims, c.rule = index ∧ c.Takes m) ∧
        ∃ c ∈ (e.transform text).1.claims, c.rule < index ∧ c.Overlaps m) ∧
      (∀ c ∈ (e.transform text).1.claims, c.rule = index → c.Overlaps m → c.Takes m) ∧
      ∀ c ∈ (e.transform text).1.claims, index < c.rule → c.Overlaps m →
        ∃ d ∈ (e.transform text).1.claims, d.rule < index ∧ d.Overlaps m) ∧
    ∀ (j : Nat) (other : Rule), index < j → e.rules[j]? = some other →
      other.pattern.map (·.text) = rule.pattern.map (·.text) →
      (∀ c ∈ (e.transform text).1.claims, c.rule ≠ j) ∧
        (∀ s ∈ (e.transform text).1.skipped, s.rule ≠ j) ∧
        (e.transform text).2.rules[j]? = some other := by
  refine ⟨fun m hm hne => ?_, fun j other hj hother hpattern => ?_⟩
  · have hfound : m ∈ rule.found text := Rule.mem_found.2 ⟨regex, hb, hm, hne⟩
    refine ⟨claimed_or_blocked h hs hfound, ?_,
      fun c hc hrule => takes_of_overlaps h hs hfound hc hrule,
      fun c hc hrule => exists_blocking h hs hfound hc hrule⟩
    rintro ⟨⟨c, hc, hrule, htakes⟩, hblocked⟩
    exact not_blocked hc hrule htakes hblocked
  · have hbuild : other.build = .ok regex := (Rule.build_congr hpattern).trans hb
    have hfound : other.found text = rule.found text := by
      rw [Rule.found_of_build hbuild, Rule.found_of_build hb]
    -- without an eligible match a callback is not asked, so this rule cannot fail
    have hnone : Rule.resolveEach j other.replacement
        ((e.transform text).1.eligible j (other.found text)) = (.ok [], other.replacement) := by
      rw [hfound, eligible_eq_nil h hs hj]
      rfl
    obtain ⟨hclaims, hskipped, hafter⟩ := turn_ok hother hbuild hnone
    exact ⟨Report.claimsOf_eq_nil_iff.1 hclaims, hskipped, hafter⟩

/-- Rules of which the first one blocks a match of the second one, and the third one has the same
pattern again. -/
def repeatedPattern : Engine :=
  ⟨[{ pattern := some (.source "b"), replacement := .template "B" },
    { pattern := some (.source "ab|c"), replacement := .template "X" },
    { pattern := some (.source "ab|c"), replacement := .computed (fun _ _ => .ok "Y") [] }]⟩

theorem transform_complete_repeatedPattern :
    (∀ s ∈ (repeatedPattern.transform "ab c").1.skipped, s.rule ≠ 1) ∧
      (∃ c ∈ (repeatedPattern.transform "ab c").1.claims, c.rule < 1 ∧
        c.Overlaps ⟨⟨0, 2, "ab"⟩, []⟩) ∧
      (∃ c ∈ (repeatedPattern.transform "ab c").1.claims, c.rule = 1 ∧ c.Takes ⟨⟨3, 4, "c"⟩, []⟩) ∧
      ∀ c ∈ (repeatedPattern.transform "ab c").1.claims, c.rule ≠ 2 := by
  have hs : ∀ s ∈ (repeatedPattern.transform "ab c").1.skipped, s.rule ≠ 1 := by decide +kernel
  have h := @transform_complete repeatedPattern "ab c" 1 _
    ⟨"ab|c", .alt (.literal ['a', 'b']) (.literal ['c'])⟩ rfl (by decide +kernel) hs
  refine ⟨hs, ?_, ?_, (h.2 2 _ (by decide) rfl rfl).1⟩
  · exact (h.1 _ (by decide +kernel) (by decide)).1.resolve_left (by decide +kernel)
  · decide +kernel

end Engine

end FirstClaim
