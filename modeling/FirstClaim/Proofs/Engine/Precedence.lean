import FirstClaim.Proofs.Engine.Cuts

/-!
# Earlier rules go before later ones

A rule only adds claims with its own index (`Rule.filter_claimed`), so a run over further rules
leaves the claims of all rules before them as they are (`filter_claimAll`). What it adds lies in the
gaps between these (`Claim.exists_gap`).

`transform_append`: with rules behind others, the first ones claim, skip and call their callbacks as
they do alone, and the claims of the others lie in the gaps that are left.
-/

set_option autoImplicit false

namespace FirstClaim

/-- A claim lies in a gap between the claims of another kind. -/
theorem Claim.exists_gap {l : List Claim} (h : l.Pairwise Claim.Before) {p : Claim → Bool}
    {c : Claim} (hc : c ∈ l) (hp : p c = false) :
    ∃ before after, l.filter p = before ++ after ∧ (∀ d ∈ before, d.Before c) ∧
      ∀ d ∈ after, c.Before d := by
  obtain ⟨before, after, rfl⟩ := List.append_of_mem hc
  obtain ⟨-, hcons, hbefore⟩ := List.pairwise_append.1 h
  refine ⟨before.filter p, after.filter p, ?_, fun d hd => ?_, fun d hd => ?_⟩
  · rw [List.filter_append, List.filter_cons_of_neg (by simp [hp])]
  · exact hbefore d (List.mem_filter.1 hd).1 c (.head _)
  · exact (List.pairwise_cons.1 hcons).1 d (List.mem_filter.1 hd).1

theorem Rule.filter_claimed {text : String} {n index : Nat} (hn : n ≤ index) {taken : ClaimMap}
    (h : taken.On text.toList) (rule : Rule) :
    (rule.claimed text index taken).toList.filter (·.rule < n) =
      taken.toList.filter (·.rule < n) := by
  unfold claimed
  split
  · rename_i cs hp
    refine ClaimMap.filter_commit taken fun c hc => ?_
    have := (pending_claims h.toValid hp).owned c hc
    simp
    omega
  · rfl

namespace Engine

theorem filter_claimAll {text : String} {n : Nat} : ∀ {rules : List Rule} {index : Nat}
    {taken : ClaimMap}, n ≤ index → taken.On text.toList →
    (claimAll text index taken rules).1.toList.filter (·.rule < n) =
      taken.toList.filter (·.rule < n)
  | [], _, _, _, _ => rfl
  | rule :: rules, index, taken, hn, h => by
    rw [claimAll_cons, filter_claimAll (by omega) (Rule.claimed_on h), Rule.filter_claimed hn h]

theorem filter_claimAll_self {text : String} (rules : List Rule) :
    (claimAll text 0 .empty rules).1.toList.filter (·.rule < rules.length) =
      (claimAll text 0 .empty rules).1.toList := by
  refine List.filter_eq_self.2 fun c hc => ?_
  rcases mem_claimAll (.empty _) hc with hc | ⟨-, hrule, -⟩
  · cases hc
  · simpa using hrule

/-- The entries of rules behind others among the rules skipped are told apart by their indices. -/
theorem filter_skipped (text : String) (A B : List Rule) :
    (claimAll text 0 .empty (A ++ B)).2.1.filter (·.rule < A.length) =
      (claimAll text 0 .empty A).2.1 := by
  rw [claimAll_append, List.filter_append, List.filter_eq_self.2, List.filter_eq_nil_iff.2,
    List.append_nil]
  · intro s hs
    have := (mem_claimAll_skipped hs).1
    simp
    omega
  · intro s hs
    have := (mem_claimAll_skipped hs).2
    simp
    omega

/-- **Earlier rules are never affected by later ones.** -/
theorem transform_append (A B : List Rule) (text : String) :
    ((Engine.mk (A ++ B)).transform text).1.claims.filter (·.rule < A.length) =
        ((Engine.mk A).transform text).1.claims ∧
      ((Engine.mk (A ++ B)).transform text).1.skipped.filter (·.rule < A.length) =
        ((Engine.mk A).transform text).1.skipped ∧
      ((Engine.mk (A ++ B)).transform text).2.rules.take A.length =
        ((Engine.mk A).transform text).2.rules ∧
      ∀ c ∈ ((Engine.mk (A ++ B)).transform text).1.claims, A.length ≤ c.rule →
        ∃ before after, ((Engine.mk A).transform text).1.claims = before ++ after ∧
          (∀ d ∈ before, d.stop ≤ c.start) ∧ ∀ d ∈ after, c.stop ≤ d.start := by
  by_cases ht : text = ""
  · subst ht
    simp [transform_empty, Report.passthrough]
  rw [transform_of_ne ht, transform_of_ne ht]
  have hA : (claimAll text 0 .empty A).1.On text.toList := claimAll_on (.empty _)
  have hclaims : (claimAll text 0 .empty (A ++ B)).1.toList.filter (·.rule < A.length) =
      (claimAll text 0 .empty A).1.toList := by
    rw [claimAll_append, filter_claimAll (by omega) hA, filter_claimAll_self]
  -- a claim of a later rule is in order with those of `A`, so it lies in one of their gaps
  refine ⟨hclaims, filter_skipped text A B, ?_, fun c hc hrule => ?_⟩
  · have hlen : A.length = (claimAll text 0 .empty A).2.2.length := length_claimAll.symm
    rw [claimAll_append]
    exact hlen ▸ List.take_left
  · have hall : (claimAll text 0 .empty (A ++ B)).1.On text.toList := claimAll_on (.empty _)
    simp only at hc ⊢
    rw [← hclaims]
    exact Claim.exists_gap hall.apart hc (by simpa using hrule)

end Engine

end FirstClaim
