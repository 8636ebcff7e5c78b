import FirstClaim.Proofs.Engine.Renumber
import FirstClaim.Proofs.Engine.Turn
import Mathlib.Logic.Equiv.Basic

/-!
# Rules that do not meet may change places

Two rules are apart in a text when no position lies in a match of the one and in a match of the
other (`Rule.Apart`). Then neither of them notices the claims of the other (`pending_claimed`), and
it does not matter whose claims go into the map first (`ClaimMap.commit_comm`).

`transform_exchange`: where two such rules stand side by side, changing their places changes nothing
but their numbers.
-/

set_option autoImplicit false

namespace FirstClaim

open scoped List

/-- No position of the text lies both in a match of the one rule and in a match of the other. -/
def Rule.Apart (text : String) (r s : Rule) : Prop :=
  ∀ m ∈ r.found text, ∀ k ∈ s.found text, ∀ p, m.Covers p → ¬ k.Covers p

theorem Rule.Apart.symm {text : String} {r s : Rule} (h : r.Apart text s) : s.Apart text r :=
  fun k hk m hm p hkp hmp => h m hm k hk p hmp hkp

/-! ## Claims in another order -/

namespace ClaimMap

variable {m : ClaimMap} {cs ds : List Claim}

theorem Fits.append (hc : m.Fits cs) (hd : m.Fits ds)
    (h : ∀ c ∈ cs, ∀ d ∈ ds, c.Misses d.start d.stop) : m.Fits (cs ++ ds) where
  nonempty c hmem := (List.mem_append.1 hmem).elim (hc.nonempty c) (hd.nonempty c)
  apart := List.pairwise_append.2 ⟨hc.apart, hd.apart, h⟩
  free c hmem := (List.mem_append.1 hmem).elim (hc.free c) (hd.free c)

/-- **Claims that do not meet may go into a map in any order.** -/
theorem commit_comm (hm : m.Valid) (hc : m.Fits cs) (hd : m.Fits ds)
    (h : ∀ c ∈ cs, ∀ d ∈ ds, c.Misses d.start d.stop) :
    (m.commit cs).commit ds = (m.commit ds).commit cs := by
  have hcd : m.Fits (cs ++ ds) := hc.append hd h
  have hdc : m.Fits (ds ++ cs) := hd.append hc fun d hmem c hmem' => (h c hmem' d hmem).symm
  rw [← commit_append, ← commit_append]
  refine (hm.commit hcd).eq_of_perm (hm.commit hdc) ?_
  calc (m.commit (cs ++ ds)).toList
    _ ~ m.toList ++ (cs ++ ds) := commit_perm hm hcd
    _ ~ m.toList ++ (ds ++ cs) := List.perm_append_comm.append_left _
    _ ~ (m.commit (ds ++ cs)).toList := (commit_perm hm hdc).symm

end ClaimMap

/-! ## Two rules -/

namespace Rule

variable {text : String} {taken : ClaimMap} {r s : Rule}

theorem Apart.misses_found (h : r.Apart text s) (hv : taken.Valid) {i : Nat} {c : Claim}
    (hc : c ∈ r.made text i taken) {k : Regex.Match} (hk : k ∈ s.found text) :
    c.Misses k.whole.start k.whole.stop := by
  obtain ⟨m, hm, hwhole⟩ := mem_made hv hc
  have hne := nonempty_of_mem_found hk
  refine (Claim.misses_iff ((made_pending hv).fits.nonempty c hc) hne).2 fun p hlow hhigh hcp => ?_
  have hmp : m.Covers p := by
    rw [Regex.Match.Covers, ← hwhole]
    exact hcp
  exact h m hm k hk p hmp ⟨hlow, hhigh⟩

theorem Apart.misses_made (h : r.Apart text s) (hv : taken.Valid) {i j : Nat} {c d : Claim}
    (hc : c ∈ r.made text i taken) (hd : d ∈ s.made text j taken) : c.Misses d.start d.stop := by
  obtain ⟨k, hk, hwhole⟩ := mem_made hv hd
  have hmisses := h.misses_found hv hc hk
  rwa [← hwhole] at hmisses

/-- **A rule does not notice the claims of one that is apart from it.** -/
theorem Apart.pending_claimed (h : r.Apart text s) (hv : taken.Valid) (i j : Nat) :
    s.pending text j (r.claimed text i taken) = s.pending text j taken := by
  have hfits : taken.Fits (r.made text i taken) := (made_pending hv).fits
  rw [claimed_eq_commit]
  refine pending_congr (hv.commit hfits) hv ?_
  refine List.filter_congr fun k hk => ?_
  rw [Bool.eq_iff_iff, List.all_eq_true, List.all_eq_true]
  simp only [decide_eq_true_eq, ClaimMap.mem_commit hv hfits]
  exact ⟨fun hall c hc => hall c (.inl hc),
    fun hall c hc => hc.elim (hall c) fun hc => h.misses_found hv hc hk⟩

theorem Apart.skips_claimed (h : r.Apart text s) (hv : taken.Valid) (i j : Nat) :
    s.skips text j (r.claimed text i taken) = s.skips text j taken := by
  rw [skips, skips, h.pending_claimed hv]

/-- **Rules that are apart may claim in any order**, under whatever numbers. -/
theorem Apart.claimed_comm (h : r.Apart text s) (hv : taken.Valid) (i j : Nat) :
    s.claimed text j (r.claimed text i taken) = r.claimed text i (s.claimed text j taken) := by
  have hr : r.made text i (s.claimed text j taken) = r.made text i taken := by
    rw [made, made, h.symm.pending_claimed hv]
  have hs : s.made text j (r.claimed text i taken) = s.made text j taken := by
    rw [made, made, h.pending_claimed hv]
  calc s.claimed text j (r.claimed text i taken)
    _ = (taken.commit (r.made text i taken)).commit (s.made text j taken) := by
      rw [claimed_eq_commit, hs, claimed_eq_commit]
    _ = (taken.commit (s.made text j taken)).commit (r.made text i taken) :=
      ClaimMap.commit_comm hv (made_pending hv).fits (made_pending hv).fits
        fun c hc d hd => h.misses_made hv hc hd
    _ = r.claimed text i (s.claimed text j taken) := by
      rw [claimed_eq_commit, hr, claimed_eq_commit]

end Rule

/-! ## Runs -/

namespace Engine

/-- The numbers of two rules that stand side by side, exchanged. -/
def exchange (index : Nat) : Nat → Nat :=
  Equiv.swap index (index + 1)

theorem exchange_left (index : Nat) : exchange index index = index + 1 :=
  Equiv.swap_apply_left _ _

theorem exchange_right (index : Nat) : exchange index (index + 1) = index :=
  Equiv.swap_apply_right _ _

theorem exchange_of_lt {index i : Nat} (h : i < index) : exchange index i = i :=
  Equiv.swap_apply_of_ne_of_ne (by omega) (by omega)

theorem exchange_of_gt {index i : Nat} (h : index + 1 < i) : exchange index i = i :=
  Equiv.swap_apply_of_ne_of_ne (by omega) (by omega)

/-- **The first two rules of a run change places**, if they are apart. -/
theorem claimAll_exchange {text : String} {r s : Rule} (h : r.Apart text s) {index : Nat}
    {taken : ClaimMap} (hon : taken.On text.toList) (hsmaller : ∀ c ∈ taken.toList, c.rule < index)
    (B : List Rule) : ∃ claims skippedR skippedS skipped r' s' B',
      claimAll text index taken (r :: s :: B) =
          (claims, skippedR ++ (skippedS ++ skipped), r' :: s' :: B') ∧
        claimAll text index taken (s :: r :: B) =
          (claims.renumber (exchange index),
            (skippedS ++ (skippedR ++ skipped)).map (·.renumber (exchange index)),
            s' :: r' :: B') := by
  have hv := hon.toValid
  have htaken : taken.renumber (exchange index) = taken :=
    ClaimMap.renumber_eq_self fun c hc => exchange_of_lt (hsmaller c hc)
  -- each of the two does under its new number what it does under the old one
  have hr := r.pending_renumber (exchange index) text index taken
  have hs := s.pending_renumber (exchange index) text (index + 1) taken
  have hrskips := r.skips_renumber (exchange index) text index taken
  have hsskips := s.skips_renumber (exchange index) text (index + 1) taken
  have hrclaimed := r.claimed_renumber (exchange index) text index taken
  rw [exchange_left, htaken] at hr hrskips hrclaimed
  rw [exchange_right, htaken] at hs hsskips
  have hclaimed : r.claimed text (index + 1) (s.claimed text index taken) =
      (s.claimed text (index + 1) (r.claimed text index taken)).renumber (exchange index) := by
    rw [← Rule.claimed_renumber, exchange_right, ← hrclaimed, h.claimed_comm hv]
  have hrest : claimAll text (index + 1 + 1) (ClaimMap.renumber (exchange index)
      (s.claimed text (index + 1) (r.claimed text index taken))) B = _ :=
    claimAll_renumber fun k _ => exchange_of_gt (by omega)
  refine ⟨_, _, _, _, _, _, _, by rw [claimAll_cons, claimAll_cons], ?_⟩
  rw [claimAll_cons, claimAll_cons, hclaimed, hrest, h.symm.skips_claimed hv, hrskips, hsskips,
    h.symm.pending_claimed hv, hr, hs, h.skips_claimed hv, h.pending_claimed hv, List.map_append,
    List.map_append]

/-! ## Reports -/

/-- **Neighbours that are apart may change places.** The output stays the same, the claims and the
rules skipped stay the same up to the numbers of the two, and each callback is called alike, whether
the two can be matched or not and whether their callbacks fail or not. -/
theorem transform_exchange (A B : List Rule) {r s : Rule} {text : String} (h : r.Apart text s) :
    let report := (Engine.mk (A ++ [r, s] ++ B)).transform text
    let other := (Engine.mk (A ++ [s, r] ++ B)).transform text
    other.1.output = report.1.output ∧
      other.1.claims = report.1.claims.map (·.renumber (exchange A.length)) ∧
      other.1.skipped ~ report.1.skipped.map (·.renumber (exchange A.length)) ∧
      ∃ A' r' s' B', A'.length = A.length ∧ report.2.rules = A' ++ [r', s'] ++ B' ∧
        other.2.rules = A' ++ [s', r'] ++ B' := by
  intro report other
  by_cases ht : text = ""
  · subst ht
    exact ⟨rfl, rfl, .nil, A, r, s, B, rfl, rfl, rfl⟩
  have hon : (claimAll text 0 .empty A).1.On text.toList := claimAll_on (.empty _)
  obtain ⟨claims, skippedR, skippedS, skipped, r', s', B', hrun, hrun'⟩ :=
    claimAll_exchange h hon (fun c hc => rule_lt_of_mem_claimAll hc) B
  -- the two numbers do not occur before the two rules
  have hsmaller : ∀ l : List Skipped, ((claimAll text 0 .empty A).2.1 ++ l).map
      (·.renumber (exchange A.length)) =
      (claimAll text 0 .empty A).2.1 ++ l.map (·.renumber (exchange A.length)) := fun l => by
    rw [List.map_append, Skipped.map_renumber_eq_self fun s hs => exchange_of_lt (by
      have := (mem_claimAll_skipped hs).2
      omega)]
  have hlist : ∀ x y : Rule, A ++ [x, y] ++ B = A ++ x :: y :: B := fun x y => by simp
  simp only [report, other, transform_of_ne ht, hlist, claimAll_append, Nat.zero_add, hrun, hrun',
    ClaimMap.toList_renumber, splice_renumber]
  refine ⟨trivial, trivial, ?_, (claimAll text 0 .empty A).2.2, r', s', B', length_claimAll,
    by simp, by simp⟩
  have hperm : skippedS ++ (skippedR ++ skipped) ~ skippedR ++ (skippedS ++ skipped) := by
    rw [← List.append_assoc, ← List.append_assoc]
    exact List.perm_append_comm.append_right _
  rw [hsmaller]
  exact (hperm.map _).append_left _

/-- A rule for one letter whose callback fails at its second call. -/
def failsAtSecond : Rule :=
  { pattern := some (.source "b")
    replacement := .computed (fun earlier _ => if earlier.length = 1 then .error "no" else .ok "B")
      [] }

/-- A rule for another letter. -/
def otherLetter : Rule :=
  { pattern := some (.source "a"), replacement := .template "A" }

theorem transform_exchange_letters :
    failsAtSecond.Apart "abab" otherLetter ∧
      ((Engine.mk [failsAtSecond, otherLetter]).transform "abab").1.skipped.map (·.rule) = [0] ∧
      ((Engine.mk [otherLetter, failsAtSecond]).transform "abab").1.output =
        ((Engine.mk [failsAtSecond, otherLetter]).transform "abab").1.output ∧
      ((Engine.mk [otherLetter, failsAtSecond]).transform "abab").1.skipped.map (·.rule) = [1] := by
  have hfound : failsAtSecond.found "abab" = [⟨⟨1, 2, "b"⟩, []⟩, ⟨⟨3, 4, "b"⟩, []⟩] := by
    decide +kernel
  have hother : otherLetter.found "abab" = [⟨⟨0, 1, "a"⟩, []⟩, ⟨⟨2, 3, "a"⟩, []⟩] := by
    decide +kernel
  have h : failsAtSecond.Apart "abab" otherLetter := by
    intro m hm k hk p hmp hkp
    rw [hfound] at hm
    rw [hother] at hk
    simp only [List.mem_cons, List.not_mem_nil, or_false] at hm hk
    rcases hm with rfl | rfl <;> rcases hk with rfl | rfl <;>
      simp only [Regex.Match.Covers] at hmp hkp <;> omega
  have hexchange := transform_exchange [] [] h
  refine ⟨h, by decide +kernel, hexchange.1, by decide +kernel⟩

end Engine

end FirstClaim
