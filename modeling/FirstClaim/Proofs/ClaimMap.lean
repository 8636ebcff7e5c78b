import FirstClaim.ClaimMap

/-!
# The order of claims in a map

`ClaimMap.Valid`: the claims of a map are not empty and each one ends before the next one begins.

* `isFree_iff`: on a valid map the search for the first claim that ends behind a place answers
  whether any claim at all reaches into a span.
* `insertSorted_gap`: a claim that meets no other one goes into a gap between those before and those
  behind it. `Valid.insert` and `insert_perm` follow.
* `Valid.commit`, `commit_perm`: claims that meet neither each other nor a claim of the map are all
  taken over and nothing else changes.
* `filter_commit`: claims of one kind do not disturb the claims of another.
* `Valid.mergeSort_eq`: the claims of a map are in the order of their starts.
-/

set_option autoImplicit false

namespace FirstClaim

open scoped List

theorem eq_of_apart {α : Type} {start stop : α → Nat} {l : List α}
    (h : l.Pairwise fun a b => stop a ≤ start b) {a b : α} (ha : a ∈ l) (hb : b ∈ l) {p : Nat}
    (hap : start a ≤ p ∧ p < stop a) (hbp : start b ≤ p ∧ p < stop b) : a = b := by
  refine List.Pairwise.forall_of_forall_of_flip
    (R := fun a b => start a ≤ p ∧ p < stop a → start b ≤ p ∧ p < stop b → a = b)
    (fun _ _ _ _ => rfl) (h.imp fun hab ha hb => ?_) (h.imp fun hab hb ha => ?_) ha hb hap hbp
  · omega
  · omega

namespace Claim

/-- `a` ends before `b` begins. -/
def Before (a b : Claim) : Prop :=
  a.stop ≤ b.start

/-- The claim does not reach into the span from `start` to `stop`. -/
def Misses (c : Claim) (start stop : Nat) : Prop :=
  c.stop ≤ start ∨ stop ≤ c.start

theorem Before.misses {a b : Claim} (h : a.Before b) : a.Misses b.start b.stop :=
  .inl h

instance (c : Claim) (start stop : Nat) : Decidable (c.Misses start stop) :=
  inferInstanceAs (Decidable (_ ∨ _))

theorem misses_iff {c : Claim} (hc : c.start < c.stop) {start stop : Nat} (h : start < stop) :
    c.Misses start stop ↔ ∀ p, start ≤ p → p < stop → ¬ c.Covers p := by
  constructor
  · rintro (hbefore | hbehind) p hp hp' ⟨hlow, hhigh⟩ <;> omega
  · intro hnone
    rcases Nat.lt_or_ge start c.stop with hlow | hbefore
    · rcases Nat.lt_or_ge c.start stop with hhigh | hbehind
      · -- the first position that both reach
        exact absurd ⟨by omega, by omega⟩ (hnone (max start c.start) (by omega) (by omega))
      · exact .inr hbehind
    · exact .inl hbefore

theorem isEmpty_eq_false {c : Claim} (h : c.start < c.stop) : c.isEmpty = false := by
  simp [isEmpty]
  omega

theorem lt_of_not_isEmpty {c : Claim} (h : ¬ c.isEmpty) (hle : c.start ≤ c.stop) :
    c.start < c.stop :=
  Nat.lt_of_le_of_ne hle (by simpa [isEmpty] using h)

end Claim

namespace ClaimMap

/-- The claims are not empty, in order and disjoint. -/
structure Valid (m : ClaimMap) : Prop where
  nonempty : ∀ c ∈ m.toList, c.start < c.stop
  apart : m.toList.Pairwise Claim.Before

theorem Valid.empty : Valid .empty :=
  ⟨by simp [ClaimMap.empty], .nil⟩

theorem Valid.eq_of_start_eq {m : ClaimMap} (h : m.Valid) {c d : Claim} (hc : c ∈ m.toList)
    (hd : d ∈ m.toList) (heq : c.start = d.start) : c = d :=
  eq_of_apart h.apart hc hd ⟨Nat.le_refl _, h.nonempty c hc⟩
    ⟨Nat.le_of_eq heq.symm, heq ▸ h.nonempty d hd⟩

/-- Claims in order that are the same in some order are the same in this one. -/
theorem Valid.eq_of_perm {m n : ClaimMap} (hm : m.Valid) (hn : n.Valid)
    (h : m.toList ~ n.toList) : m = n := by
  have hsorted : ∀ {k : ClaimMap}, k.Valid → k.toList.Pairwise fun c d => c.start ≤ d.start :=
    fun hk => hk.apart.imp_of_mem fun hc _ hcd =>
      Nat.le_trans (Nat.le_of_lt (hk.nonempty _ hc)) hcd
  have hlist : m.toList = n.toList :=
    List.Perm.eq_of_pairwise (fun c d hc hd hcd hdc =>
      hm.eq_of_start_eq hc (h.mem_iff.2 hd) (Nat.le_antisymm hcd hdc)) (hsorted hm) (hsorted hn) h
  cases m
  cases n
  exact congrArg ClaimMap.mk hlist

theorem Valid.mergeSort_eq {m : ClaimMap} (hv : m.Valid) {claims : List Claim}
    (h : m.toList ~ claims) : claims.mergeSort (·.start ≤ ·.start) = m.toList := by
  have hperm : claims.mergeSort (·.start ≤ ·.start) ~ m.toList :=
    (List.mergeSort_perm _ _).trans h.symm
  have hsorted : (claims.mergeSort (·.start ≤ ·.start)).Pairwise fun a b : Claim =>
      decide (a.start ≤ b.start) = true := by
    refine List.pairwise_mergeSort (fun a b c hab hbc => ?_) (fun a b => ?_) claims
    · simp only [decide_eq_true_eq] at *
      omega
    · simp
      omega
  refine List.Perm.eq_of_pairwise (fun a b ha hb hab hba => ?_) hsorted
    (hv.apart.imp_of_mem fun {a b} ha _ hab => ?_) hperm
  · rw [decide_eq_true_eq] at hab hba
    exact hv.eq_of_start_eq (hperm.mem_iff.1 ha) hb (Nat.le_antisymm hab hba)
  · have := hv.nonempty a ha
    have : a.stop ≤ b.start := hab
    simp
    omega

/-! ## Free spans -/

theorem dropWhile_isFree_iff {start stop : Nat} : ∀ {l : List Claim},
    (∀ c ∈ l, c.start < c.stop) → l.Pairwise Claim.Before →
    ((match l.dropWhile (·.stop ≤ start) with
      | [] => true
      | next :: _ => decide (stop ≤ next.start)) = true ↔ ∀ c ∈ l, c.Misses start stop)
  | [], _, _ => by simp
  | d :: ds, hne, hp => by
    obtain ⟨hd, hds⟩ := List.pairwise_cons.1 hp
    by_cases hstop : d.stop ≤ start
    · rw [List.dropWhile_cons_of_pos (by simpa using hstop),
        dropWhile_isFree_iff (fun c hc => hne c (.tail _ hc)) hds]
      simp [Claim.Misses, hstop]
    · rw [List.dropWhile_cons_of_neg (by simpa using hstop)]
      simp only [decide_eq_true_eq, List.mem_cons, forall_eq_or_imp]
      constructor
      · intro hle
        -- what stands behind `d` begins even later
        refine ⟨.inr hle, fun c hc => .inr ?_⟩
        have h1 : d.stop ≤ c.start := hd c hc
        have h2 := hne d (.head _)
        omega
      · rintro ⟨h | h, -⟩
        · exact absurd h hstop
        · exact h

/-- **A span is free when no claim of the map reaches into it.** -/
theorem isFree_iff {m : ClaimMap} (h : m.Valid) {start stop : Nat} :
    m.isFree start stop = true ↔ ∀ c ∈ m.toList, c.Misses start stop :=
  dropWhile_isFree_iff h.nonempty h.apart

/-! ## One more claim -/

/-- A claim that meets no other one goes into the gap between those before and those behind it. -/
theorem insertSorted_gap {c : Claim} (hc : c.start < c.stop) : ∀ {l : List Claim},
    (∀ d ∈ l, d.start < d.stop) → l.Pairwise Claim.Before →
    (∀ d ∈ l, d.Misses c.start c.stop) →
    ∃ before after, l = before ++ after ∧ insertSorted c l = before ++ c :: after ∧
      (∀ d ∈ before, d.Before c) ∧ ∀ d ∈ after, c.Before d
  | [], _, _, _ => ⟨[], [], rfl, rfl, by simp, by simp⟩
  | d :: ds, hne, hp, hfree => by
    obtain ⟨hd, hds⟩ := List.pairwise_cons.1 hp
    have hdne := hne d (.head _)
    unfold insertSorted
    split
    · rename_i hlt
      have hdc : d.Before c := by
        rcases hfree d (.head _) with h | h
        · exact h
        · omega
      obtain ⟨before, after, rfl, hins, hbefore, hafter⟩ := insertSorted_gap hc
        (fun e he => hne e (.tail _ he)) hds (fun e he => hfree e (.tail _ he))
      exact ⟨d :: before, after, rfl, by rw [hins]; rfl, by simpa [hdc] using hbefore, hafter⟩
    · rename_i hge
      have hcd : c.stop ≤ d.start := by
        rcases hfree d (.head _) with h | h
        · omega
        · exact h
      refine ⟨[], d :: ds, rfl, rfl, by simp, fun e he => ?_⟩
      rcases List.mem_cons.1 he with rfl | he
      · exact hcd
      · have : d.stop ≤ e.start := hd e he
        show c.stop ≤ e.start
        omega

theorem insert_of_free {m : ClaimMap} (h : m.Valid) {c : Claim} (hc : c.start < c.stop)
    (hfree : ∀ d ∈ m.toList, d.Misses c.start c.stop) :
    m.insert c = ⟨insertSorted c m.toList⟩ := by
  rw [insert, Claim.isEmpty_eq_false hc, (isFree_iff h).2 hfree]
  rfl

theorem insert_perm {m : ClaimMap} (h : m.Valid) {c : Claim} (hc : c.start < c.stop)
    (hfree : ∀ d ∈ m.toList, d.Misses c.start c.stop) :
    (m.insert c).toList ~ c :: m.toList := by
  rw [insert_of_free h hc hfree]
  obtain ⟨before, after, hl, hins, -⟩ := insertSorted_gap hc h.nonempty h.apart hfree
  rw [hins, hl]
  exact List.perm_middle

theorem Valid.insert {m : ClaimMap} (h : m.Valid) {c : Claim} (hc : c.start < c.stop)
    (hfree : ∀ d ∈ m.toList, d.Misses c.start c.stop) : (m.insert c).Valid where
  nonempty d hd := by
    rcases List.mem_cons.1 ((insert_perm h hc hfree).mem_iff.1 hd) with rfl | hd
    · exact hc
    · exact h.nonempty d hd
  apart := by
    rw [insert_of_free h hc hfree]
    obtain ⟨before, after, hl, hins, hbefore, hafter⟩ :=
      insertSorted_gap hc h.nonempty h.apart hfree
    have hp := h.apart
    rw [hl] at hp
    obtain ⟨hb, ha, hba⟩ := List.pairwise_append.1 hp
    rw [hins]
    refine List.pairwise_append.2 ⟨hb, List.pairwise_cons.2 ⟨hafter, ha⟩, fun x hx y hy => ?_⟩
    rcases List.mem_cons.1 hy with rfl | hy
    · exact hbefore x hx
    · exact hba x hx y hy

/-! ## The claims of a rule -/

@[simp]
theorem commit_nil (m : ClaimMap) : m.commit [] = m := rfl

@[simp]
theorem commit_cons (m : ClaimMap) (c : Claim) (cs : List Claim) :
    m.commit (c :: cs) = (m.insert c).commit cs := rfl

theorem commit_append (m : ClaimMap) (cs ds : List Claim) :
    m.commit (cs ++ ds) = (m.commit cs).commit ds :=
  List.foldl_append

/-- Claims that may all be taken over by a map: none is empty, and none meets another one or a claim
of the map. -/
structure Fits (m : ClaimMap) (cs : List Claim) : Prop where
  nonempty : ∀ c ∈ cs, c.start < c.stop
  apart : cs.Pairwise fun c d => c.Misses d.start d.stop
  free : ∀ c ∈ cs, ∀ d ∈ m.toList, d.Misses c.start c.stop

theorem Fits.tail {m : ClaimMap} (h : m.Valid) {c : Claim} {cs : List Claim}
    (hf : m.Fits (c :: cs)) : (m.insert c).Fits cs := by
  obtain ⟨hc, hcs⟩ := List.pairwise_cons.1 hf.apart
  refine ⟨fun d hd => hf.nonempty d (.tail _ hd), hcs, fun d hd e he => ?_⟩
  have hperm := insert_perm h (hf.nonempty c (.head _)) (hf.free c (.head _))
  rcases List.mem_cons.1 (hperm.mem_iff.1 he) with rfl | he
  · exact hc d hd
  · exact hf.free d (.tail _ hd) e he

theorem Valid.commit : ∀ {cs : List Claim} {m : ClaimMap}, m.Valid → m.Fits cs →
    (m.commit cs).Valid
  | [], _, h, _ => h
  | c :: _, _, h, hf =>
    (h.insert (hf.nonempty c (.head _)) (hf.free c (.head _))).commit (hf.tail h)

/-- **Claims that fit are all taken over**, and those made before all stay. -/
theorem commit_perm : ∀ {cs : List Claim} {m : ClaimMap}, m.Valid → m.Fits cs →
    (m.commit cs).toList ~ m.toList ++ cs
  | [], m, _, _ => by simp
  | c :: cs, m, h, hf => by
    have hc := hf.nonempty c (.head _)
    have hfree := hf.free c (.head _)
    calc ((m.insert c).commit cs).toList
      _ ~ (m.insert c).toList ++ cs := commit_perm (h.insert hc hfree) (hf.tail h)
      _ ~ c :: m.toList ++ cs := (insert_perm h hc hfree).append_right cs
      _ ~ m.toList ++ c :: cs := List.perm_middle.symm

theorem mem_commit {m : ClaimMap} (h : m.Valid) {cs : List Claim} (hf : m.Fits cs) {c : Claim} :
    c ∈ (m.commit cs).toList ↔ c ∈ m.toList ∨ c ∈ cs := by
  rw [(commit_perm h hf).mem_iff, List.mem_append]

/-! ## Claims of another kind -/

theorem filter_insertSorted {p : Claim → Bool} {c : Claim} (hc : p c = false) (l : List Claim) :
    (insertSorted c l).filter p = l.filter p := by
  induction l with
  | nil => simp [insertSorted, hc]
  | cons d ds ih =>
    unfold insertSorted
    split
    · rw [List.filter_cons, List.filter_cons, ih]
    · rw [List.filter_cons_of_neg (by simp [hc])]

theorem filter_commit {p : Claim → Bool} : ∀ {cs : List Claim} (m : ClaimMap),
    (∀ c ∈ cs, p c = false) → (m.commit cs).toList.filter p = m.toList.filter p
  | [], _, _ => rfl
  | c :: cs, m, hcs => by
    rw [commit_cons, filter_commit _ fun d hd => hcs d (.tail _ hd), insert]
    split
    · rfl
    · exact filter_insertSorted (hcs c (.head _)) m.toList

end ClaimMap

end FirstClaim
