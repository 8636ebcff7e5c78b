import FirstClaim.Proofs.ClaimMap

/-!
# Claims of any kind

The claims of a rule fit into the map (`ClaimMap.Fits`), but a map does not rely on that. Whatever
is committed, also empty claims, the same claim twice and claims that meet each other, in any order:

* `insert_cases`: a claim goes in if it is not empty and free, and otherwise nothing changes.
* `Valid.insert_of_le`, `Valid.commit_of_le`: so the claims of a map stay in order and disjoint.
* `sublist_commit`: claims that are in a map stay there, as they are and in the same order.
* `commits_eq`, `commits_append`: only the order of the claims counts, not how they are divided.

The main statement is `commits_isFree_iff`: after every commit the claims are in order, by their
starts as well as by their ends, and a span is free just when none of its positions is covered.
-/

set_option autoImplicit false

namespace FirstClaim

theorem Claim.Before.not_covers {a b : Claim} (h : a.Before b) {p : Nat} (ha : a.Covers p) :
    ¬ b.Covers p :=
  fun hb => Nat.not_le.2 ha.2 (Nat.le_trans h hb.1)

namespace ClaimMap

/-- The map after claims have been committed in batches, beginning with no claims. -/
def commits (batches : List (List Claim)) : ClaimMap :=
  batches.foldl commit empty

variable {m : ClaimMap} {c : Claim}

/-! ## One more claim -/

/-- **All that can come of a claim**: it is not empty and free, so that it goes in, or else nothing
changes. -/
theorem insert_cases (h : m.Valid) (hc : c.start ≤ c.stop) :
    (c.start < c.stop ∧ (∀ d ∈ m.toList, d.Misses c.start c.stop) ∧
        m.insert c = ⟨insertSorted c m.toList⟩) ∨
      ((c.isEmpty = true ∨ ∃ d ∈ m.toList, ¬ d.Misses c.start c.stop) ∧ m.insert c = m) := by
  rcases Nat.lt_or_eq_of_le hc with hlt | heq
  · by_cases hfree : ∀ d ∈ m.toList, d.Misses c.start c.stop
    · exact .inl ⟨hlt, hfree, insert_of_free h hlt hfree⟩
    · have hmet : m.isFree c.start c.stop = false :=
        Bool.eq_false_iff.2 (mt (isFree_iff h).1 hfree)
      refine .inr ⟨.inr (by simpa using hfree), ?_⟩
      rw [insert, hmet]
      simp
  · have hempty : c.isEmpty = true := by simp [Claim.isEmpty, heq]
    refine .inr ⟨.inl hempty, ?_⟩
    rw [insert, hempty]
    simp

theorem Valid.insert_of_le (h : m.Valid) (hc : c.start ≤ c.stop) : (m.insert c).Valid := by
  rcases insert_cases h hc with ⟨hlt, hfree, -⟩ | ⟨-, hsame⟩
  · exact h.insert hlt hfree
  · rwa [hsame]

theorem sublist_insertSorted (c : Claim) (l : List Claim) : l.Sublist (insertSorted c l) := by
  induction l with
  | nil => exact List.nil_sublist _
  | cons d ds ih =>
    unfold insertSorted
    split
    · exact ih.cons_cons d
    · exact List.sublist_cons_self c (d :: ds)

theorem sublist_insert (m : ClaimMap) (c : Claim) : m.toList.Sublist (m.insert c).toList := by
  unfold insert
  split
  · exact List.Sublist.refl _
  · exact sublist_insertSorted c m.toList

/-! ## Many claims -/

theorem Valid.commit_of_le : ∀ {cs : List Claim} {m : ClaimMap}, m.Valid →
    (∀ c ∈ cs, c.start ≤ c.stop) → (m.commit cs).Valid
  | [], _, h, _ => h
  | c :: _, _, h, hcs =>
    (h.insert_of_le (hcs c (.head _))).commit_of_le fun d hd => hcs d (.tail _ hd)

/-- **No claim is driven out or changed by those behind it.** -/
theorem sublist_commit : ∀ (cs : List Claim) (m : ClaimMap),
    m.toList.Sublist (m.commit cs).toList
  | [], _ => List.Sublist.refl _
  | c :: cs, m => (sublist_insert m c).trans (sublist_commit cs (m.insert c))

/-- **The batches that claims come in do not matter.** -/
theorem commits_eq (batches : List (List Claim)) :
    commits batches = empty.commit batches.flatten :=
  List.foldl_flatten.symm

theorem commits_append (front back : List (List Claim)) :
    commits (front ++ back) = (commits front).commit back.flatten := by
  rw [commits_eq, commits_eq, List.flatten_append, commit_append]

theorem le_of_mem_flatten {batches : List (List Claim)}
    (h : ∀ batch ∈ batches, ∀ c ∈ batch, c.start ≤ c.stop) :
    ∀ c ∈ batches.flatten, c.start ≤ c.stop := by
  intro c hc
  obtain ⟨batch, hbatch, hc⟩ := List.mem_flatten.1 hc
  exact h batch hbatch c hc

theorem Valid.commits {batches : List (List Claim)}
    (h : ∀ batch ∈ batches, ∀ c ∈ batch, c.start ≤ c.stop) : (commits batches).Valid := by
  rw [commits_eq]
  exact Valid.empty.commit_of_le (le_of_mem_flatten h)

/-! ## Order and look-up -/

theorem Valid.sorted_start (h : m.Valid) : m.toList.Pairwise fun c d => c.start < d.start :=
  h.apart.imp_of_mem fun {c _} hc _ hcd => Nat.lt_of_lt_of_le (h.nonempty c hc) hcd

theorem Valid.nodup (h : m.Valid) : m.toList.Nodup :=
  h.sorted_start.imp fun {c d} (hlt : c.start < d.start) (heq : c = d) =>
    absurd (congrArg Claim.start heq) (Nat.ne_of_lt hlt)

theorem Valid.sorted_stop (h : m.Valid) : m.toList.Pairwise fun c d => c.stop < d.stop :=
  h.apart.imp_of_mem fun {_ d} _ hd hcd => Nat.lt_of_le_of_lt hcd (h.nonempty d hd)

/-- **A look-up is exact**: a span is free just when no claim covers one of its positions. -/
theorem Valid.isFree_iff_uncovered (h : m.Valid) {start stop : Nat} (hlt : start < stop) :
    m.isFree start stop = true ↔
      ∀ c ∈ m.toList, ∀ p, start ≤ p → p < stop → ¬ c.Covers p := by
  rw [isFree_iff h]
  exact forall₂_congr fun c hc => Claim.misses_iff (h.nonempty c hc) hlt

/-- **After every commit the claims are in order and look-ups are exact.** The claims are sorted by
their starts and by their ends, so that a claim is looked up by its end and put in by its start in
the same list; they are disjoint, and none is empty. -/
theorem commits_isFree_iff (batches : List (List Claim))
    (h : ∀ batch ∈ batches, ∀ c ∈ batch, c.start ≤ c.stop) (n : Nat) :
    let m := commits (batches.take n)
    m.toList.Pairwise (fun c d => c.start < d.start) ∧
      m.toList.Pairwise (fun c d => c.stop < d.stop) ∧
      m.toList.Pairwise (fun c d => c.Before d ∧ ∀ p, c.Covers p → ¬ d.Covers p) ∧
      (∀ c ∈ m.toList, c.isEmpty = false ∧ c.start < c.stop) ∧
      ∀ start stop, start < stop →
        (m.isFree start stop = true ↔
          ∀ c ∈ m.toList, ∀ p, start ≤ p → p < stop → ¬ c.Covers p) := by
  intro m
  have hvalid : m.Valid := Valid.commits fun batch hbatch => h batch (List.mem_of_mem_take hbatch)
  refine ⟨hvalid.sorted_start, hvalid.sorted_stop,
    hvalid.apart.imp fun hcd => ⟨hcd, fun _ => hcd.not_covers⟩, fun c hc => ?_,
    fun start stop => hvalid.isFree_iff_uncovered⟩
  have hlt := hvalid.nonempty c hc
  exact ⟨Claim.isEmpty_eq_false hlt, hlt⟩

/-- Claims that come in three batches: some meet others, one is empty, and one comes again. -/
def crowd : List (List Claim) :=
  [[⟨0, "gh", "G", 6, 8⟩], [⟨1, "ab", "A", 0, 2⟩, ⟨1, "hi", "H", 7, 9⟩, ⟨1, "", "-", 3, 3⟩],
    [⟨0, "gh", "G", 6, 8⟩, ⟨2, "cdef", "", 2, 6⟩, ⟨2, "bcdefghi", "B", 1, 9⟩]]

theorem commits_isFree_iff_crowd :
    (∀ batch ∈ crowd, ∀ c ∈ batch, c.start ≤ c.stop) ∧
      (commits (crowd.take 2)).toList = [⟨1, "ab", "A", 0, 2⟩, ⟨0, "gh", "G", 6, 8⟩] ∧
      (commits (crowd.take 2)).toList.Pairwise (fun c d => c.start < d.start) ∧
      (∀ c ∈ (commits (crowd.take 2)).toList, ∀ p, 2 ≤ p → p < 6 → ¬ c.Covers p) ∧
      ¬ ∀ c ∈ (commits (crowd.take 2)).toList, ∀ p, 1 ≤ p → p < 3 → ¬ c.Covers p := by
  have hcrowd : ∀ batch ∈ crowd, ∀ c ∈ batch, c.start ≤ c.stop := by decide
  obtain ⟨hsorted, -, -, -, hfree⟩ := commits_isFree_iff crowd hcrowd 2
  exact ⟨hcrowd, by decide, hsorted, (hfree 2 6 (by decide)).1 (by decide),
    mt (hfree 1 3 (by decide)).2 (by decide)⟩

end ClaimMap

end FirstClaim
