import FirstClaim.Proofs.ClaimMap.Commits

/-!
# First come, first served

What a map holds in the end can be told from the claims alone, in the order in which they came: a
claim is kept if it is not empty and shares no position with one kept before it (`firstCome`).

* `Claim.misses_iff_not_meets`: a claim misses the span of another one if they share no position.
* `insert_perm_keep`: a map and a selection that hold the same claims keep the same claim.
* `commit_perm_keep`: and so they hold the same after any number of claims.

The main statement is `commits_firstCome`: a map holds the selection, sorted by the starts.
-/

set_option autoImplicit false

namespace FirstClaim

open scoped List

/-! ## Shared positions -/

namespace Claim

variable {c d : Claim}

/-- Some position is covered by both claims. -/
def Meets (c d : Claim) : Prop :=
  ∃ p, c.Covers p ∧ d.Covers p

theorem Meets.symm (h : c.Meets d) : d.Meets c :=
  h.imp fun _ hp => hp.symm

theorem meets_iff : c.Meets d ↔ max c.start d.start < min c.stop d.stop := by
  constructor
  · rintro ⟨p, ⟨hcp, hpc⟩, hdp, hpd⟩
    omega
  · intro hlt
    -- the later start is the first position that both cover
    exact ⟨max c.start d.start, ⟨by omega, by omega⟩, by omega, by omega⟩

instance (c d : Claim) : Decidable (c.Meets d) :=
  decidable_of_iff _ meets_iff.symm

theorem misses_iff_not_meets (hc : c.start < c.stop) (hd : d.start < d.stop) :
    d.Misses c.start c.stop ↔ ¬ c.Meets d := by
  rw [misses_iff hd hc, Meets, not_exists]
  exact forall_congr' fun p => ⟨fun h hboth => h hboth.1.1 hboth.1.2 hboth.2,
    fun h hp hp' hcovers => h ⟨⟨hp, hp'⟩, hcovers⟩⟩

end Claim

namespace ClaimMap

/-! ## The selection -/

/-- Keeps a claim behind the others, unless it is empty or shares a position with one of them. -/
def keep (kept : List Claim) (c : Claim) : List Claim :=
  if c.isEmpty = true ∨ ∃ d ∈ kept, c.Meets d then kept else kept ++ [c]

/-- The claims that are kept of all that came, in the order in which they came. -/
def firstCome (history : List Claim) : List Claim :=
  history.foldl keep []

theorem sublist_keep (kept : List Claim) (c : Claim) : (keep kept c).Sublist (kept ++ [c]) := by
  unfold keep
  split
  · exact List.sublist_append_left kept [c]
  · exact List.Sublist.refl _

theorem sublist_foldl_keep : ∀ (history kept : List Claim),
    (history.foldl keep kept).Sublist (kept ++ history)
  | [], kept => by simp
  | c :: history, kept => by
    rw [List.foldl_cons]
    have htail := sublist_foldl_keep history (keep kept c)
    have hhead := (sublist_keep kept c).append_right history
    rw [List.append_assoc, List.singleton_append] at hhead
    exact htail.trans hhead

variable {m : ClaimMap} {kept : List Claim} {c : Claim}

/-- **A map and a selection that hold the same claims keep the same claim.** -/
theorem insert_perm_keep (h : m.Valid) (hkept : m.toList ~ kept) (hc : c.start ≤ c.stop) :
    (m.insert c).toList ~ keep kept c := by
  rcases insert_cases h hc with ⟨hlt, hfree, -⟩ | ⟨hrefused, hsame⟩
  · have hkeep : ¬ (c.isEmpty = true ∨ ∃ d ∈ kept, c.Meets d) := by
      rw [Claim.isEmpty_eq_false hlt]
      rintro (hempty | ⟨d, hd, hmeets⟩)
      · cases hempty
      · have hd := hkept.mem_iff.2 hd
        exact (Claim.misses_iff_not_meets hlt (h.nonempty d hd)).1 (hfree d hd) hmeets
    rw [keep, if_neg hkeep]
    calc (m.insert c).toList
      _ ~ c :: m.toList := insert_perm h hlt hfree
      _ ~ c :: kept := hkept.cons c
      _ ~ kept ++ [c] := (List.perm_append_singleton c kept).symm
  · have hkeep : c.isEmpty = true ∨ ∃ d ∈ kept, c.Meets d := by
      by_cases hempty : c.isEmpty = true
      · exact .inl hempty
      · obtain ⟨d, hd, hmet⟩ := hrefused.resolve_left hempty
        have hlt := Claim.lt_of_not_isEmpty hempty hc
        rw [Claim.misses_iff_not_meets hlt (h.nonempty d hd), Decidable.not_not] at hmet
        exact .inr ⟨d, hkept.mem_iff.1 hd, hmet⟩
    rwa [keep, if_pos hkeep, hsame]

/-- **A map and a selection that hold the same claims do so after any claims.** -/
theorem commit_perm_keep : ∀ {cs : List Claim} {m : ClaimMap} {kept : List Claim}, m.Valid →
    m.toList ~ kept → (∀ c ∈ cs, c.start ≤ c.stop) →
    (m.commit cs).toList ~ cs.foldl keep kept
  | [], _, _, _, hkept, _ => hkept
  | c :: cs, m, kept, h, hkept, hcs => by
    have hc := hcs c (.head _)
    -- the map after the first claim is valid again and holds what is kept up to there
    rw [commit_cons, List.foldl_cons]
    exact commit_perm_keep (h.insert_of_le hc) (insert_perm_keep h hkept hc)
      fun d hd => hcs d (.tail _ hd)

/-! ## Claims that do not meet -/

theorem fits_empty {cs : List Claim} (hcs : ∀ c ∈ cs, c.start < c.stop)
    (h : cs.Pairwise fun c d => ¬ c.Meets d) : empty.Fits cs where
  nonempty := hcs
  apart := h.imp_of_mem fun {c d} hc hd hnot => by
    rw [Claim.misses_iff_not_meets (hcs d hd) (hcs c hc)]
    exact mt Claim.Meets.symm hnot
  free := fun _ _ _ hd => (List.not_mem_nil hd).elim

/-- **Claims that do not meet may come in any order.** -/
theorem commit_eq_of_perm {cs ds : List Claim} (hcs : ∀ c ∈ cs, c.start < c.stop)
    (h : cs.Pairwise fun c d => ¬ c.Meets d) (hperm : ds ~ cs) :
    empty.commit ds = empty.commit cs := by
  have hds : ∀ d ∈ ds, d.start < d.stop := fun d hd => hcs d (hperm.mem_iff.1 hd)
  have hfits := fits_empty hcs h
  have hfits' := fits_empty hds ((hperm.pairwise_iff (mt Claim.Meets.symm)).2 h)
  refine (Valid.empty.commit hfits').eq_of_perm (Valid.empty.commit hfits) ?_
  calc (empty.commit ds).toList
    _ ~ ds := commit_perm Valid.empty hfits'
    _ ~ cs := hperm
    _ ~ (empty.commit cs).toList := (commit_perm Valid.empty hfits).symm

/-! ## All that came -/

/-- **A map holds the first come of all claims, sorted by their starts.** What is kept at some time
stays as it is, and nothing is kept twice; the batches do not matter, and for claims that are not
empty and do not meet the order does not matter either. -/
theorem commits_firstCome (batches : List (List Claim))
    (h : ∀ batch ∈ batches, ∀ c ∈ batch, c.start ≤ c.stop) :
    (commits batches).toList = (firstCome batches.flatten).mergeSort (·.start ≤ ·.start) ∧
      (firstCome batches.flatten).Sublist batches.flatten ∧
      (∀ n, (commits (batches.take n)).toList.Sublist (commits batches).toList) ∧
      (commits batches).toList.Nodup ∧
      (∀ others, others.flatten = batches.flatten → commits others = commits batches) ∧
      (∀ (m : ClaimMap) (p q : List Claim), (m.commit p).commit q = m.commit (p ++ q)) ∧
      ((∀ c ∈ batches.flatten, c.isEmpty = false) →
        batches.flatten.Pairwise (fun c d => ¬ c.Meets d) →
        ∀ others, others.flatten ~ batches.flatten → commits others = commits batches) := by
  have hall := le_of_mem_flatten h
  have hvalid : (commits batches).Valid := .commits h
  have hperm : (commits batches).toList ~ firstCome batches.flatten := by
    rw [commits_eq]
    exact commit_perm_keep Valid.empty (.refl _) hall
  refine ⟨(hvalid.mergeSort_eq hperm).symm, sublist_foldl_keep batches.flatten [], fun n => ?_,
    hvalid.nodup, fun others hsame => ?_, fun m p q => (commit_append m p q).symm,
    fun hne hapart others hothers => ?_⟩
  -- what came up to `n` is committed first, and later claims drive none of it out
  · rw [← List.take_append_drop n batches, commits_append]
    simpa using sublist_commit _ _
  · rw [commits_eq, commits_eq, hsame]
  · rw [commits_eq, commits_eq]
    refine commit_eq_of_perm (fun c hc => ?_) hapart hothers
    exact Claim.lt_of_not_isEmpty (Bool.eq_false_iff.1 (hne c hc)) (hall c hc)

/-- Claims that touch each other, in two batches. -/
def row : List (List Claim) :=
  [[⟨0, "gh", "G", 6, 8⟩, ⟨1, "ab", "A", 0, 2⟩], [⟨2, "cdef", "", 2, 6⟩]]

/-- The same claims, backwards and one by one. -/
def rowBack : List (List Claim) :=
  [[⟨2, "cdef", "", 2, 6⟩], [⟨1, "ab", "A", 0, 2⟩], [], [⟨0, "gh", "G", 6, 8⟩]]

theorem commits_firstCome_crowd :
    (∀ batch ∈ crowd, ∀ c ∈ batch, c.start ≤ c.stop) ∧
      firstCome crowd.flatten =
        [⟨0, "gh", "G", 6, 8⟩, ⟨1, "ab", "A", 0, 2⟩, ⟨2, "cdef", "", 2, 6⟩] ∧
      (commits crowd).toList = (firstCome crowd.flatten).mergeSort (·.start ≤ ·.start) ∧
      (commits crowd).toList =
        [⟨1, "ab", "A", 0, 2⟩, ⟨2, "cdef", "", 2, 6⟩, ⟨0, "gh", "G", 6, 8⟩] ∧
      (row.flatten.Pairwise (fun c d => ¬ c.Meets d) ∧ rowBack.flatten ~ row.flatten) ∧
      commits rowBack = commits row := by
  have hcrowd : ∀ batch ∈ crowd, ∀ c ∈ batch, c.start ≤ c.stop := by decide
  have hrow : ∀ batch ∈ row, ∀ c ∈ batch, c.start ≤ c.stop := by decide
  have hapart : row.flatten.Pairwise fun c d => ¬ c.Meets d := by decide
  have hback : rowBack.flatten ~ row.flatten := by decide
  obtain ⟨hsorted, -⟩ := commits_firstCome crowd hcrowd
  obtain ⟨-, -, -, -, -, -, hany⟩ := commits_firstCome row hrow
  exact ⟨hcrowd, by decide, hsorted, by decide, ⟨hapart, hback⟩,
    hany (by decide) hapart rowBack hback⟩

end ClaimMap

end FirstClaim
