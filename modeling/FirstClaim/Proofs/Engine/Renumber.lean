import FirstClaim.Proofs.Engine.Resolve

/-!
# The indices of rules

Rules are numbered by their places in the list, and the numbers carry no meaning: whatever a rule
looks at, it never looks at the numbers of the claims made before. So a list of rules does the same
under other numbers, and its claims and the rules skipped only bear these (`claimAll_renumber`);
the text that claims make of another one does not depend on the numbers at all (`splice_renumber`).
-/

set_option autoImplicit false

namespace FirstClaim

variable (f : Nat → Nat)

/-- The same claim by a rule with another number. -/
def Claim.renumber (c : Claim) : Claim :=
  { c with rule := f c.rule }

def Skipped.renumber (s : Skipped) : Skipped :=
  { s with rule := f s.rule }

theorem Skipped.map_renumber_eq_self {f : Nat → Nat} {l : List Skipped}
    (h : ∀ s ∈ l, f s.rule = s.rule) : l.map (·.renumber f) = l := by
  have hmap : l.map (·.renumber f) = l.map id :=
    List.map_congr_left fun s hs => by rw [Skipped.renumber, h s hs, id]
  rw [hmap, List.map_id]

/-! ## Maps of claims -/

namespace ClaimMap

/-- The same claims by rules with other numbers. -/
def renumber (m : ClaimMap) : ClaimMap :=
  ⟨m.toList.map (·.renumber f)⟩

@[simp]
theorem toList_renumber (m : ClaimMap) :
    (m.renumber f).toList = m.toList.map (·.renumber f) := rfl

@[simp]
theorem renumber_empty : empty.renumber f = empty := rfl

theorem renumber_eq_self {f : Nat → Nat} {m : ClaimMap} (h : ∀ c ∈ m.toList, f c.rule = c.rule) :
    m.renumber f = m := by
  have hmap : m.toList.map (·.renumber f) = m.toList.map id :=
    List.map_congr_left fun c hc => by rw [Claim.renumber, h c hc, id]
  rw [renumber, hmap, List.map_id]

@[simp]
theorem isFree_renumber (m : ClaimMap) (start stop : Nat) :
    (m.renumber f).isFree start stop = m.isFree start stop := by
  rw [isFree, isFree, toList_renumber, List.dropWhile_map]
  -- a claim keeps its ends, so the same ones are passed over
  have hpassed : ((fun c : Claim => decide (c.stop ≤ start)) ∘ fun c => c.renumber f) =
      fun c : Claim => decide (c.stop ≤ start) := rfl
  rw [hpassed]
  cases m.toList.dropWhile (·.stop ≤ start) <;> rfl

theorem insertSorted_renumber (c : Claim) (l : List Claim) :
    insertSorted (c.renumber f) (l.map (·.renumber f)) = (insertSorted c l).map (·.renumber f) := by
  induction l with
  | nil => rfl
  | cons d ds ih =>
    rw [List.map_cons, insertSorted, insertSorted, ih]
    change (if d.start < c.start then _ else _) = _
    split <;> rfl

theorem insert_renumber (m : ClaimMap) (c : Claim) :
    (m.renumber f).insert (c.renumber f) = (m.insert c).renumber f := by
  rw [insert, insert, isFree_renumber, toList_renumber, insertSorted_renumber]
  change (if c.isEmpty || !m.isFree c.start c.stop then _ else _) = _
  split <;> rfl

theorem commit_renumber : ∀ (cs : List Claim) (m : ClaimMap),
    (m.renumber f).commit (cs.map (·.renumber f)) = (m.commit cs).renumber f
  | [], _ => rfl
  | c :: cs, m => by
    rw [List.map_cons, commit_cons, commit_cons, insert_renumber, commit_renumber cs]

end ClaimMap

/-! ## One rule -/

namespace Rule

/-- The claims bear the number that they are made under, and nothing else depends on it. -/
theorem resolveEach_renumber (index : Nat) : ∀ (r : Replacement) (ms : List Regex.Match),
    resolveEach (f index) r ms =
      ((resolveEach index r ms).1.map (·.map (·.renumber f)), (resolveEach index r ms).2)
  | _, [] => rfl
  | r, m :: ms => by
    rcases hr : r.resolve m.call with ⟨e | text, r'⟩
    · rw [resolveEach_cons_error hr, resolveEach_cons_error hr]
      rfl
    · rw [resolveEach_cons_ok hr, resolveEach_cons_ok hr, resolveEach_renumber index r' ms]
      cases (resolveEach index r' ms).1 <;> rfl

@[simp]
theorem mayClaim_renumber (taken : ClaimMap) :
    mayClaim (taken.renumber f) = mayClaim taken := by
  funext m
  rw [mayClaim, mayClaim, ClaimMap.isFree_renumber]

theorem pending_renumber (text : String) (index : Nat) (taken : ClaimMap) (rule : Rule) :
    rule.pending text (f index) (taken.renumber f) =
      ((rule.pending text index taken).1.map (·.map (·.renumber f)),
        (rule.pending text index taken).2) := by
  cases hb : rule.build with
  | error e =>
    rw [pending, pending, hb]
    rfl
  | ok regex => rw [pending_eq hb, pending_eq hb, mayClaim_renumber, resolveEach_renumber]

theorem claimed_renumber (text : String) (index : Nat) (taken : ClaimMap) (rule : Rule) :
    rule.claimed text (f index) (taken.renumber f) =
      (rule.claimed text index taken).renumber f := by
  rw [claimed, claimed, pending_renumber]
  cases (rule.pending text index taken).1 with
  | error e => rfl
  | ok cs => exact ClaimMap.commit_renumber f cs taken

theorem skips_renumber (text : String) (index : Nat) (taken : ClaimMap) (rule : Rule) :
    rule.skips text (f index) (taken.renumber f) =
      (rule.skips text index taken).map (·.renumber f) := by
  rw [skips, skips, pending_renumber]
  cases (rule.pending text index taken).1 <;> rfl

end Rule

/-! ## All rules -/

namespace Engine

variable {f}

/-- **A run does the same under other numbers**, as long as these follow each other too. -/
theorem claimAll_renumber {text : String} : ∀ {rules : List Rule} {i j : Nat} {taken : ClaimMap},
    (∀ k < rules.length, f (i + k) = j + k) →
    claimAll text j (taken.renumber f) rules =
      ((claimAll text i taken rules).1.renumber f,
        (claimAll text i taken rules).2.1.map (·.renumber f),
        (claimAll text i taken rules).2.2)
  | [], _, _, _, _ => rfl
  | rule :: rules, i, j, taken, h => by
    have hhead : j = f i := (h 0 (Nat.zero_lt_succ _)).symm
    have htail : ∀ k < rules.length, f (i + 1 + k) = j + 1 + k := fun k hk => by
      have := h (k + 1) (Nat.succ_lt_succ hk)
      rwa [← Nat.add_assoc, Nat.add_right_comm, ← Nat.add_assoc, Nat.add_right_comm j] at this
    rw [claimAll_cons, claimAll_cons, hhead, Rule.claimed_renumber, Rule.skips_renumber,
      Rule.pending_renumber, ← hhead, claimAll_renumber htail, List.map_append]

@[simp]
theorem splice_renumber : ∀ (cs : List Claim) (position : Nat) (rest : List Char),
    splice position rest (cs.map (·.renumber f)) = splice position rest cs
  | [], _, _ => rfl
  | c :: cs, position, rest => by
    rw [List.map_cons, splice, splice, splice_renumber cs]
    rfl

end Engine

end FirstClaim
