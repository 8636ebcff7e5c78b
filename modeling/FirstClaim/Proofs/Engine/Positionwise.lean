import FirstClaim.Proofs.Engine.Cuts

/-!
# Claiming position by position

A description of the same results that knows nothing of spans in order. One flag per byte of the
text says whether it is claimed. Rules are tried in turn; a match is accepted when none of its
positions is flagged, and flags them (`Positionwise.accept`). The output is then written in a walk
over the characters of the text, in which a claim is emitted where it starts and skipped up to its
end (`Positionwise.walk`).

The relation between the two is `Agree`: a position is flagged when a claim covers it.

* `accept_eq`, `attempt_eq`: while the flags agree with the claims, a rule accepts the same matches,
  calls its callback alike and fails alike.
* `Agree.claimEach`, `claimAll_agree`: and so they agree again after the rule, and after every run.
* `walk_eq_splice`: where claims cut a text, the walk writes what the substitution writes.
* `transform_eq_positionwise`: both give the same report.
-/

set_option autoImplicit false

namespace FirstClaim

open String (utf8Len)

open scoped List

namespace Positionwise

/-! ## Flags -/

/-- For each byte of a text, whether it is claimed. -/
abbrev Flags := List Bool

namespace Flags

def clear (size : Nat) : Flags :=
  List.replicate size false

/-- No position from `start` up to `stop` is claimed. -/
def free (flags : Flags) (start stop : Nat) : Bool :=
  (List.range' start (stop - start)).all fun p => flags[p]? != some true

def claim (flags : Flags) (start stop : Nat) : Flags :=
  flags.mapIdx fun p claimed => claimed || decide (start ≤ p ∧ p < stop)

end Flags

/-! ## Matching -/

/-- Tries the matches of a rule in turn: one that has no claimed position is accepted and claims
its positions. Ends with the first failure of the replacement. -/
def accept (index : Nat) (flags : Flags) (r : Replacement) :
    List Regex.Match → Except RuleError (Flags × List Claim) × Replacement
  | [] => (.ok (flags, []), r)
  | m :: ms =>
    if m.whole.start < m.whole.stop && flags.free m.whole.start m.whole.stop then
      match r.resolve ⟨m.whole.text, m.groups.map (·.map (·.text))⟩ with
      | (.error e, r) => (.error e, r)
      | (.ok text, r) =>
        let (result, r) := accept index (flags.claim m.whole.start m.whole.stop) r ms
        (result.map fun (flags, claims) =>
          (flags, ⟨index, m.whole.text, text, m.whole.start, m.whole.stop⟩ :: claims), r)
    else accept index flags r ms

/-- Tries one rule on the original text. -/
def attempt (text : String) (index : Nat) (flags : Flags) (rule : Rule) :
    Except RuleError (Flags × List Claim) × Rule :=
  match rule.build with
  | .error e => (.error e, rule)
  | .ok regex =>
    let (result, replacement) := accept index flags rule.replacement (regex.findAll text)
    (result, { rule with replacement })

/-- Tries rules in turn. Gives the claims in the order in which they are made, the rules skipped
and the rules after their callbacks have been called. -/
def claimAll (text : String) (index : Nat) (flags : Flags) :
    List Rule → List Claim × List Skipped × List Rule
  | [] => ([], [], [])
  | rule :: rest =>
    match attempt text index flags rule with
    | (.ok (flags, claims), rule) =>
      let (more, skipped, rules) := claimAll text (index + 1) flags rest
      (claims ++ more, skipped, rule :: rules)
    | (.error reason, rule) =>
      let (more, skipped, rules) := claimAll text (index + 1) flags rest
      (more, ⟨index, rule.pattern.map (·.text), reason⟩ :: skipped, rule :: rules)

/-! ## Writing -/

/-- The claim that starts at a position. -/
def startingAt (claims : List Claim) (position : Nat) : Option Claim :=
  claims.find? (·.start == position)

/-- Walks over the characters from byte `position` on: emits the claim that starts here and jumps to
its end, and copies the character where none does. What lies before byte `resume` is jumped over. -/
def walk (claims : List Claim) (position resume : Nat) : List Char → List Char
  | [] => []
  | c :: cs =>
    if position < resume then walk claims (position + c.utf8Size) resume cs
    else match startingAt claims position with
      | some k => k.replacement.toList ++ walk claims (position + c.utf8Size) k.stop cs
      | none => c :: walk claims (position + c.utf8Size) resume cs

/-- Both phases, for any text and any rules. -/
def transform (rules : List Rule) (text : String) : Report × Engine :=
  let (claims, skipped, rules) := claimAll text 0 (.clear text.utf8ByteSize) rules
  (⟨String.ofList (walk claims 0 0 text.toList), claims.mergeSort (·.start ≤ ·.start), skipped⟩,
    ⟨rules⟩)

/-! ## Flags and claims -/

/-- From byte `position` on, a position is flagged when a claim covers it. -/
def AgreeFrom (position : Nat) (taken : ClaimMap) (flags : Flags) : Prop :=
  ∀ p, position ≤ p → (flags[p]? = some true ↔ ∃ c ∈ taken.toList, c.Covers p)

/-- Each byte of the text has a flag, which is set when a claim covers it. -/
structure Agree (text : List Char) (taken : ClaimMap) (flags : Flags) : Prop where
  length : flags.length = utf8Len text
  flagged : AgreeFrom 0 taken flags

theorem Agree.clear (text : List Char) : Agree text .empty (.clear (utf8Len text)) :=
  ⟨by simp [Flags.clear], fun p _ => by simp [Flags.clear, ClaimMap.empty, List.getElem?_replicate]⟩

theorem free_eq_isFree {position : Nat} {taken : ClaimMap} {flags : Flags} (hv : taken.Valid)
    (h : AgreeFrom position taken flags) {start stop : Nat} (hle : position ≤ start)
    (hlt : start < stop) : flags.free start stop = taken.isFree start stop := by
  rw [Bool.eq_iff_iff, ClaimMap.isFree_iff hv, Flags.free, List.all_eq_true]
  constructor
  · intro hfree c hc
    refine (Claim.misses_iff (hv.nonempty c hc) hlt).2 fun p hp hp' hcovers => ?_
    have := hfree p (List.mem_range'_1.2 ⟨hp, by omega⟩)
    rw [bne_iff_ne] at this
    exact this ((h p (by omega)).2 ⟨c, hc, hcovers⟩)
  · intro hmiss p hp
    obtain ⟨hp, hp'⟩ := List.mem_range'_1.1 hp
    rw [bne_iff_ne]
    intro hflag
    obtain ⟨c, hc, hcovers⟩ := (h p (by omega)).1 hflag
    exact (Claim.misses_iff (hv.nonempty c hc) hlt).1 (hmiss c hc) p hp (by omega) hcovers

theorem getElem?_claim (flags : Flags) (start stop p : Nat) :
    (flags.claim start stop)[p]? = flags[p]?.map (· || decide (start ≤ p ∧ p < stop)) := by
  rw [Flags.claim, List.getElem?_mapIdx]

/-- Behind a span that is claimed nothing changes. -/
theorem AgreeFrom.claim {position : Nat} {taken : ClaimMap} {flags : Flags}
    (h : AgreeFrom position taken flags) {start stop : Nat} (hle : position ≤ stop) :
    AgreeFrom stop taken (flags.claim start stop) := by
  intro p hp
  rw [← h p (by omega), getElem?_claim, decide_eq_false (by omega)]
  simp

/-- Claims the positions of claims in turn. -/
def Flags.claimEach (flags : Flags) (cs : List Claim) : Flags :=
  cs.foldl (fun flags c => flags.claim c.start c.stop) flags

/-- A position is flagged afterwards when it was before or one of the claims covers it. -/
theorem getElem?_claimEach {p : Nat} : ∀ {cs : List Claim} {flags : Flags}, p < flags.length →
    ((flags.claimEach cs)[p]? = some true ↔ flags[p]? = some true ∨ ∃ c ∈ cs, c.Covers p)
  | [], flags, _ => by simp [Flags.claimEach]
  | c :: cs, flags, hp => by
    have hlen : (flags.claim c.start c.stop).length = flags.length := by simp [Flags.claim]
    rw [Flags.claimEach, List.foldl_cons, ← Flags.claimEach, getElem?_claimEach (by omega),
      getElem?_claim]
    simp [List.getElem?_eq_getElem hp, Claim.Covers, or_assoc]

theorem length_claimEach : ∀ (cs : List Claim) (flags : Flags),
    (flags.claimEach cs).length = flags.length
  | [], _ => rfl
  | c :: cs, flags => by
    rw [Flags.claimEach, List.foldl_cons, ← Flags.claimEach, length_claimEach]
    simp [Flags.claim]

/-- **The flags agree with the claims again after a rule.** -/
theorem Agree.claimEach {text : List Char} {index : Nat} {taken : ClaimMap} {flags : Flags}
    (h : Agree text taken flags) (hon : taken.On text) {cs : List Claim}
    (hcs : Rule.Pending text index taken cs) :
    Agree text (taken.commit cs) (flags.claimEach cs) := by
  refine ⟨(length_claimEach cs flags).trans h.length, fun p _ => ?_⟩
  have hmem : (∃ c ∈ (taken.commit cs).toList, c.Covers p) ↔
      (∃ c ∈ taken.toList, c.Covers p) ∨ ∃ c ∈ cs, c.Covers p := by
    simp only [ClaimMap.mem_commit hon.toValid hcs.fits, or_and_right, exists_or]
  by_cases hp : p < flags.length
  · rw [getElem?_claimEach hp, hmem, h.flagged p (Nat.zero_le p)]
  · -- no claim covers a position behind the end of the text
    rw [List.getElem?_eq_none (by rw [length_claimEach]; omega)]
    refine iff_of_false (by simp) fun hcovers => hp ?_
    rw [h.length]
    rcases hmem.1 hcovers with ⟨c, hc, hcovers⟩ | ⟨c, hc, hcovers⟩
    · exact Nat.lt_of_lt_of_le hcovers.2 (hon.inside c hc).stop_le
    · exact Nat.lt_of_lt_of_le hcovers.2 (hcs.inside c hc).stop_le

/-! ## One rule -/

/-- **The same matches are accepted**: matches come from left to right, so the positions claimed by
the rule itself lie before all matches that are still to come. -/
theorem accept_eq {text : List Char} {index : Nat} {taken : ClaimMap} (hv : taken.Valid) :
    ∀ {ms : List Regex.Match} {position : Nat} {flags : Flags} {r : Replacement},
      Regex.Ordered text position ms → AgreeFrom position taken flags →
      accept index flags r ms =
        ((Rule.resolveEach index r (ms.filter (Rule.mayClaim taken))).1.map fun cs =>
          (flags.claimEach cs, cs),
        (Rule.resolveEach index r (ms.filter (Rule.mayClaim taken))).2)
  | [], _, _, _, _, _ => rfl
  | m :: ms, position, flags, r, ho, h => by
    have hm : position ≤ m.whole.start := ho.behind m (.head _)
    have hms : Regex.Ordered text m.whole.stop ms := ho.tail
    have hrest : Regex.Ordered text position ms := ho.rest
    have hmay : (decide (m.whole.start < m.whole.stop) &&
        flags.free m.whole.start m.whole.stop) = Rule.mayClaim taken m := by
      rw [Rule.mayClaim]
      by_cases hlt : m.whole.start < m.whole.stop
      · rw [free_eq_isFree hv h hm hlt]
      · simp [hlt]
    rw [accept, hmay]
    -- `position` moves behind the match only if it is claimed
    by_cases hc : Rule.mayClaim taken m = true
    · rw [if_pos hc, List.filter_cons_of_pos hc, Rule.resolveEach]
      have hle : position ≤ m.whole.stop := Nat.le_trans hm (IsPart.start_le (ho.parts m (.head _)))
      rcases hr : r.resolve ⟨m.whole.text, m.groups.map (·.map (·.text))⟩ with ⟨e | replacement, r'⟩
      · simp only [hr]
        rfl
      · simp only [hr, accept_eq hv hms (h.claim hle)]
        cases (Rule.resolveEach index r' (ms.filter (Rule.mayClaim taken))).1 <;> rfl
    · rw [if_neg hc, List.filter_cons_of_neg hc, accept_eq hv hrest h]

/-- **A rule makes the same claims, calls its callback alike and fails alike.** -/
theorem attempt_eq {text : String} {index : Nat} {taken : ClaimMap} (hv : taken.Valid)
    {flags : Flags} (h : Agree text.toList taken flags) (rule : Rule) :
    attempt text index flags rule =
      ((rule.pending text index taken).1.map fun cs => (flags.claimEach cs, cs),
        (rule.pending text index taken).2) := by
  cases hb : rule.build with
  | error e =>
    rw [attempt, Rule.pending, hb]
    rfl
  | ok regex =>
    rw [Rule.pending_eq hb, attempt, hb]
    simp only [accept_eq hv (Regex.findAll_ordered regex text) h.flagged]

/-! ## All rules -/

/-- **A run over the rules makes the same claims**, in another order. -/
theorem claimAll_agree {text : String} : ∀ (rules : List Rule) (index : Nat) {taken : ClaimMap}
    {flags : Flags}, taken.On text.toList → Agree text.toList taken flags →
    (Engine.claimAll text index taken rules).1.toList ~
        taken.toList ++ (claimAll text index flags rules).1 ∧
      (Engine.claimAll text index taken rules).2 = (claimAll text index flags rules).2
  | [], _, taken, _, _, _ => ⟨by simp [claimAll], rfl⟩
  | rule :: rules, index, taken, flags, hon, h => by
    have hpattern := rule.pattern_pending text index taken
    rw [Engine.claimAll, claimAll, attempt_eq hon.toValid h]
    rcases hp : rule.pending text index taken with ⟨reason | cs, after⟩
    · obtain ⟨hperm, hrest⟩ := claimAll_agree rules (index + 1) hon h
      simp only [Except.map]
      exact ⟨hperm, by simp only [hrest]⟩
    · have hcs : Rule.Pending text.toList index taken cs :=
        Rule.pending_claims hon.toValid (by rw [hp])
      have hon' : (taken.commit cs).On text.toList := by
        have : (rule.claimed text index taken).On text.toList := Rule.claimed_on hon
        rwa [Rule.claimed, hp] at this
      obtain ⟨hperm, hrest⟩ := claimAll_agree rules (index + 1) hon'
        (h.claimEach hon hcs)
      simp only [Except.map]
      refine ⟨?_, by simp only [hrest]⟩
      calc _ ~ (taken.commit cs).toList ++ _ := hperm
        _ ~ taken.toList ++ cs ++ _ := (ClaimMap.commit_perm hon.toValid hcs.fits).append_right _
        _ = taken.toList ++ (cs ++ _) := List.append_assoc _ _ _

/-! ## The walk -/

theorem walk_copy {claims : List Claim} {resume : Nat} (rest : List Char) :
    ∀ {kept : List Char} {position : Nat}, resume ≤ position →
      (∀ p, position ≤ p → p < position + utf8Len kept → startingAt claims p = none) →
      walk claims position resume (kept ++ rest) =
        kept ++ walk claims (position + utf8Len kept) resume rest
  | [], _, _, _ => rfl
  | k :: kept, position, hle, hnone => by
    have hk := k.utf8Size_pos
    rw [String.utf8Len_cons] at hnone ⊢
    rw [List.cons_append, walk, if_neg (by omega),
      hnone position (Nat.le_refl _) (by omega), walk_copy rest (by omega) fun p hp hp' =>
        hnone p (by omega) (by omega)]
    simp [Nat.add_assoc, Nat.add_comm]

theorem walk_skip {claims : List Claim} {resume : Nat} (rest : List Char) :
    ∀ {skipped : List Char} {position : Nat}, position + utf8Len skipped ≤ resume →
      walk claims position resume (skipped ++ rest) =
        walk claims (position + utf8Len skipped) resume rest
  | [], _, _ => rfl
  | k :: skipped, position, hle => by
    have hk := k.utf8Size_pos
    rw [String.utf8Len_cons] at hle ⊢
    rw [List.cons_append, walk, if_pos (by omega), walk_skip rest (by omega), Nat.add_assoc,
      Nat.add_comm k.utf8Size]

/-- **Where claims cut a text, the walk writes what the substitution writes.** -/
theorem walk_eq_splice {claims : List Claim} {position : Nat} {rest : List Char}
    {cs : List Claim} (h : Cuts position rest cs) : ∀ {resume : Nat},
      (∀ c ∈ cs, c.start < c.stop) → resume ≤ position →
      (∀ p, position ≤ p → startingAt claims p = startingAt cs p) →
      walk claims position resume rest = Engine.splice position rest cs := by
  induction h with
  | last position kept =>
    intro resume _ hle hlook
    have hcopy : walk claims position resume (kept ++ []) = _ :=
      walk_copy [] hle fun p hp _ => hlook p hp
    simpa [walk, Engine.splice] using hcopy
  | @claim position c cs rest kept hstart hstop hcuts ih =>
    intro resume hne hle hlook
    have hc := hne c (.head _)
    have hlate := hcuts.le_start
    have hnone : ∀ p, position ≤ p → p < position + utf8Len kept → startingAt claims p = none := by
      intro p hp hp'
      rw [hlook p hp, startingAt, List.find?_eq_none]
      intro d hd
      rw [beq_iff_eq]
      rcases List.mem_cons.1 hd with rfl | hd
      · omega
      · have := hlate d hd
        omega
    have hhere : startingAt claims c.start = some c := by
      rw [hlook _ (by omega), startingAt, List.find?_cons_of_pos (by simp)]
    have hthere : ∀ p, c.stop ≤ p → startingAt claims p = startingAt cs p := by
      intro p hp
      rw [hlook p (by omega), startingAt, List.find?_cons_of_neg (by simp; omega), startingAt]
    -- the claim has a first character, at which it is emitted
    cases hm : c.matched.toList with
    | nil => rw [hm] at hstop; simp at hstop; omega
    | cons k more =>
      rw [hm, String.utf8Len_cons] at hstop
      have hjump : c.start + k.utf8Size + utf8Len more = c.stop := by omega
      have hsplice := Engine.splice_claim rest cs hstart (by rw [hm, String.utf8Len_cons, hstop])
      rw [hm] at hsplice
      rw [hsplice, walk_copy _ hle hnone, hstart, List.cons_append, walk, if_neg (by omega),
        hhere]
      simp only
      rw [walk_skip rest (by omega), hjump,
        ih (fun d hd => hne d (.tail _ hd)) (Nat.le_refl _) hthere]

/-- Where claims have different starts, their order does not matter for the walk. -/
theorem startingAt_perm {claims : List Claim} {m : ClaimMap} (hv : m.Valid)
    (h : m.toList ~ claims) (p : Nat) : startingAt claims p = startingAt m.toList p := by
  cases hs : startingAt m.toList p with
  | none =>
    refine List.find?_eq_none.2 fun c hc => ?_
    exact List.find?_eq_none.1 hs c (h.mem_iff.2 hc)
  | some c =>
    have hc := List.mem_of_find?_eq_some hs
    have hstart := List.find?_some hs
    cases hs' : startingAt claims p with
    | none => exact absurd hstart (List.find?_eq_none.1 hs' c (h.mem_iff.1 hc))
    | some d =>
      have hd := h.mem_iff.2 (List.mem_of_find?_eq_some hs')
      have hstart' := List.find?_some hs'
      rw [beq_iff_eq] at hstart hstart'
      rw [hv.eq_of_start_eq hd hc (hstart'.trans hstart.symm)]

/-! ## Both phases -/

/-- **Both descriptions give the same report**: the same output and the same claims for every text
and all rules, the same rules skipped unless the text is empty, and the same calls of callbacks. -/
theorem transform_eq_positionwise (e : Engine) (text : String) :
    (e.transform text).1.output = (transform e.rules text).1.output ∧
      (e.transform text).1.claims = (transform e.rules text).1.claims ∧
      (e.transform text).1.skipped =
        (if text.isEmpty then [] else (transform e.rules text).1.skipped) ∧
      (e.transform text).2 = (transform e.rules text).2 := by
  have hclear := Agree.clear text.toList
  rw [String.utf8Len_toList] at hclear
  obtain ⟨hperm, hrest⟩ := claimAll_agree e.rules 0 (.empty _) hclear
  have hon : (Engine.claimAll text 0 .empty e.rules).1.On text.toList :=
    Engine.claimAll_on (.empty _)
  have hsort := hon.toValid.mergeSort_eq hperm
  have hwalk := walk_eq_splice hon.cuts hon.nonempty (Nat.le_refl 0) fun p _ =>
    startingAt_perm hon.toValid hperm p
  simp only [ClaimMap.empty, List.nil_append] at hsort hwalk hrest
  simp only [transform, hsort, hwalk, ← hrest]
  by_cases ht : text = ""
  · -- nothing can be claimed in the empty text, and no callback is called
    subst ht
    have hnone := hon.toList_eq_nil
    simp only [ClaimMap.empty] at hnone
    rw [hnone, Engine.claimAll_empty_rules, Engine.transform_empty]
    exact ⟨rfl, rfl, rfl, rfl⟩
  · rw [Engine.transform_of_ne ht]
    exact ⟨rfl, rfl, by simp [ht, ClaimMap.empty], rfl⟩

end Positionwise

end FirstClaim
