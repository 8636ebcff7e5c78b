import FirstClaim.Config
import FirstClaim.Proofs.Engine.Cuts
import FirstClaim.Proofs.Engine.Resolve
import FirstClaim.Proofs.Regex.Lines

/-!
# Rules that work line by line

A rule with a template whose pattern works line by line claims in two texts with a line end between
them what it claims in each one of them.

* `Joined`: the claims on the whole text are those on the first one and, moved behind it, those on
  the second one. `claimed_joined` keeps this for one rule, `claimAll_joined` for a run.
* `splice_joined`: joined claims replace in the whole text what they replace in each text.

`apply_lines`: such rules keep the line end and work on both sides of it as if it were not there;
`builtin_lines` says so of the built-in rules.
-/

set_option autoImplicit false

namespace FirstClaim

open String (utf8Len)
open scoped List

/-! ## Claims on two texts -/

/-- The claim `k` bytes further. -/
def Claim.shift (k : Nat) (c : Claim) : Claim :=
  { c with start := c.start + k, stop := c.stop + k }

/-- The claims of `whole` are those of `front` and, `k` bytes further, those of `back`; the line
end stands between them. -/
structure ClaimMap.Joined (k : Nat) (front back whole : ClaimMap) : Prop where
  eq : whole.toList = front.toList ++ back.toList.map (Claim.shift k)
  validFront : front.Valid
  validBack : back.Valid
  apart : ∀ c ∈ front.toList, c.stop ≤ k

namespace ClaimMap.Joined

variable {k : Nat} {front back whole : ClaimMap}

theorem empty (k : Nat) : Joined k .empty .empty .empty :=
  ⟨rfl, .empty, .empty, by simp [ClaimMap.empty]⟩

theorem valid (h : Joined k front back whole) : whole.Valid := by
  refine ⟨fun c hc => ?_, ?_⟩
  · rw [h.eq, List.mem_append] at hc
    rcases hc with hc | hc
    · exact h.validFront.nonempty c hc
    · obtain ⟨d, hd, rfl⟩ := List.mem_map.1 hc
      exact Nat.add_lt_add_right (h.validBack.nonempty d hd) k
  · rw [h.eq]
    refine List.pairwise_append.2 ⟨h.validFront.apart, List.pairwise_map.2 ?_, fun c hc d hd => ?_⟩
    · exact h.validBack.apart.imp fun hcd => Nat.add_le_add_right hcd k
    · obtain ⟨e, -, rfl⟩ := List.mem_map.1 hd
      exact (h.apart c hc).trans (Nat.le_add_left k e.start)

theorem isFree_front (h : Joined k front back whole) {start stop : Nat} (hstop : stop ≤ k) :
    whole.isFree start stop = front.isFree start stop := by
  rw [Bool.eq_iff_iff, isFree_iff h.valid, isFree_iff h.validFront, h.eq]
  refine ⟨fun hall c hc => hall c (List.mem_append_left _ hc), fun hall c hc => ?_⟩
  rcases List.mem_append.1 hc with hc | hc
  · exact hall c hc
  · obtain ⟨d, -, rfl⟩ := List.mem_map.1 hc
    exact .inr (hstop.trans (Nat.le_add_left k d.start))

theorem isFree_back (h : Joined k front back whole) (start stop : Nat) :
    whole.isFree (start + k) (stop + k) = back.isFree start stop := by
  have hshift : ∀ d : Claim, (d.shift k).Misses (start + k) (stop + k) ↔ d.Misses start stop :=
    fun d => or_congr Nat.add_le_add_iff_right Nat.add_le_add_iff_right
  rw [Bool.eq_iff_iff, isFree_iff h.valid, isFree_iff h.validBack, h.eq]
  refine ⟨fun hall d hd => ?_, fun hall c hc => ?_⟩
  · exact (hshift d).1 (hall _ (List.mem_append_right _ (List.mem_map_of_mem hd)))
  · rcases List.mem_append.1 hc with hc | hc
    · exact .inl ((h.apart c hc).trans (Nat.le_add_left k start))
    · obtain ⟨d, hd, rfl⟩ := List.mem_map.1 hc
      exact (hshift d).2 (hall d hd)

theorem commit (h : Joined k front back whole) {cs ds : List Claim} (hcs : front.Fits cs)
    (hds : back.Fits ds) (hall : whole.Fits (cs ++ ds.map (Claim.shift k)))
    (hapart : ∀ c ∈ cs, c.stop ≤ k) :
    Joined k (front.commit cs) (back.commit ds) (whole.commit (cs ++ ds.map (Claim.shift k))) := by
  have hjoined : Joined k (front.commit cs) (back.commit ds)
      ⟨(front.commit cs).toList ++ (back.commit ds).toList.map (Claim.shift k)⟩ := by
    refine ⟨rfl, h.validFront.commit hcs, h.validBack.commit hds, fun c hc => ?_⟩
    rcases (mem_commit h.validFront hcs).1 hc with hc | hc
    · exact h.apart c hc
    · exact hapart c hc
  have hperm : (whole.commit (cs ++ ds.map (Claim.shift k))).toList ~
      (front.commit cs).toList ++ (back.commit ds).toList.map (Claim.shift k) := by
    calc (whole.commit (cs ++ ds.map (Claim.shift k))).toList
      _ ~ whole.toList ++ (cs ++ ds.map (Claim.shift k)) := commit_perm h.valid hall
      _ = (front.toList ++ back.toList.map (Claim.shift k)) ++ (cs ++ ds.map (Claim.shift k)) := by
        rw [h.eq]
      _ ~ (front.toList ++ cs) ++ (back.toList.map (Claim.shift k) ++ ds.map (Claim.shift k)) := by
        rw [List.append_assoc, List.append_assoc]
        exact (List.perm_append_comm_assoc _ _ _).append_left _
      _ ~ (front.commit cs).toList ++ (back.commit ds).toList.map (Claim.shift k) := by
        rw [← List.map_append]
        exact ((commit_perm h.validFront hcs).symm).append
          ((commit_perm h.validBack hds).symm.map _)
  rw [(h.valid.commit hall).eq_of_perm hjoined.valid hperm]
  exact hjoined

end ClaimMap.Joined

/-! ## One rule -/

/-- A rule with a template whose pattern works line by line. -/
def Rule.linewise (rule : Rule) : Bool :=
  match rule.replacement, rule.build with
  | .template _, .ok regex =>
    decide regex.node.Linewise && regex.node.productive && regex.node.consumes
  | _, _ => false

theorem Regex.Match.filled_shift (index : Nat) (template : String) (k : Nat) (m : Regex.Match) :
    (m.shift k).filled index template = (m.filled index template).shift k := by
  have hcall : (m.shift k).call = m.call := by
    unfold call shift
    rw [List.map_map]
    congr 1
    refine List.map_congr_left fun g _ => ?_
    cases g <;> rfl
  unfold filled
  rw [hcall]
  rfl

namespace Rule

variable {rule : Rule} {text : String} {index : Nat} {taken : ClaimMap}

theorem linewise_spec (h : rule.linewise = true) :
    ∃ template regex, rule.replacement = .template template ∧ rule.build = .ok regex ∧
      regex.node.Linewise ∧ regex.node.productive = true ∧ regex.node.consumes = true := by
  unfold linewise at h
  split at h
  · rename_i template regex hreplacement hbuild
    simp only [Bool.and_eq_true, decide_eq_true_eq] at h
    exact ⟨template, regex, hreplacement, hbuild, h.1.1, h.1.2, h.2⟩
  · cases h

theorem pending_template {template : String} {regex : Regex}
    (hreplacement : rule.replacement = .template template) (hbuild : rule.build = .ok regex) :
    (rule.pending text index taken).1 =
      .ok (((regex.findAll text).filter (mayClaim taken)).map (·.filled index template)) := by
  rw [pending_eq hbuild, hreplacement, resolveEach_template]

/-- **What a rule that works line by line claims in two texts with a line end between them** is what
it claims in each one of them. -/
theorem claimed_joined (hrule : rule.linewise = true) {a b z : String} (hz : Regex.LineEnd a b z)
    {front back whole : ClaimMap}
    (h : ClaimMap.Joined (a ++ z).utf8ByteSize front back whole) :
    ClaimMap.Joined (a ++ z).utf8ByteSize (rule.claimed a index front)
      (rule.claimed b index back) (rule.claimed (a ++ z ++ b) index whole) := by
  obtain ⟨template, regex, hreplacement, hbuild, hn, hproductive, hconsumes⟩ := linewise_spec hrule
  have hpending : ∀ text taken, (rule.pending text index taken).1 =
      .ok (((regex.findAll text).filter (mayClaim taken)).map (·.filled index template)) :=
    fun text taken => pending_template hreplacement hbuild
  have hfront := pending_claims h.validFront (hpending a front)
  have hback := pending_claims h.validBack (hpending b back)
  have hwhole := pending_claims h.valid (hpending (a ++ z ++ b) whole)
  have hsize : utf8Len a.toList ≤ (a ++ z).utf8ByteSize := by
    rw [String.utf8Len_toList, String.utf8ByteSize_append]
    exact Nat.le_add_right _ _
  -- the claims on the one text do not reach into the other one
  have hmatchesA : (regex.findAll a).filter (mayClaim whole) =
      (regex.findAll a).filter (mayClaim front) := by
    refine List.filter_congr fun m hm => ?_
    have hpart : m.In a.toList := (Regex.findAll_ordered regex a).parts m hm
    unfold mayClaim
    rw [h.isFree_front (hpart.stop_le.trans hsize)]
  have hmatchesB : ((regex.findAll b).map (Regex.Match.shift (a ++ z).utf8ByteSize)).filter
      (mayClaim whole) = ((regex.findAll b).filter (mayClaim back)).map
        (Regex.Match.shift (a ++ z).utf8ByteSize) := by
    rw [List.filter_map]
    congr 1
    refine List.filter_congr fun m _ => ?_
    have hnonempty : (decide (m.whole.start + (a ++ z).utf8ByteSize <
        m.whole.stop + (a ++ z).utf8ByteSize)) = decide (m.whole.start < m.whole.stop) :=
      decide_eq_decide.2 Nat.add_lt_add_iff_right
    exact congrArg₂ (· && ·) hnonempty (h.isFree_back _ _)
  have hclaims : ((regex.findAll (a ++ z ++ b)).filter (mayClaim whole)).map
        (·.filled index template) =
      ((regex.findAll a).filter (mayClaim front)).map (·.filled index template) ++
        (((regex.findAll b).filter (mayClaim back)).map (·.filled index template)).map
          (Claim.shift (a ++ z).utf8ByteSize) := by
    rw [Regex.findAll_lines hn hproductive hconsumes hz, List.filter_append, hmatchesA, hmatchesB,
      List.map_append, List.map_map, List.map_map]
    congr 1
    exact List.map_congr_left fun m _ => m.filled_shift index template _
  simp only [claimed, hpending]
  rw [hclaims] at hwhole ⊢
  exact h.commit hfront.fits hback.fits hwhole.fits fun c hc =>
    (hfront.inside c hc).stop_le.trans hsize

end Rule

namespace Engine

/-! ## A run -/

/-- **A run over rules that work line by line** claims in both texts what it claims in each one. -/
theorem claimAll_joined {rules : List Rule} (hrules : ∀ rule ∈ rules, rule.linewise = true)
    {a b z : String} (hz : Regex.LineEnd a b z) {index : Nat} {front back whole : ClaimMap}
    (h : ClaimMap.Joined (a ++ z).utf8ByteSize front back whole) :
    ClaimMap.Joined (a ++ z).utf8ByteSize (claimAll a index front rules).1
      (claimAll b index back rules).1 (claimAll (a ++ z ++ b) index whole rules).1 := by
  induction rules generalizing index front back whole with
  | nil => exact h
  | cons rule rules ih =>
    rw [claimAll_cons, claimAll_cons, claimAll_cons]
    exact ih (fun r hr => hrules r (.tail _ hr)) (Rule.claimed_joined (hrules rule (.head _)) hz h)

/-! ## The substitution -/

/-- Only where claims lie in what is left of the text matters. -/
theorem splice_shift (k position : Nat) (rest : List Char) (cs : List Claim) :
    splice (position + k) rest (cs.map (Claim.shift k)) = splice position rest cs := by
  induction cs generalizing position rest with
  | nil => rfl
  | cons c cs ih =>
    have hstart : (c.shift k).start - (position + k) = c.start - position :=
      Nat.add_sub_add_right _ _ _
    have hstop : (c.shift k).stop - (position + k) = c.stop - position :=
      Nat.add_sub_add_right _ _ _
    rw [List.map_cons, splice, splice, hstart, hstop]
    exact congrArg _ (ih c.stop _)

theorem splice_append {position k : Nat} {kept rest : List Char} {cs : List Claim}
    (hk : position + utf8Len kept = k) (h : Cuts 0 rest cs) :
    splice position (kept ++ rest) (cs.map (Claim.shift k)) = kept ++ splice 0 rest cs := by
  cases h with
  | last => rfl
  | @claim _ c cs rest more hstart hstop hrest =>
    have hstart' : position + utf8Len (kept ++ more) = (c.shift k).start := by
      rw [String.utf8Len_append]
      simp only [Claim.shift]
      omega
    have hstop' : (c.shift k).start + utf8Len (c.shift k).matched.toList = (c.shift k).stop := by
      simp only [Claim.shift]
      omega
    have hwhole := splice_claim rest (cs.map (Claim.shift k)) hstart' hstop'
    rw [splice_claim rest cs hstart hstop, List.map_cons, ← List.append_assoc kept,
      ← List.append_assoc kept]
    exact hwhole.trans (congrArg _ (congrArg _ (splice_shift k c.stop rest cs)))

/-- **Joined claims replace in the whole text what they replace in each text.** -/
theorem splice_joined {position k : Nat} {rest between behind : List Char} {cs ds : List Claim}
    (hcs : Cuts position rest cs) (hds : Cuts 0 behind ds)
    (hk : position + utf8Len (rest ++ between) = k) :
    splice position (rest ++ between ++ behind) (cs ++ ds.map (Claim.shift k)) =
      splice position rest cs ++ between ++ splice 0 behind ds := by
  induction hcs with
  | last position kept => exact splice_append hk hds
  | @claim position c cs rest kept hstart hstop _ ih =>
    have hk' : c.stop + utf8Len (rest ++ between) = k := by
      simp only [String.utf8Len_append] at hk ⊢
      omega
    have hfirst := splice_claim (rest ++ between ++ behind) (cs ++ ds.map (Claim.shift k))
      hstart hstop
    rw [ih hk'] at hfirst
    rw [splice_claim rest cs hstart hstop]
    simp only [List.append_assoc, List.cons_append] at hfirst ⊢
    exact hfirst

theorem toList_apply (e : Engine) (text : String) :
    (e.apply text).toList = splice 0 text.toList (claimAll text 0 .empty e.rules).1.toList := by
  by_cases h : text = ""
  · subst h
    have hon : (claimAll "" 0 .empty e.rules).1.On "".toList := claimAll_on (.empty _)
    have hnone : (claimAll "" 0 .empty e.rules).1.toList = [] := hon.toList_eq_nil
    rw [hnone]
    rfl
  · rw [apply, transform_of_ne h]
    exact String.toList_ofList

/-- **Rules that work line by line keep line ends** and work on each side of one as if it were not
there. -/
theorem apply_lines {rules : List Rule} (hrules : ∀ rule ∈ rules, rule.linewise = true)
    {a b z : String} (hz : Regex.LineEnd a b z) :
    (Engine.mk rules).apply (a ++ z ++ b) =
      (Engine.mk rules).apply a ++ z ++ (Engine.mk rules).apply b := by
  have hjoined : ClaimMap.Joined (a ++ z).utf8ByteSize (claimAll a 0 .empty rules).1
      (claimAll b 0 .empty rules).1 (claimAll (a ++ z ++ b) 0 .empty rules).1 :=
    claimAll_joined hrules hz (.empty _)
  have hfront : (claimAll a 0 .empty rules).1.On a.toList := claimAll_on (.empty _)
  have hback : (claimAll b 0 .empty rules).1.On b.toList := claimAll_on (.empty _)
  have hsize : 0 + utf8Len (a.toList ++ z.toList) = (a ++ z).utf8ByteSize := by
    rw [Nat.zero_add, ← String.toList_append, String.utf8Len_toList]
  refine String.toList_inj.1 ?_
  rw [toList_apply, String.toList_append, String.toList_append, String.toList_append,
    String.toList_append, toList_apply, toList_apply, hjoined.eq]
  exact splice_joined hfront.cuts hback.cuts hsize

/-! ## The built-in rules -/

theorem builtin_linewise : ∀ rule ∈ Config.builtin.toRules, rule.linewise = true := by
  decide +kernel

/-- **The built-in rules work line by line** and keep every line end. -/
theorem builtin_lines {a b z : String} (hz : Regex.LineEnd a b z) :
    (Engine.mk Config.builtin.toRules).apply (a ++ z ++ b) =
      (Engine.mk Config.builtin.toRules).apply a ++ z ++
        (Engine.mk Config.builtin.toRules).apply b :=
  apply_lines builtin_linewise hz

/-- An empty heading before a carriage return with its line feed, and a bullet item behind it. -/
theorem builtin_lines_emptyHeading : Regex.LineEnd "#" "- **a**" "\r\n" ∧
    (Engine.mk Config.builtin.toRules).apply ("#" ++ "\r\n" ++ "- **a**") =
      "*__*" ++ "\r\n" ++ "• *a*" := by
  have hfront : (Engine.mk Config.builtin.toRules).apply "#" = "*__*" := by decide +kernel
  have hback : (Engine.mk Config.builtin.toRules).apply "- **a**" = "• *a*" := by decide +kernel
  refine ⟨.crlf, ?_⟩
  rw [builtin_lines .crlf, hfront, hback]

end Engine

end FirstClaim
