import FirstClaim.Proofs.Engine.Run

/-!
# How claims cut a text

`Cuts position rest claims`: what follows byte `position` of a text falls into pieces that are kept
and the texts that the claims have matched, in turn. Claims that are in order cut their text
(`ClaimMap.On.cuts`), and whatever walks over the text with the claims in hand follows the
constructors: `splice_claim` is the step of the substitution.

`transform_of_ne` and `transform_empty` say what a report is in terms of a run over the rules;
`transform_report` is what all reports share.
-/

set_option autoImplicit false

namespace FirstClaim

open String (utf8Len)

/-- What follows byte `position` falls into pieces that are kept and the texts matched by the
claims, which lie where the claims say. -/
inductive Cuts : Nat → List Char → List Claim → Prop
  | last (position : Nat) (kept : List Char) : Cuts position kept []
  | claim {position : Nat} {c : Claim} {cs : List Claim} {rest : List Char} (kept : List Char) :
      position + utf8Len kept = c.start → c.start + utf8Len c.matched.toList = c.stop →
      Cuts c.stop rest cs → Cuts position (kept ++ (c.matched.toList ++ rest)) (c :: cs)

theorem Cuts.of_inside {text : List Char} : ∀ {cs : List Claim} {before rest : List Char},
    text = before ++ rest → (∀ c ∈ cs, c.In text) → (∀ c ∈ cs, utf8Len before ≤ c.start) →
    cs.Pairwise Claim.Before → Cuts (utf8Len before) rest cs
  | [], _, rest, _, _, _, _ => .last _ rest
  | c :: cs, before, rest, htext, hin, hle, hp => by
    obtain ⟨hc, hcs⟩ := List.pairwise_cons.1 hp
    obtain ⟨upto, after, hcut, hstart, hstop⟩ := hin c (.head _)
    rw [List.append_assoc] at hcut
    -- the claim begins behind `before`, so a piece is kept between the two
    obtain ⟨kept, rfl, rfl⟩ := exists_append_of_utf8Len_le (htext.symm.trans hcut)
      (by rw [hstart]; exact hle c (.head _))
    rw [String.utf8Len_append] at hstart
    refine .claim kept hstart hstop ?_
    have hend : utf8Len (before ++ kept ++ c.matched.toList) = c.stop := by
      rw [String.utf8Len_append, String.utf8Len_append, hstart, hstop]
    rw [← hend]
    refine of_inside ?_ (fun d hd => hin d (.tail _ hd)) (fun d hd => ?_) hcs
    · rw [hcut, ← List.append_assoc]
    · rw [hend]
      exact hc d hd

theorem Cuts.le_start {position : Nat} {rest : List Char} {cs : List Claim}
    (h : Cuts position rest cs) : ∀ c ∈ cs, position ≤ c.start := by
  induction h with
  | last => simp
  | claim kept hstart hstop _ ih =>
    intro d hd
    rcases List.mem_cons.1 hd with rfl | hd
    · omega
    · have := ih d hd
      omega

/-- **Claims in order cut their text.** -/
theorem ClaimMap.On.cuts {text : List Char} {m : ClaimMap} (h : m.On text) :
    Cuts 0 text m.toList :=
  show Cuts (utf8Len []) text _ from
    .of_inside rfl h.inside (fun _ _ => Nat.zero_le _) h.apart

namespace Engine

/-- **One claim of the substitution**: the piece before it is kept, then its replacement stands in
place of what it matched. -/
theorem splice_claim {position : Nat} {c : Claim} {kept : List Char} (rest : List Char)
    (cs : List Claim) (hstart : position + utf8Len kept = c.start)
    (hstop : c.start + utf8Len c.matched.toList = c.stop) :
    splice position (kept ++ (c.matched.toList ++ rest)) (c :: cs) =
      kept ++ (c.replacement.toList ++ splice c.stop rest cs) := by
  have htake : c.start - position = utf8Len kept := by omega
  have hdrop : c.stop - position = utf8Len (kept ++ c.matched.toList) := by
    rw [String.utf8Len_append]
    omega
  rw [splice, htake, takeBytes_append, hdrop, ← List.append_assoc kept, dropBytes_append,
    List.append_assoc]

/-! ## Reports -/

theorem transform_empty (e : Engine) : e.transform "" = (.passthrough "", e) := rfl

/-- On any other text every rule claims in turn. Without rules this leaves the text as it is. -/
theorem transform_of_ne {text : String} (h : text ≠ "") (e : Engine) :
    e.transform text =
      (⟨String.ofList (splice 0 text.toList (claimAll text 0 .empty e.rules).1.toList),
        (claimAll text 0 .empty e.rules).1.toList, (claimAll text 0 .empty e.rules).2.1⟩,
        ⟨(claimAll text 0 .empty e.rules).2.2⟩) := by
  obtain ⟨rules⟩ := e
  cases rules with
  | nil =>
    rw [transform, if_pos (by simp)]
    simp [Report.passthrough, ClaimMap.empty, splice]
  | cons rule rules => rw [transform, if_neg (by simp [h])]

/-- **The claims of a report are in order**, and the output is the text with each one replaced. -/
theorem transform_report (e : Engine) (text : String) :
    (ClaimMap.mk (e.transform text).1.claims).On text.toList ∧
      (e.transform text).1.output =
        String.ofList (splice 0 text.toList (e.transform text).1.claims) := by
  by_cases h : text = ""
  · rw [h, transform_empty]
    exact ⟨.empty _, rfl⟩
  · rw [transform_of_ne h]
    exact ⟨claimAll_on (.empty _), rfl⟩

end Engine

end FirstClaim
