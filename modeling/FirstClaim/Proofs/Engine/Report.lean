import FirstClaim.Proofs.Engine.Cuts

/-!
# What every report is like

`Report.WellFormed` gathers what may be relied upon in a report: the claims are not empty, in order,
disjoint and inside the text, they lie on character boundaries, each shows what stands in the text
between its ends, and it belongs to a rule that is not skipped; the rules skipped are listed in
order. `slice?` cuts a text only at offsets that are in order and on character boundaries, and
`render?` substitutes claims by such slices alone.

`transform_wellFormed`: every report is well formed, and no slice fails in its substitution.
-/

set_option autoImplicit false

namespace FirstClaim

open String (utf8Len)

/-- The text between two byte offsets, if these are in order and on character boundaries. -/
def slice? (text : String) (start stop : Nat) : Option String :=
  if h : (⟨start⟩ : String.Pos.Raw).IsValid text ∧ (⟨stop⟩ : String.Pos.Raw).IsValid text then
    if start ≤ stop then some (text.extract (text.pos ⟨start⟩ h.1) (text.pos ⟨stop⟩ h.2)) else none
  else none

/-- The text from byte `position` on with each claim replaced, if no slice fails. -/
def render? (text : String) (position : Nat) : List Claim → Option String
  | [] => slice? text position text.utf8ByteSize
  | c :: cs => do
    let kept ← slice? text position c.start
    let rest ← render? text c.stop cs
    return kept ++ c.replacement ++ rest

/-- What holds of a report on `text` after `rules` rules. -/
structure Report.WellFormed (r : Report) (text : String) (rules : Nat) : Prop where
  nonempty : ∀ c ∈ r.claims, c.start < c.stop
  increasing : r.claims.Pairwise (·.start < ·.start)
  disjoint : r.claims.Pairwise (·.stop ≤ ·.start)
  inside : ∀ c ∈ r.claims, c.stop ≤ text.utf8ByteSize
  boundaries : ∀ c ∈ r.claims,
    (⟨c.start⟩ : String.Pos.Raw).IsValid text ∧ (⟨c.stop⟩ : String.Pos.Raw).IsValid text
  matched : ∀ c ∈ r.claims, slice? text c.start c.stop = some c.matched
  owners : ∀ c ∈ r.claims, c.rule < rules ∧ ∀ s ∈ r.skipped, s.rule ≠ c.rule
  skipped : ∀ s ∈ r.skipped, s.rule < rules
  skippedIncreasing : r.skipped.Pairwise (·.rule < ·.rule)
  rendered : render? text 0 r.claims = some r.output

/-! ## Slices -/

theorem slice?_of_isPart {text : String} {start stop : Nat} {part : List Char}
    (h : IsPart text.toList start stop part) :
    slice? text start stop = some (String.ofList part) := by
  rw [slice?, dif_pos h.boundaries, if_pos h.start_le, Option.some.injEq,
    ← String.toByteArray_inj, String.toByteArray_extract]
  exact h.extract

/-- **No slice fails where claims cut a text.** -/
theorem Cuts.render {text : String} {position : Nat} {rest : List Char} {cs : List Claim}
    (h : Cuts position rest cs) : ∀ {before : List Char}, text.toList = before ++ rest →
      utf8Len before = position →
      render? text position cs = some (String.ofList (Engine.splice position rest cs)) := by
  induction h with
  | last position kept =>
    intro before htext hbefore
    rw [Engine.splice]
    refine slice?_of_isPart ⟨before, [], by simpa using htext, hbefore, ?_⟩
    rw [← String.utf8Len_toList, htext, String.utf8Len_append, hbefore]
  | @claim position c cs rest kept hstart hstop _ ih =>
    intro before htext hbefore
    have hslice : slice? text position c.start = some (String.ofList kept) :=
      slice?_of_isPart ⟨before, c.matched.toList ++ rest, by simpa using htext, hbefore, hstart⟩
    have hrest := ih (show text.toList = before ++ kept ++ c.matched.toList ++ rest by
      simpa using htext)
      (by rw [String.utf8Len_append, String.utf8Len_append, hbefore, hstart, hstop])
    rw [render?, hslice, hrest, Engine.splice_claim rest cs hstart hstop]
    simp [String.ofList_append, String.append_assoc]

/-! ## Reports -/

namespace Engine

theorem transform_owners {e : Engine} {text : String} {c : Claim}
    (hc : c ∈ (e.transform text).1.claims) :
    c.rule < e.rules.length ∧ ∀ s ∈ (e.transform text).1.skipped, s.rule ≠ c.rule := by
  by_cases h : text = ""
  · rw [h, transform_empty] at hc
    cases hc
  · rw [transform_of_ne h] at hc ⊢
    rcases mem_claimAll (.empty _) hc with hc | ⟨-, hrule, hskip⟩
    · cases hc
    · exact ⟨by omega, hskip⟩

/-- The rules skipped are rules of the engine, each listed once and in order. -/
theorem transform_skipped (e : Engine) (text : String) :
    (∀ s ∈ (e.transform text).1.skipped, s.rule < e.rules.length) ∧
      (e.transform text).1.skipped.Pairwise (·.rule < ·.rule) := by
  by_cases h : text = ""
  · rw [h, transform_empty]
    exact ⟨by simp [Report.passthrough], .nil⟩
  · rw [transform_of_ne h]
    refine ⟨fun s hs => ?_, claimAll_skipped⟩
    have := (mem_claimAll_skipped hs).2
    omega

/-- **Every report is well formed**, and its output can be put together without a slice that
fails. -/
theorem transform_wellFormed (e : Engine) (text : String) :
    (e.transform text).1.WellFormed text e.rules.length := by
  obtain ⟨hon, houtput⟩ := e.transform_report text
  obtain ⟨hskipped, hincreasing⟩ := e.transform_skipped text
  refine ⟨hon.nonempty, ?_, hon.apart, fun c hc => ?_, fun c hc => (hon.inside c hc).boundaries,
    fun c hc => ?_, fun c hc => transform_owners hc, hskipped, hincreasing, ?_⟩
  · refine hon.apart.imp_of_mem fun {c d} hc _ hcd => ?_
    exact Nat.lt_of_lt_of_le (hon.nonempty c hc) hcd
  · rw [← String.utf8Len_toList]
    exact (hon.inside c hc).stop_le
  · rw [slice?_of_isPart (hon.inside c hc), String.ofList_toList]
  · rw [houtput]
    exact hon.cuts.render (show text.toList = [] ++ text.toList from rfl) rfl

end Engine

end FirstClaim
