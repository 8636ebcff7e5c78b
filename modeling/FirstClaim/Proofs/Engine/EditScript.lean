import FirstClaim.Proofs.Engine.Cuts

/-!
# The claims of a report as an edit script

Two readings of the claims, both on bytes and neither with a look at the rules:

* `spliceAll`: the replacements are spliced into the text, one claim after the other. What earlier
  claims have added and removed moves the place of the next one.
* `undo?`: a walk over the output takes off each replacement and puts back what the claim matched.
  It fails where the output is not as the claims say.

`transform_editScript`: the claims of every report lead from the text to the output and back, and
text and output hold the same pieces in the same order around the claims (`weave`).
-/

set_option autoImplicit false

namespace FirstClaim

open String (utf8Len)

/-! ## There -/

/-- The bytes with `inserted` in place of the `length` bytes at `position`. -/
def spliceAt (buffer : List UInt8) (position length : Nat) (inserted : List UInt8) : List UInt8 :=
  buffer.take position ++ inserted ++ buffer.drop (position + length)

/-- Splices the replacement of each claim over its span, in the order of the claims. Those before
have added `added` bytes and removed `removed` bytes. -/
def spliceAll (added removed : Nat) (buffer : List UInt8) : List Claim → List UInt8
  | [] => buffer
  | c :: cs =>
    spliceAll (added + c.replacement.utf8ByteSize) (removed + (c.stop - c.start))
      (spliceAt buffer (c.start + added - removed) (c.stop - c.start) (bytes c.replacement)) cs

/-! ## And back -/

/-- Walks over an output behind which the text stood at byte `position`: copies what lies before the
next claim, takes off the bytes of its replacement and puts what it matched in their place. -/
def undo? (position : Nat) (output : List UInt8) : List Claim → Option (List UInt8)
  | [] => some output
  | c :: cs =>
    let gap := c.start - position
    if position ≤ c.start ∧ gap ≤ output.length ∧
        (bytes c.replacement).isPrefixOf (output.drop gap) then
      (undo? c.stop ((output.drop gap).drop c.replacement.utf8ByteSize) cs).map fun rest =>
        output.take gap ++ (bytes c.matched ++ rest)
    else none

/-- Pieces with a text for each claim between them. -/
def weave (part : Claim → String) : List String → List Claim → String
  | kept :: pieces, c :: cs => kept ++ (part c ++ weave part pieces cs)
  | pieces, _ => pieces.headD ""

namespace Cuts

variable {position : Nat} {rest : List Char} {cs : List Claim}

/-- Behind what is done, splicing leaves what the substitution leaves. -/
theorem spliceAll_eq (h : Cuts position rest cs) : ∀ {added removed : Nat} {done : List UInt8},
    done.length + removed = position + added →
    spliceAll added removed (done ++ bytes (String.ofList rest)) cs =
      done ++ bytes (String.ofList (Engine.splice position rest cs)) := by
  induction h with
  | last => intros; rfl
  | @claim position c cs rest kept hstart hstop _ ih =>
    intro added removed done hdone
    have hlen : (bytes (String.ofList kept)).length = utf8Len kept :=
      String.utf8ByteSize_ofList kept
    have hmatched : (bytes c.matched).length = c.stop - c.start := by
      rw [length_bytes, ← String.utf8Len_toList]
      omega
    -- the place of the claim in the buffer is behind the piece that is kept
    have hplace : c.start + added - removed = (done ++ bytes (String.ofList kept)).length := by
      rw [List.length_append, hlen]
      omega
    rw [Engine.splice_claim rest cs hstart hstop, spliceAll, spliceAt]
    simp only [String.ofList_append, String.ofList_toList, bytes_append, ← List.append_assoc]
    rw [hplace, ← hmatched, ← List.length_append, List.append_assoc _ (bytes c.matched),
      List.take_left, ← List.append_assoc, List.drop_left]
    refine ih ?_
    simp only [List.length_append, length_bytes] at hlen hmatched ⊢
    omega

theorem undo?_eq (h : Cuts position rest cs) :
    undo? position (bytes (String.ofList (Engine.splice position rest cs))) cs =
      some (bytes (String.ofList rest)) := by
  induction h with
  | last => rfl
  | @claim position c cs rest kept hstart hstop _ ih =>
    have hgap : c.start - position = (bytes (String.ofList kept)).length := by
      rw [length_bytes, String.utf8ByteSize_ofList]
      omega
    rw [Engine.splice_claim rest cs hstart hstop, undo?]
    simp only [String.ofList_append, String.ofList_toList, bytes_append, hgap, List.drop_left,
      List.take_left, ← length_bytes c.replacement, ih]
    rw [if_pos]
    · rfl
    · refine ⟨by omega, by simp, ?_⟩
      rw [List.isPrefixOf_iff_prefix]
      exact List.prefix_append _ _

/-- The pieces that are kept are the same before and after the substitution. -/
theorem exists_weave (h : Cuts position rest cs) : ∃ pieces, pieces.length = cs.length + 1 ∧
    String.ofList rest = weave (·.matched) pieces cs ∧
    String.ofList (Engine.splice position rest cs) = weave (·.replacement) pieces cs := by
  induction h with
  | last position kept => exact ⟨[String.ofList kept], rfl, rfl, rfl⟩
  | @claim position c cs rest kept hstart hstop _ ih =>
    obtain ⟨pieces, hlen, hbefore, hafter⟩ := ih
    refine ⟨String.ofList kept :: pieces, by simp [hlen], ?_, ?_⟩
    · rw [weave, ← hbefore, String.ofList_append, String.ofList_append, String.ofList_toList]
    · rw [weave, ← hafter, Engine.splice_claim rest cs hstart hstop, String.ofList_append,
        String.ofList_append, String.ofList_toList]

end Cuts

/-- **The claims of a report are a complete and reversible edit script**: spliced into the text they
give the output, undone on the output they give the text, and nothing else moves. -/
theorem Engine.transform_editScript (e : Engine) (text : String) :
    spliceAll 0 0 (bytes text) (e.transform text).1.claims =
        bytes (e.transform text).1.output ∧
      undo? 0 (bytes (e.transform text).1.output) (e.transform text).1.claims =
        some (bytes text) ∧
      (∃ pieces, pieces.length = (e.transform text).1.claims.length + 1 ∧
        text = weave (·.matched) pieces (e.transform text).1.claims ∧
        (e.transform text).1.output = weave (·.replacement) pieces (e.transform text).1.claims) ∧
      ((e.transform text).1.claims = [] → (e.transform text).1.output = text) := by
  obtain ⟨hon, houtput⟩ := e.transform_report text
  have hcuts := hon.cuts
  have hsplice : spliceAll 0 0 ([] ++ _) _ = _ := hcuts.spliceAll_eq rfl
  have hundo := hcuts.undo?_eq
  have hweave := hcuts.exists_weave
  simp only [String.ofList_toList, List.nil_append, ← houtput] at hsplice hundo hweave
  refine ⟨hsplice, hundo, hweave, fun hnone => ?_⟩
  rw [houtput, hnone, splice, String.ofList_toList]

end FirstClaim
