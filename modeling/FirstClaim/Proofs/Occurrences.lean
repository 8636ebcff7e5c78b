import FirstClaim.Proofs.Text

/-!
# Replacing all occurrences of a text

`replaceAll p r` goes over a text from left to right: where `p` stands it puts `r` and goes on
behind `p`, and every other character is kept.

* `replaceAll_occurrence`, `replaceAll_kept`: an occurrence is replaced, and what stands before the
  first one is kept. Any walk over a text that stops at each leftmost occurrence is compared with
  `replaceAll` by these two.
* `toList_replace`: `String.replace`, which searches with the help of a table, gives the same.
-/

set_option autoImplicit false

namespace FirstClaim

/-- The text with `r` in the place of each occurrence of `p`, from left to right. -/
def replaceAll (p r : List Char) : List Char → List Char
  | [] => []
  | c :: cs =>
    if p.isPrefixOf (c :: cs) then r ++ replaceAll p r (cs.drop (p.length - 1))
    else c :: replaceAll p r cs
termination_by cs => cs.length
decreasing_by all_goals simp +arith

section ReplaceAll

variable {p : List Char} (r : List Char)

theorem replaceAll_occurrence (hp : p ≠ []) (rest : List Char) :
    replaceAll p r (p ++ rest) = r ++ replaceAll p r rest := by
  obtain ⟨c, cs, rfl⟩ := List.exists_cons_of_ne_nil hp
  have hstarts : (c :: cs).isPrefixOf (c :: (cs ++ rest)) = true :=
    List.isPrefixOf_iff_prefix.2 (List.prefix_append (c :: cs) rest)
  have hrest : (cs ++ rest).drop ((c :: cs).length - 1) = rest := List.drop_left
  rw [List.cons_append, replaceAll, if_pos hstarts, hrest]

theorem replaceAll_kept {kept rest : List Char}
    (h : ∀ a b, kept = a ++ b → b ≠ [] → ¬ p <+: b ++ rest) :
    replaceAll p r (kept ++ rest) = kept ++ replaceAll p r rest := by
  induction kept with
  | nil => rfl
  | cons c kept ih =>
    have hnone : ¬ p.isPrefixOf (c :: (kept ++ rest)) = true := fun hp =>
      h [] (c :: kept) rfl (List.cons_ne_nil c kept) (List.isPrefixOf_iff_prefix.1 hp)
    have hmore : ∀ a b, kept = a ++ b → b ≠ [] → ¬ p <+: b ++ rest := fun a b hab =>
      h (c :: a) b (congrArg (c :: ·) hab)
    rw [List.cons_append, replaceAll, if_neg hnone, ih hmore, List.cons_append]

theorem replaceAll_none {cs : List Char}
    (h : ∀ a b, cs = a ++ b → ¬ p <+: b) : replaceAll p r cs = cs := by
  have hnone : ∀ a b, cs = a ++ b → b ≠ [] → ¬ p <+: b ++ [] := fun a b hab _ => by
    rw [List.append_nil]
    exact h a b hab
  have hkept := replaceAll_kept r hnone
  rwa [replaceAll, List.append_nil] at hkept

end ReplaceAll

/-! ## The search of `String.replace` -/

open String.Slice.Pattern String.Slice.Pattern.Model

/-- What `String.replace` does with one step of a search. -/
def replaceStep (r : String) {s : String.Slice} (acc : String) : SearchStep s → String
  | .matched _ _ => acc ++ r.toSlice
  | .rejected start stop => acc ++ s.slice! start stop

/-- No occurrence begins in a part of a text that a search rejects. -/
theorem not_prefix_of_rejected {p : String} {s : String.Slice} {start stop : s.Pos}
    {front kept back : String} (hstart : start.Splits front (kept ++ back))
    (hstop : stop.Splits (front ++ kept) back)
    (hnone : ∀ pos, start ≤ pos → pos < stop → ¬ MatchesAt p pos) {a b : List Char}
    (hab : kept.toList = a ++ b) (hb : b ≠ []) : ¬ p.toList <+: b ++ back.toList := by
  rintro ⟨more, hmore⟩
  obtain rfl : kept = String.ofList a ++ String.ofList b := by
    rw [← String.ofList_append, ← hab, String.ofList_toList]
  rw [String.append_assoc] at hstart
  rw [← String.append_assoc] at hstop
  have hbegin := hstart.splits_rotateRight
  have hle : start ≤ hstart.rotateRight :=
    (hstart.le_iff_exists_eq_append hbegin).2 ⟨String.ofList a, rfl, rfl⟩
  have hlt : hstart.rotateRight < stop :=
    (hbegin.lt_iff_exists_eq_append hstop).2 ⟨String.ofList b, by simpa using hb, rfl, rfl⟩
  have hright : p ++ String.ofList more = String.ofList b ++ back :=
    String.toList_inj.1 (by simpa using hmore)
  have hmatches := ForwardStringSearcher.matchesAt_iff_splits.2 ⟨_, _, hbegin.of_eq rfl hright.symm⟩
  exact hnone _ hle hlt hmatches

/-- What a search rejects is kept and what it matches is replaced. -/
theorem toList_foldl_replaceStep {p : String} (hp : p ≠ "") (r : String) {s : String.Slice}
    {pos : s.Pos} {steps : List (SearchStep s)} (h : IsValidSearchFrom p pos steps)
    {front back : String} (hpos : pos.Splits front back) (acc : String) :
    (steps.foldl (replaceStep r) acc).toList =
      acc.toList ++ replaceAll p.toList r.toList back.toList := by
  have hne : p.toList ≠ [] := fun hnil => hp (String.toList_eq_nil_iff.1 hnil)
  induction h generalizing front back acc with
  | endPos =>
    obtain rfl : back = "" := hpos.eq_right s.splits_endPos
    simp [replaceAll]
  | @matched steps start stop hmatch _ ih =>
    obtain ⟨before, behind, hstart, hstop⟩ :=
      ForwardStringSearcher.isLongestMatchAt_iff_splits.1 hmatch
    obtain rfl : back = p ++ behind := hpos.eq_right hstart
    rw [List.foldl_cons, ih hstop, String.toList_append, replaceAll_occurrence _ hne]
    simp [replaceStep]
  | @mismatched steps start stop hlt hnone _ ih =>
    obtain ⟨kept, -, hfront, rfl⟩ := (hpos.lt_iff_exists_eq_append stop.splits).1 hlt
    have hstop := hfront ▸ stop.splits
    have hkept : (s.slice! start stop).copy = kept := by
      obtain ⟨hle, hcopy⟩ := String.Slice.copy_slice_eq_iff_splits.2 ⟨_, _, hpos, hstop⟩
      rw [← String.Slice.slice_eq_slice!, hcopy]
      exact hle
    have hrejected : ∀ a b, kept.toList = a ++ b → b ≠ [] →
        ¬ p.toList <+: b ++ (s.sliceFrom stop).copy.toList :=
      fun a b hab hb => not_prefix_of_rejected hpos hstop hnone hab hb
    rw [List.foldl_cons, ih stop.splits, String.toList_append, replaceAll_kept _ hrejected]
    simp [replaceStep, hkept]

/-- **`String.replace` replaces all occurrences**, from left to right. -/
theorem toList_replace {p : String} (hp : p ≠ "") (r t : String) :
    (t.replace p r).toList = replaceAll p.toList r.toList t.toList := by
  have hlawful := ForwardStringSearcher.lawfulToForwardSearcherModel hp
  have hsteps := toList_foldl_replaceStep hp r (hlawful.isValidSearchFrom_toList t.toSlice)
    t.toSlice.splits_startPos ""
  have hreplace : t.replace p r =
      (ToForwardSearcher.toSearcher p t.toSlice).toList.foldl (replaceStep r) "" := by
    unfold String.replace String.Slice.replace
    rw [← Std.Iter.foldl_toList]
    congr 1
    funext acc step
    cases step <;> rfl
  rw [hreplace, hsteps]
  simp

end FirstClaim
