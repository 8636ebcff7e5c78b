import FirstClaim.Pattern
import FirstClaim.Proofs.Regex.Finds
import FirstClaim.Proofs.Occurrences

/-!
# Patterns without signs

A source in which no character is a sign (`isSign`) stands for its characters.

* `Reader.Spells`: what a reader has read so far are the characters one after the other; each step
  keeps this (`Spells.step`), so the whole source is read in this way (`read_signless`).
* `Ast.interpret_spells`: the meaning of such a pattern is a literal. Together these give
  `node_of_signless`.
-/

set_option autoImplicit false

namespace FirstClaim.Regex

/-- A character that may stand for something else than itself in the source of a pattern. -/
def isSign (c : Char) : Bool :=
  ['\\', '.', '+', '*', '?', '(', ')', '|', '[', ']', '{', '}', '^', '$'].contains c

/-! ## Reading -/

/-- The patterns are the characters one after the other. -/
def Ast.Spell (parts : List Ast) (cs : List Char) : Prop :=
  List.Forall₂ (fun a c => ∃ span, a = .literal ⟨span, c, false⟩) parts cs

namespace Reader

variable {r : Reader} {done : List Char} {c : Char} {cs : List Char}

/-- A reader has read characters that stand for themselves, and nothing else. -/
structure Spells (r : Reader) (done : List Char) : Prop where
  parts : Ast.Spell r.parts.parts.reverse done
  frames : r.frames = []
  verbose : r.source.verbose = false

theorem readAtom_of_signless {s : Source} (hrest : s.rest = c :: cs) (hc : isSign c = false) :
    readAtom s = .ok (.literal ⟨s.charSpan, c, false⟩, s.bump) := by
  have hnone : ∀ d ds, isSign d = true → s.rest ≠ d :: ds := by
    intro d ds hd heq
    obtain ⟨rfl, -⟩ := List.cons.inj (hrest.symm.trans heq)
    exact Bool.noConfusion (hc.symm.trans hd)
  unfold readAtom
  split
  · exact absurd ‹_› (hnone _ _ rfl)
  · exact absurd ‹_› (hnone _ _ rfl)
  · exact absurd ‹_› (hnone _ _ rfl)
  · exact absurd ‹_› (hnone _ _ rfl)
  · rename_i heq
    obtain ⟨rfl, -⟩ := List.cons.inj (hrest.symm.trans heq)
    rfl
  · rename_i heq
    cases hrest.symm.trans heq

theorem step_of_signless (hrest : r.source.rest = c :: cs) (hc : isSign c = false) :
    r.step c = .ok { r with
      source := r.source.bump
      parts := r.parts.push (.literal ⟨r.source.charSpan, c, false⟩) } := by
  unfold Reader.step
  split
  case h_9 =>
    rw [readAtom_of_signless hrest hc]
    rfl
  all_goals cases hc

/-- **A character that is no sign is read as itself.** -/
theorem Spells.step (h : r.Spells done) (hrest : r.source.rest = c :: cs)
    (hc : isSign c = false) :
    ∃ r', r.step c = .ok r' ∧ r'.Spells (done ++ [c]) ∧ r'.source.rest = cs := by
  refine ⟨_, step_of_signless hrest hc, ⟨?_, h.frames, ?_⟩, ?_⟩
  · rw [PartRun.push, List.reverse_cons]
    exact List.rel_append h.parts (.cons ⟨_, rfl⟩ .nil)
  · simp [Source.bump, hrest, h.verbose]
  · simp [Source.bump, hrest]

/-- **The rest of a source without signs** is read character by character. -/
theorem Spells.run (h : r.Spells done) {n : Nat} (hn : r.source.rest.length ≤ n)
    (hrest : ∀ c ∈ r.source.rest, isSign c = false) :
    ∃ parts stop, Reader.run n r = .ok (PartRun.toAst parts stop) ∧
      Ast.Spell parts.parts.reverse (done ++ r.source.rest) := by
  have hfinish : ∀ r : Reader, r.frames = [] → r.finish = .ok (r.parts.toAst r.source.pos) :=
    fun r hframes => by rw [finish, closeBranches, hframes]
  induction n generalizing r done with
  | zero =>
    have hnil := List.eq_nil_of_length_eq_zero (Nat.le_zero.1 hn)
    refine ⟨r.parts, r.source.pos, hfinish r h.frames, ?_⟩
    rw [hnil, List.append_nil]
    exact h.parts
  | succ n ih =>
    have hskip : { r with source := r.source.skip } = r := by simp [Source.skip, h.verbose]
    rw [Reader.run, hskip]
    cases hcs : r.source.rest with
    | nil =>
      refine ⟨r.parts, r.source.pos, hfinish r h.frames, ?_⟩
      rw [List.append_nil]
      exact h.parts
    | cons c cs =>
      rw [hcs] at hrest hn
      obtain ⟨hc, hmore⟩ := List.forall_mem_cons.1 hrest
      obtain ⟨r', hstep, hspells, hrest'⟩ := h.step hcs hc
      dsimp only
      rw [hstep]
      have hread := ih hspells (by rw [hrest']; exact Nat.le_of_succ_le_succ hn)
        (by rw [hrest']; exact hmore)
      rw [hrest', List.append_assoc] at hread
      exact hread

end Reader

/-- **A source without signs is read as its characters**, one after the other. -/
theorem run_signless {source : String} (h : ∀ c ∈ source.toList, isSign c = false) :
    ∃ parts stop, Reader.run (source.length + 1) (Reader.start source) =
        .ok (PartRun.toAst parts stop) ∧
      Ast.Spell parts.parts.reverse source.toList :=
  Reader.Spells.run (r := Reader.start source) ⟨.nil, rfl, rfl⟩
    (Nat.le_succ_of_le String.length_toList.le) h

/-! ## Meaning -/

section Meaning

variable {parts : List Ast} {cs : List Char}

theorem Mode.literal_eq {m : Mode} (hm : m.caseInsensitive = false) (span : Span) (c : Char) :
    m.literal ⟨span, c, false⟩ = .ok (.literal [c]) := by
  simp [Mode.literal, Mode.fold, hm, Node.ofSet, CharSet.single?, CharSet.singleton,
    CharSet.range]

theorem Ast.Spell.interpretAll (h : Ast.Spell parts cs) {m : Mode}
    (hm : m.caseInsensitive = false) :
    Ast.interpretAll m parts = .ok (cs.map fun c => .literal [c], m) := by
  induction h with
  | nil => rw [Ast.interpretAll, List.map_nil]
  | cons ha _ ih =>
    obtain ⟨span, rfl⟩ := ha
    rw [Ast.interpretAll, Ast.interpretFrom, Mode.literal_eq hm]
    simp only [bind, Except.bind, ih, List.map_cons]

theorem Ast.checkDepth_literal (limit depth : Nat) (lit : Literal) :
    (Ast.literal lit).checkDepth limit depth = .ok () := by
  simp [Ast.checkDepth]

theorem Ast.Spell.checkDepths (h : Ast.Spell parts cs) (limit depth : Nat) :
    Ast.checkDepths limit depth parts = .ok () := by
  induction h with
  | nil => rw [Ast.checkDepths]
  | cons ha _ ih =>
    obtain ⟨span, rfl⟩ := ha
    rw [Ast.checkDepths, Ast.checkDepth_literal]
    exact ih

theorem Node.concat_literals (c : Char) (cs : List Char) :
    Node.concat ((c :: cs).map fun c => .literal [c]) = .literal (c :: cs) := by
  have hjoin : (((c :: cs).map fun c => Node.literal [c]).flatMap factors).foldr consFactor [] =
      [.literal (c :: cs)] := by
    induction cs generalizing c with
    | nil => rfl
    | cons d cs ih =>
      rw [List.map_cons, List.flatMap_cons, List.foldr_append, ih]
      rfl
  rw [concat, hjoin, ofFactors]

/-- **Characters one after the other mean themselves.** -/
theorem PartRun.interpret_toAst {parts : PartRun} (h : Ast.Spell parts.parts.reverse cs)
    (hcs : cs ≠ []) (stop : Position) {m : Mode} (hm : m.caseInsensitive = false) :
    (parts.toAst stop).checkDepth nestLimit 0 = .ok () ∧
      (parts.toAst stop).interpret m = .ok (.literal cs) := by
  unfold toAst
  split
  · rename_i hparts
    rw [hparts] at h
    cases h
    exact absurd rfl hcs
  · rename_i a hparts
    rw [hparts, List.reverse_singleton] at h
    obtain ⟨c, rest, ⟨span, rfl⟩, hrest, rfl⟩ := List.forall₂_cons_left_iff.1 h
    obtain rfl := List.forall₂_nil_left_iff.1 hrest
    refine ⟨Ast.checkDepth_literal _ _ _, ?_⟩
    rw [Ast.interpret, Ast.interpretFrom, Mode.literal_eq hm]
    rfl
  · obtain ⟨c, cs, rfl⟩ := List.exists_cons_of_ne_nil hcs
    refine ⟨?_, ?_⟩
    · rw [Ast.checkDepth, h.checkDepths]
      rfl
    · rw [Ast.interpret, Ast.interpretFrom, h.interpretAll hm, ← Node.concat_literals]
      rfl

end Meaning

/-- **The pattern of a source without signs is a literal.** -/
theorem node_of_signless {source : String} (hne : source ≠ "")
    (h : ∀ c ∈ source.toList, isSign c = false) {regex : Regex}
    (hbuild : (Pattern.source source).build = .ok regex) :
    regex.node = .literal source.toList := by
  obtain ⟨parts, stop, hrun, hspell⟩ := run_signless h
  have hcs : source.toList ≠ [] := fun hnil => hne (String.toList_eq_nil_iff.1 hnil)
  obtain ⟨hdepth, hmeaning⟩ := PartRun.interpret_toAst hspell hcs stop
    (m := Pattern.mode source) rfl
  have hnode : Node.ofSource (Pattern.mode source) source = .ok (.literal source.toList) := by
    rw [Node.ofSource, Ast.read, hrun]
    simp only [bind, Except.bind, hdepth, hmeaning]
  have hempty : (Pattern.source source).isEmpty = false := by
    simpa [Pattern.isEmpty, Pattern.text] using hne
  rw [Pattern.build, hempty, Pattern.text, Regex.build, hnode] at hbuild
  by_cases hweight : (Node.literal source.toList).weight ≤ weightLimit
  · simp [hweight] at hbuild
    exact hbuild ▸ rfl
  · simp [hweight] at hbuild

/-! ## Matching -/

section Matching

variable {p : List Char} {text : List Char} {q s : Place} {t : Thread}

theorem attempt_literal_eq_none (h : (Node.literal p).attempt q = none) : ¬ p <+: q.after := by
  intro hp
  obtain ⟨e, es, hends⟩ := List.exists_cons_of_ne_nil (readAll_ne_nil (e := (q, [])) hp)
  rw [Node.attempt, Node.ends, hends] at h
  cases h

theorem attempt_literal_eq_some (h : (Node.literal p).attempt q = some t) :
    q.after = p ++ t.place.after ∧ t.slots = [] := by
  obtain ⟨e, he, rfl⟩ := Node.mem_ends_of_attempt h
  exact mem_readAll he

/-- Where a literal is not found from a place on, it does not stand behind it. -/
theorem firstFrom_literal_eq_none
    (h : Program.firstFrom (Node.literal p).attempt q = none) {a b : List Char}
    (hab : q.after = a ++ b) : ¬ p <+: b := by
  fun_induction Program.firstFrom (Node.literal p).attempt q generalizing a with
  | case1 => cases h
  | case2 q hattempt hafter =>
    obtain ⟨rfl, rfl⟩ := List.append_eq_nil_iff.1 (hab.symm.trans hafter)
    exact hafter ▸ attempt_literal_eq_none hattempt
  | case3 q hattempt hafter _ ih =>
    cases a with
    | nil =>
      rw [List.nil_append] at hab
      exact hab ▸ attempt_literal_eq_none hattempt
    | cons c a => exact ih h (a := a) (by simp [Place.advance, hab])

theorem firstFrom_literal_eq_some
    (h : Program.firstFrom (Node.literal p).attempt q = some (s, t)) :
    ∃ kept, q.after = kept ++ s.after ∧
      ∀ a b, kept = a ++ b → b ≠ [] → ¬ p <+: b ++ s.after := by
  fun_induction Program.firstFrom (Node.literal p).attempt q with
  | case1 q t' hattempt =>
    obtain ⟨rfl, rfl⟩ := Prod.mk.inj (Option.some.inj h)
    exact ⟨[], rfl, fun a b hab hb => absurd (List.append_eq_nil_iff.1 hab.symm).2 hb⟩
  | case2 => cases h
  | case3 q hattempt hafter _ ih =>
    obtain ⟨kept, hkept, hnone⟩ := ih h
    obtain ⟨c, cs, hc⟩ := List.exists_cons_of_ne_nil hafter
    have hall : q.after = c :: kept ++ s.after := by
      rw [List.cons_append, ← hkept, hc]
      simp [Place.advance, hc]
    refine ⟨c :: kept, hall, fun a b hab hb => ?_⟩
    cases a with
    | nil =>
      rw [List.nil_append] at hab
      rw [← hab, ← hall]
      exact attempt_literal_eq_none hattempt
    | cons d a => exact hnone a b (List.cons.inj hab).2 hb

end Matching

end FirstClaim.Regex
