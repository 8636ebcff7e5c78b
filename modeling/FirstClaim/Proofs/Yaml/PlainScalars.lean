import FirstClaim.Proofs.Yaml.Gaps

/-!
# Reading back plain scalars

A plain scalar consists of words with spaces between them. It is read word by word, and it ends with
its line, since the next line is indented less than it would have to be (`readPlain_text`). The name
of a member ends before its colon (`readPlain_name`).
-/

set_option autoImplicit false

namespace FirstClaim.Yaml

/-! ## Indicators -/

/-- Indicators that are not found in a text stand nowhere behind its first character. -/
theorem inner_split {cs a b : List Char} {c d : Char} (h : hasInnerIndicator cs = false)
    (hcs : cs = a ++ c :: d :: b) :
    (d = ':' → startsBlank b = false) ∧ (d = '#' → isVisible c = true) := by
  induction a generalizing cs with
  | nil =>
    subst hcs
    simp only [List.nil_append, hasInnerIndicator, Bool.or_eq_false_iff, Bool.and_eq_false_iff,
      decide_eq_false_iff_not] at h
    refine ⟨fun hd => h.1.1.resolve_left (· hd), fun hd => ?_⟩
    exact isVisible_iff.2 (h.1.2.resolve_left (· hd))
  | cons x a ih =>
    subst hcs
    cases a with
    | nil =>
      simp only [List.cons_append, List.nil_append, hasInnerIndicator, Bool.or_eq_false_iff] at h
      exact ih (by simpa [hasInnerIndicator] using h.2) rfl
    | cons y a =>
      simp only [List.cons_append, hasInnerIndicator, Bool.or_eq_false_iff] at h
      exact ih h.2 rfl

theorem inner_suffix (a : List Char) {b : List Char} (h : hasInnerIndicator (a ++ b) = false) :
    hasInnerIndicator b = false := by
  induction a with
  | nil => exact h
  | cons c a ih =>
    refine ih ?_
    cases hab : a ++ b with
    | nil => rfl
    | cons d rest =>
      rw [List.cons_append, hab, hasInnerIndicator, Bool.or_eq_false_iff] at h
      exact h.2

/-! ## Words -/

theorem plainRun_word {w : List Char} (hw : ∀ c ∈ w, isVisible c = true) (rest : List Char)
    (hcolon : ∀ a b, w = a ++ ':' :: b → startsBlank (b ++ rest) = false)
    (hrest : ∀ before m, plainRun false before m rest = .ok (before, ⟨rest, m⟩))
    (before : List Char) (m : Mark) : plainRun false before m (w ++ rest) =
      .ok (w.reverse ++ before, ⟨rest, m.forward w.length⟩) := by
  induction w generalizing before m with
  | nil => exact hrest before m
  | cons c w ih =>
    obtain ⟨hblank, hbreak⟩ := isVisible_iff.1 (hw c (.head _))
    have hc : (decide (c = ':') && startsBlank (w ++ rest)) = false := by
      by_cases h : c = ':'
      · subst h
        simpa using hcolon [] w rfl
      · simp [h]
    rw [List.cons_append, plainRun]
    simp only [hblank, hbreak, hc, Bool.or_self, Bool.false_and, Bool.false_eq_true, if_false]
    rw [ih (fun d hd => hw d (.tail _ hd)) fun a b hab => hcolon (c :: a) b (by rw [hab]; rfl)]
    simp

/-! ## Scalars -/

/-- A text that can be read as the rest of a plain scalar, from the first character of a word on. -/
structure PlainRest (cs : List Char) : Prop where
  chars : ∀ c ∈ cs, isPrintable c = true ∧ isBreak c = false
  starts : cs.head?.any (fun c => isVisible c && decide (c ≠ '#')) = true
  colon : ∀ rest, cs = ':' :: rest → startsBlank rest = false
  inner : hasInnerIndicator cs = false
  ends : cs.getLast? ≠ some ' '

theorem PlainRest.behind_spaces {cs before rest : List Char} {n : Nat} (h : PlainRest cs)
    (hcs : cs = before ++ (spaces (n + 1) ++ rest)) (hrest : rest ≠ [])
    (hvisible : startsVisible rest = true) : PlainRest rest := by
  obtain ⟨x, xs, rfl⟩ := List.exists_cons_of_ne_nil hrest
  have hsplit : cs = (before ++ spaces n) ++ ' ' :: x :: xs := by
    rw [hcs, spaces, List.replicate_succ']
    simp [spaces]
  obtain ⟨hcolon, hnumber⟩ := inner_split h.inner hsplit
  refine ⟨fun c hc => h.chars c (by rw [hcs]; simp [hc]), ?_, fun rest hx => ?_, ?_, ?_⟩
  · have hx : x ≠ '#' := fun hx => absurd (hnumber hx) (by decide)
    have hxVisible : isVisible x = true := hvisible
    simp [hxVisible, hx]
  · cases hx
    exact hcolon rfl
  · exact inner_suffix (before ++ spaces (n + 1)) (by rw [← h.inner, hcs, List.append_assoc])
  · have hends := h.ends
    rw [hsplit] at hends
    simpa using hends

/-- A word and what is behind the spaces behind it. -/
theorem PlainRest.split {cs : List Char} (h : PlainRest cs) : ∃ x w n rest,
    cs = x :: w ++ (spaces n ++ rest) ∧ (∀ c ∈ x :: w, isVisible c = true) ∧ x ≠ '#' ∧
      (∀ a b, x :: w = a ++ ':' :: b → startsBlank (b ++ (spaces n ++ rest)) = false) ∧
      startsVisible rest = true ∧ (rest = [] ∧ n = 0 ∨ 0 < n ∧ PlainRest rest) := by
  obtain ⟨run, gap, rest, hcs, hrun, hgap, hrest, hempty⟩ := exists_run_gap isVisible cs
  have hspaces : gap = spaces gap.length := by
    refine List.eq_replicate_of_mem fun c hc => ?_
    obtain ⟨hprintable, hbreak⟩ := h.chars c (by rw [hcs]; simp [hc])
    have hspace : isBlank c = true := by simpa [isVisible, hbreak] using hgap c hc
    rw [isBlank_eq_isSpace hprintable] at hspace
    exact of_decide_eq_true hspace
  generalize gap.length = n at hspaces
  subst hspaces
  have hvisible : startsVisible rest = true := by
    cases rest with
    | nil => rfl
    | cons c rest => simpa [startsVisible] using hrest
  have hstarts := h.starts
  cases run with
  | nil =>
    -- the text begins with a word
    exfalso
    cases n with
    | zero => simp [hcs, hempty rfl, spaces] at hstarts
    | succ n =>
      rw [hcs] at hstarts
      simp [spaces_succ, isVisible, isBlank] at hstarts
  | cons x w =>
    have hx : x ≠ '#' := by
      rw [hcs] at hstarts
      simpa [hrun x (.head _)] using hstarts
    refine ⟨x, w, n, rest, hcs, hrun, hx, fun a b hab => ?_, hvisible, ?_⟩
    · rw [hab] at hcs
      rcases List.eq_nil_or_concat a with rfl | ⟨a, c, rfl⟩
      · exact h.colon _ (by simpa using hcs)
      · exact (inner_split (a := a) (c := c) h.inner (by simpa using hcs)).1 rfl
    · by_cases hnil : rest = []
      · refine .inl ⟨hnil, ?_⟩
        cases n with
        | zero => rfl
        | succ n =>
          refine absurd ?_ h.ends
          rw [hcs, hnil, List.append_nil, spaces, List.replicate_succ', ← List.append_assoc]
          exact List.getLast?_concat
      · obtain ⟨n, rfl⟩ : ∃ k, n = k + 1 :=
          Nat.exists_eq_add_one.2 (Nat.pos_of_ne_zero fun hn => hnil (hempty (hn ▸ rfl)))
        exact .inr ⟨Nat.succ_pos n, h.behind_spaces hcs hnil hvisible⟩

theorem plainRun_blank {c : Char} (h : isVisible c = false) (before rest : List Char) (m : Mark) :
    plainRun false before m (c :: rest) = .ok (before, ⟨c :: rest, m⟩) := by
  have hc : (isBlank c || isBreak c) = true := by
    simpa only [isVisible, Bool.not_eq_eq_eq_not, Bool.not_false] using h
  rw [plainRun, if_pos hc]

/-- A word of a plain scalar is read together with the gap behind it. -/
theorem plainRuns_word {indent fuel : Nat} {start stop m m₁ m₂ : Mark}
    {before rest rest' w : List Char} {x : Char} {gap gap' : Gap}
    (hindicator : (⟨x :: w ++ rest, m⟩ : Cursor).atDocumentIndicator = false) (hx : x ≠ '#')
    (hrun : plainRun false [] m (x :: w ++ rest) =
      .ok ((x :: w).reverse ++ [], ⟨rest, m₁⟩))
    (hgap : Gap.read indent {} m₁ rest = (gap', ⟨rest', m₂⟩)) (htab : gap'.tab = none) :
    plainRuns false indent start (fuel + 1) before gap stop ⟨x :: w ++ rest, m⟩ =
      if m₂.column < indent then
        .ok (⟨String.ofList (before.reverse ++ (gap.text ++ x :: w)), m₁, gap'.broken⟩, ⟨rest', m₂⟩)
      else plainRuns false indent start fuel ((x :: w).reverse ++ (gap.text.reverse ++ before)) gap'
        m₁ ⟨rest', m₂⟩ := by
  obtain ⟨y, ys, hy⟩ : ∃ y ys, (x :: w).reverse = y :: ys :=
    List.exists_cons_of_ne_nil (by simp)
  have hnumber : (⟨x :: w ++ rest, m⟩ : Cursor).head? ≠ some '#' := by
    simpa [Cursor.head?] using hx
  rw [plainRuns, hindicator, if_neg (by simpa using hnumber)]
  dsimp only
  rw [hrun, List.append_nil, hy]
  dsimp only
  rw [hgap]
  dsimp only
  rw [htab, ← hy]
  by_cases hcolumn : m₂.column < indent <;> simp [Cursor.column, hcolumn]

/-- **A plain scalar is read up to the end of its line**, where the next line is indented less. -/
theorem plainRuns_text {cs : List Char} (h : PlainRest cs) {indent k : Nat} {rest : List Char}
    (hk : k < indent) (hrest : startsVisible rest = true) (start : Mark) {fuel : Nat}
    (hfuel : cs.length < fuel) (before : List Char) (gap : Gap) (stop : Mark) {m : Mark}
    (hm : 0 < m.column) (hindent : indent ≤ m.column) : ∃ stop' m', m'.column = k ∧
      plainRuns false indent start fuel before gap stop ⟨cs ++ '\n' :: (spaces k ++ rest), m⟩ =
        .ok (⟨String.ofList (before.reverse ++ (gap.text ++ cs)), stop', true⟩, ⟨rest, m'⟩) := by
  induction fuel generalizing cs before gap stop m with
  | zero => exact absurd hfuel (Nat.not_lt_zero _)
  | succ fuel ih =>
    obtain ⟨x, w, n, tail, rfl, hw, hx, hcolon, hvisible, htail⟩ := h.split
    rcases htail with ⟨rfl, rfl⟩ | ⟨hn, htail⟩
    · -- the last word
      have htext : x :: w ++ (spaces 0 ++ []) = x :: w := by simp [spaces]
      have hclear : ∀ a b, x :: w = a ++ ':' :: b →
          startsBlank (b ++ '\n' :: (spaces k ++ rest)) = false := by
        intro a b hab
        have hblank := hcolon a b hab
        cases b with
        | nil => cases hblank
        | cons y b => exact hblank
      have hrun := plainRun_word hw _ hclear (plainRun_blank rfl · _) [] m
      obtain ⟨m', hm', hgap⟩ := Gap.read_newLine indent k (m.forward (x :: w).length) hrest
      refine ⟨m.forward (x :: w).length, m', hm', ?_⟩
      rw [htext, plainRuns_word (Cursor.not_atDocumentIndicator hm) hx hrun hgap rfl,
        if_pos (show m'.column < indent from hm' ▸ hk)]
    · -- another word stands behind spaces
      obtain ⟨n, rfl⟩ := Nat.exists_eq_add_one.2 hn
      have htext : x :: w ++ (spaces (n + 1) ++ tail) ++ '\n' :: (spaces k ++ rest) =
          x :: w ++ (spaces (n + 1) ++ (tail ++ '\n' :: (spaces k ++ rest))) := by simp
      have hclear : ∀ a b, x :: w = a ++ ':' :: b →
          startsBlank (b ++ (spaces (n + 1) ++ (tail ++ '\n' :: (spaces k ++ rest)))) = false := by
        intro a b hab
        have hblank := hcolon a b hab
        cases b with
        | nil => exact hblank
        | cons y b => exact hblank
      have hbehind : startsVisible (tail ++ '\n' :: (spaces k ++ rest)) = true := by
        cases tail with
        | nil => cases htail.starts
        | cons y tail => exact hvisible
      have hrun := plainRun_word hw _ hclear (plainRun_blank rfl · _) [] m
      have hgap := Gap.read_spaces_visible indent (n + 1) (m.forward (x :: w).length) hbehind
      have hshort : tail.length < fuel := by
        simp at hfuel
        omega
      have hcolumn : indent ≤ ((m.forward (x :: w).length).forward (n + 1)).column := by
        simp
        omega
      obtain ⟨stop', m', hm', hread⟩ := ih htail hshort
        ((x :: w).reverse ++ (gap.text.reverse ++ before)) { blanks := spaces (n + 1) }
        (m.forward (x :: w).length) (Nat.lt_of_lt_of_le hm (by simp)) hcolumn
      refine ⟨stop', m', hm', ?_⟩
      rw [htext, plainRuns_word (Cursor.not_atDocumentIndicator hm) hx hrun hgap rfl,
        if_neg (Nat.not_lt.2 hcolumn), hread]
      simp [Gap.text]

theorem plainRest_of_allowsPlain {cs : List Char} (h : allowsPlain cs = true) : PlainRest cs := by
  simp only [allowsPlain, needsEscapes, hasAtEnd, Bool.not_eq_true', Bool.or_eq_false_iff,
    List.any_eq_false, Bool.not_eq_true', Bool.not_eq_false] at h
  obtain ⟨⟨⟨⟨⟨hempty, hprintable, -⟩, hbreak⟩, hfirst, hlast⟩, hleading⟩, hinner⟩ := h
  cases cs with
  | nil => cases hempty
  | cons x cs =>
    have hx : isVisible x = true := by
      have hspace : isSpace x = false := hfirst
      have hxPrintable := hprintable x (.head _)
      rw [isVisible_iff, isBlank_eq_isSpace hxPrintable]
      exact ⟨hspace, by simpa using hbreak x (.head _)⟩
    have hnumber : x ≠ '#' := by
      rintro rfl
      simp [hasLeadingIndicator, isIndicator] at hleading
    refine ⟨fun c hc => ⟨hprintable c hc, by simpa using hbreak c hc⟩, ?_, ?_, hinner, ?_⟩
    · simp [hx, hnumber]
    · rintro rest heq
      cases heq
      simp only [hasLeadingIndicator, Bool.or_eq_false_iff] at hleading
      simpa using hleading.1.1.2
    · intro hspace
      rw [hspace] at hlast
      cases hlast

section

variable {indent k : Nat} {rest : List Char} {m : Mark}

/-- **A text that is written plainly is read as that text**, up to the token in the next line. -/
theorem readPlain_text {cs : List Char} (h : allowsPlain cs = true) (hk : k < indent)
    (hrest : startsVisible rest = true) (hm : 0 < m.column) (hindent : indent ≤ m.column) :
    ∃ stop m', m'.column = k ∧ readPlain false indent ⟨cs ++ '\n' :: (spaces k ++ rest), m⟩ =
      .ok (⟨String.ofList cs, stop, true⟩, ⟨rest, m'⟩) := by
  have hfuel : cs.length < (cs ++ '\n' :: (spaces k ++ rest)).length + 1 := by
    rw [List.length_append]
    omega
  obtain ⟨stop, m', hm', hread⟩ := plainRuns_text (plainRest_of_allowsPlain h) hk hrest m hfuel
    [] {} m hm hindent
  exact ⟨stop, m', hm', by simpa [readPlain, Gap.text] using hread⟩

/-! ## Names -/

/-- A name that members have: lower-case letters, not too many of them. -/
def isName (cs : List Char) : Bool :=
  !cs.isEmpty && cs.all Char.isLower && decide (cs.length ≤ 1024)

theorem ne_of_isLower {c d : Char} (hc : c.isLower = true) (hd : d.isLower = false) : c ≠ d := by
  rintro rfl
  rw [hc] at hd
  cases hd

theorem isVisible_of_isLower {c : Char} (h : c.isLower = true) : isVisible c = true := by
  simp [isVisible, isBlank, isBreak, ne_of_isLower h (d := ' ') rfl,
    ne_of_isLower h (d := '\t') rfl, ne_of_isLower h (d := '\n') rfl,
    ne_of_isLower h (d := '\r') rfl,
    ne_of_isLower h (d := '\x85') rfl, ne_of_isLower h (d := '\u2028') rfl,
    ne_of_isLower h (d := '\u2029') rfl]

/-- **A name is read up to the colon behind it.** -/
theorem readPlain_name {cs : List Char} (h : isName cs = true) (hrest : startsBlank rest = true)
    (hindent : indent ≤ m.column + 1) : readPlain false indent ⟨cs ++ ':' :: rest, m⟩ =
      .ok (⟨String.ofList cs, m.forward cs.length, false⟩,
        ⟨':' :: rest, m.forward cs.length⟩) := by
  simp only [isName, Bool.and_eq_true, List.all_eq_true, Bool.not_eq_true'] at h
  obtain ⟨⟨hempty, hletters⟩, -⟩ := h
  cases cs with
  | nil => cases hempty
  | cons x w =>
    have hx := hletters x (.head _)
    have hindicator : (⟨x :: w ++ ':' :: rest, m⟩ : Cursor).atDocumentIndicator = false := by
      cases hw : w ++ ':' :: rest with
      | nil => simp [Cursor.atDocumentIndicator, startsWithIndicator, hw]
      | cons y ys =>
        cases ys <;> simp [Cursor.atDocumentIndicator, startsWithIndicator, hw,
          ne_of_isLower hx (d := '-') rfl, ne_of_isLower hx (d := '.') rfl]
    have hstop : ∀ before m, plainRun false before m (':' :: rest) =
        .ok (before, ⟨':' :: rest, m⟩) := by
      intro before m
      rw [plainRun]
      simp [isBlank, isBreak, hrest]
    have hcolon : ∀ a b, x :: w = a ++ ':' :: b → startsBlank (b ++ ':' :: rest) = false := by
      intro a b hab
      have hmem : ':' ∈ x :: w := by rw [hab]; simp
      exact absurd (hletters ':' hmem) (by decide)
    have hvisible : ∀ c ∈ x :: w, isVisible c = true := fun c hc =>
      isVisible_of_isLower (hletters c hc)
    have hrun := plainRun_word hvisible _ hcolon hstop [] m
    have hgap : Gap.read indent {} (m.forward (x :: w).length) (':' :: rest) =
        ({}, ⟨':' :: rest, m.forward (x :: w).length⟩) :=
      Gap.read_visible rfl
    have hcolumn : ¬ (m.forward (x :: w).length).column < indent := by
      simp
      omega
    have hbehind :
        (⟨':' :: rest, m.forward (x :: w).length⟩ : Cursor).atDocumentIndicator = false :=
      Cursor.not_atDocumentIndicator (Nat.lt_add_left _ (Nat.succ_pos _))
    have hfuel : (x :: w ++ ':' :: rest).length = w.length + rest.length + 1 + 1 := by
      simp
      omega
    unfold readPlain
    rw [plainRuns_word hindicator (ne_of_isLower hx rfl) hrun hgap rfl, if_neg hcolumn, hfuel,
      plainRuns, hbehind, if_neg (by simp [Cursor.head?]), hstop]
    simp [Gap.text]

end

end FirstClaim.Yaml
