import FirstClaim.Proofs.Yaml.Escapes

/-!
# Reading back quoted scalars

A quoted scalar is read run by run with the gaps between the runs. Between quotation marks a gap
consists of spaces, since all breaks are escaped (`readQuoted_double`). Between apostrophes it
consists of spaces, or else of breaks with the indentation of the next line (`readQuoted_single`).
-/

set_option autoImplicit false

namespace FirstClaim.Yaml

/-! ## Runs and gaps -/

/-- Reads a run of a quoted scalar. -/
def quotedRun (single : Bool) (start : Mark) (before : List Char) (c : Cursor) :
    Except Error (List Char × Bool × Cursor) :=
  if single then .ok ((singleRun before c.mark c.rest).1, false, (singleRun before c.mark c.rest).2)
  else doubleRun start c.rest.length before c

def quoteOf (single : Bool) : Char :=
  if single then '\'' else '"'

section Runs

variable (single : Bool) {start m m₁ : Mark} {before run text rest : List Char} {x : Char}

theorem quotedRuns_succ (hm : 0 < m.column) (fuel : Nat)
    (hrun : quotedRun single start before ⟨x :: text, m⟩ = .ok (run, false, ⟨rest, m₁⟩)) :
    quotedRuns single start (fuel + 1) before ⟨x :: text, m⟩ =
      if rest.head? = some (quoteOf single) then
        .ok (⟨String.ofList run.reverse, m₁.next, false⟩, ⟨rest.tail, m₁.next⟩)
      else
        quotedRuns single start fuel ((Gap.read 0 {} m₁ rest).1.text.reverse ++ run)
          (Gap.read 0 {} m₁ rest).2 := by
  have hindicator := Cursor.not_atDocumentIndicator (c := ⟨x :: text, m⟩) hm
  have hrest : ¬ (⟨x :: text, m⟩ : Cursor).rest = [] := List.cons_ne_nil _ _
  rw [quotedRuns, hindicator, if_neg Bool.false_ne_true, if_neg hrest]
  cases single with
  | true =>
    obtain ⟨rfl, hcursor⟩ : (singleRun before m (x :: text)).1 = run ∧
        (singleRun before m (x :: text)).2 = ⟨rest, m₁⟩ := by
      simpa [quotedRun] using hrun
    simp only [if_true, bind, Except.bind, pure, Except.pure, hcursor]
    rfl
  | false =>
    have hdouble : doubleRun start (x :: text).length before ⟨x :: text, m⟩ =
      .ok (run, false, ⟨rest, m₁⟩) := hrun
    simp only [Bool.false_eq_true, if_false, bind, Except.bind, hdouble]
    rfl

theorem quotedRuns_last (hm : 0 < m.column) (fuel : Nat)
    (hrun : quotedRun single start before ⟨x :: text, m⟩ =
      .ok (run, false, ⟨quoteOf single :: rest, m₁⟩)) :
    quotedRuns single start (fuel + 1) before ⟨x :: text, m⟩ =
      .ok (⟨String.ofList run.reverse, m₁.next, false⟩, ⟨rest, m₁.next⟩) := by
  rw [quotedRuns_succ single hm fuel hrun]
  exact if_pos rfl

theorem quotedRuns_gap {gap : Gap} {c : Cursor} (hm : 0 < m.column) (fuel : Nat)
    (hrun : quotedRun single start before ⟨x :: text, m⟩ = .ok (run, false, ⟨rest, m₁⟩))
    (hrest : rest.head? ≠ some (quoteOf single)) (hgap : Gap.read 0 {} m₁ rest = (gap, c)) :
    quotedRuns single start (fuel + 1) before ⟨x :: text, m⟩ =
      quotedRuns single start fuel (gap.text.reverse ++ run) c := by
  rw [quotedRuns_succ single hm fuel hrun, if_neg hrest, hgap]

end Runs

/-! ## Between quotation marks -/

theorem escapedText_ne_nil (c : Char) : escapedText c ≠ [] := by
  obtain ⟨h, -⟩ | ⟨x, h, -⟩ | ⟨x, n, h, -⟩ := escapedText_cases c <;> rw [h] <;>
    exact List.cons_ne_nil _ _

theorem length_le_escaped (cs : List Char) : cs.length ≤ (cs.flatMap escapedText).length := by
  induction cs with
  | nil => exact Nat.le_refl _
  | cons c cs ih =>
    have hone := List.length_pos_iff.2 (escapedText_ne_nil c)
    rw [List.flatMap_cons, List.length_append, List.length_cons]
    omega

theorem escaped_spaces (n : Nat) : (spaces n).flatMap escapedText = spaces n := by
  induction n with
  | zero => rfl
  | succ n ih =>
    rw [spaces_succ, List.flatMap_cons, ih]
    rfl

/-- What is written begins neither with a blank nor with a break unless the text begins with a
space. -/
theorem startsVisible_escaped {cs : List Char} (h : cs.head?.all (decide <| · ≠ ' ') = true)
    (rest : List Char) : startsVisible (cs.flatMap escapedText ++ '"' :: rest) = true := by
  cases cs with
  | nil => rfl
  | cons c cs =>
    have hc : c ≠ ' ' := by simpa using h
    rw [List.flatMap_cons]
    obtain ⟨htext, hprintable, hbreak, -⟩ | ⟨x, htext, -⟩ | ⟨x, n, htext, -⟩ := escapedText_cases c
    · rw [htext]
      exact isVisible_iff.2 ⟨by simp [isBlank, hc, ne_tab hprintable], hbreak⟩
    · rw [htext]
      rfl
    · rw [htext]
      rfl

/-- **What is written between quotation marks is read as it was.** -/
theorem quotedRuns_double (cs : List Char) (start : Mark) {fuel : Nat} (hfuel : cs.length < fuel)
    (before rest : List Char) {m : Mark} (hm : 0 < m.column) : ∃ m',
      quotedRuns false start fuel before ⟨cs.flatMap escapedText ++ '"' :: rest, m⟩ =
        .ok (⟨String.ofList (before.reverse ++ cs), m', false⟩, ⟨rest, m'⟩) := by
  induction fuel generalizing cs before m with
  | zero => exact absurd hfuel (Nat.not_lt_zero _)
  | succ fuel ih =>
    obtain ⟨run, gap, tail, rfl, hrun, hgap, htail, hempty⟩ :=
      exists_run_gap (decide <| · ≠ ' ') cs
    have hrun : ∀ c ∈ run, c ≠ ' ' := fun c hc => of_decide_eq_true (hrun c hc)
    obtain ⟨n, rfl⟩ : ∃ n, gap = spaces n :=
      ⟨gap.length, List.eq_replicate_of_mem fun c hc => by simpa using hgap c hc⟩
    -- the text is not empty since the quote is still to come
    obtain ⟨x, text, htext⟩ := List.exists_cons_of_ne_nil (l := (run ++ (spaces n ++ tail)).flatMap
      escapedText ++ '"' :: rest) (by simp)
    have hlength : run.length ≤ (x :: text).length := by
      rw [← htext]
      have hle := length_le_escaped (run ++ (spaces n ++ tail))
      simp only [List.length_append, List.length_cons] at hle ⊢
      omega
    cases n with
    | zero =>
      obtain rfl := hempty rfl
      have hsplit : (run ++ (spaces 0 ++ [])).flatMap escapedText ++ '"' :: rest =
          run.flatMap escapedText ++ '"' :: rest := by
        simp [spaces]
      obtain ⟨m', -, hread⟩ := doubleRun_text hrun (.inl rfl) start hlength before rest m
      rw [← hsplit, htext] at hread
      refine ⟨m'.next, ?_⟩
      rw [htext, quotedRuns_last false hm fuel hread]
      simp [spaces]
    | succ n =>
      have hsplit : (run ++ (spaces (n + 1) ++ tail)).flatMap escapedText ++ '"' :: rest =
          run.flatMap escapedText ++
            ' ' :: (spaces n ++ (tail.flatMap escapedText ++ '"' :: rest)) := by
        rw [List.flatMap_append, List.flatMap_append, escaped_spaces, spaces_succ]
        simp
      obtain ⟨m₁, hm₁, hread⟩ := doubleRun_text hrun (.inr rfl) start hlength before
        (spaces n ++ (tail.flatMap escapedText ++ '"' :: rest)) m
      rw [← hsplit, htext] at hread
      have hspaces := Gap.read_spaces_visible 0 (n + 1) m₁ (startsVisible_escaped htail rest)
      have hshort : tail.length < fuel := by
        simp at hfuel
        omega
      obtain ⟨m', hrest⟩ := ih tail hshort (spaces (n + 1) ++ (run.reverse ++ before))
        (m := m₁.forward (n + 1)) (by simp)
      refine ⟨m', ?_⟩
      rw [htext, quotedRuns_gap false hm fuel hread (by simp [quoteOf]) hspaces]
      simpa [Gap.text] using hrest

/-! ## Between apostrophes -/

def apostrophes (c : Char) : List Char :=
  if c = '\'' then ['\'', '\''] else [c]

theorem apostrophes_spaces (n : Nat) : (spaces n).flatMap apostrophes = spaces n := by
  induction n with
  | zero => rfl
  | succ n ih =>
    rw [spaces_succ, List.flatMap_cons, ih]
    rfl

theorem singleQuotedText_run {w : List Char} (hw : ∀ c ∈ w, isBreak c = false) (indent : Nat)
    (tail : List Char) : singleQuotedText indent false (w ++ tail) =
      w.flatMap apostrophes ++ singleQuotedText indent false tail := by
  induction w with
  | nil => rfl
  | cons c w ih =>
    rw [List.cons_append, singleQuotedText, if_neg (by simp [hw c (.head _)]),
      ih fun d hd => hw d (.tail _ hd), List.flatMap_cons]
    simp [apostrophes]

theorem singleQuotedText_breaks {bs : List Char} (hbs : ∀ c ∈ bs, isBreak c = true)
    (indent : Nat) (tail : List Char) :
    singleQuotedText indent true (bs ++ tail) = bs ++ singleQuotedText indent true tail := by
  induction bs with
  | nil => rfl
  | cons c bs ih =>
    rw [List.cons_append, singleQuotedText, if_pos (hbs c (.head _)),
      ih fun d hd => hbs d (.tail _ hd), List.cons_append]

theorem singleQuotedText_line {tail : List Char} (h : tail.head?.all (!isBreak ·) = true)
    (indent : Nat) :
    singleQuotedText indent true tail = spaces indent ++ singleQuotedText indent false tail := by
  cases tail with
  | nil => rfl
  | cons c tail =>
    have hc : isBreak c = false := by simpa using h
    simp [singleQuotedText, hc]

theorem singleQuotedText_cons {c : Char} (hc : c ≠ '\'') (indent : Nat) (cs : List Char) :
    singleQuotedText indent false (c :: cs) = c :: singleQuotedText indent (isBreak c) cs := by
  cases hbreak : isBreak c <;> simp [singleQuotedText, hbreak, hc]

theorem length_lt_singleQuotedText (indent : Nat) (broken : Bool) (cs : List Char) :
    cs.length < (singleQuotedText indent broken cs).length := by
  induction cs generalizing broken with
  | nil => simp [singleQuotedText]
  | cons c cs ih =>
    have hlater := ih (isBreak c)
    cases hbreak : isBreak c with
    | true =>
      rw [hbreak] at hlater
      simpa [singleQuotedText, hbreak] using hlater
    | false =>
      rw [hbreak] at hlater
      have hone : 0 < (if c = '\'' then ['\'', '\''] else [c]).length := by split <;> simp
      simp only [singleQuotedText, hbreak, Bool.false_eq_true, if_false, List.length_append,
        List.length_cons]
      omega

theorem singleRun_cons {c : Char} (hc : c ≠ '\'') (before rest : List Char) (m : Mark) :
    singleRun before m (c :: rest) =
      if isVisible c then singleRun (c :: before) m.next rest else (before, ⟨c :: rest, m⟩) := by
  rw [singleRun.eq_def]
  split
  · rename_i heq
    cases heq
    exact absurd rfl hc
  · rename_i heq
    cases heq
    cases hblank : isBlank c <;> cases hbreak : isBreak c <;> simp [isVisible, hc, hblank, hbreak]
  · rename_i heq
    cases heq

/-- A run ends before an apostrophe that is not doubled, before a blank and before a break. -/
def stopsSingle : List Char → Bool
  | '\'' :: rest => rest.head? ≠ some '\''
  | c :: _ => !isVisible c
  | [] => true

theorem singleRun_stop {rest : List Char} (h : stopsSingle rest = true) (before : List Char)
    (m : Mark) : singleRun before m rest = (before, ⟨rest, m⟩) := by
  cases rest with
  | nil => rfl
  | cons c rest =>
    by_cases hc : c = '\''
    · subst hc
      have hnext : rest.head? ≠ some '\'' := of_decide_eq_true h
      rw [singleRun.eq_def]
      split
      · rename_i heq
        cases heq
        exact absurd rfl hnext
      · rename_i heq
        cases heq
        rw [if_pos (by simp)]
      · rename_i heq
        cases heq
    · have hvisible : isVisible c = false := by simpa [stopsSingle, hc] using h
      rw [singleRun_cons hc, hvisible]
      rfl

/-- **A run between apostrophes is read as it was.** -/
theorem singleRun_text {w rest : List Char} (hw : ∀ c ∈ w, isVisible c = true)
    (hrest : stopsSingle rest = true) (before : List Char) (m : Mark) :
    ∃ m', m.column ≤ m'.column ∧
      singleRun before m (w.flatMap apostrophes ++ rest) = (w.reverse ++ before, ⟨rest, m'⟩) := by
  induction w generalizing before m with
  | nil => exact ⟨m, Nat.le_refl _, singleRun_stop hrest before m⟩
  | cons c w ih =>
    have htail : ∀ d ∈ w, isVisible d = true := fun d hd => hw d (.tail _ hd)
    by_cases hc : c = '\''
    · subst hc
      obtain ⟨m', hm', hread⟩ := ih htail ('\'' :: before) m.next.next
      refine ⟨m', Nat.le_trans (Nat.le_add_right _ 2) hm', ?_⟩
      rw [List.flatMap_cons, List.append_assoc, List.reverse_cons, List.append_assoc]
      exact hread
    · obtain ⟨m', hm', hread⟩ := ih htail (c :: before) m.next
      refine ⟨m', Nat.le_trans (Nat.le_succ _) hm', ?_⟩
      rw [List.flatMap_cons, apostrophes, if_neg hc, List.append_assoc, List.singleton_append,
        singleRun_cons hc, if_pos (hw c (.head _)), hread, List.reverse_cons, List.append_assoc]
      rfl

/-! ## Gaps between apostrophes -/

theorem hasNeighbours_append {p q : Char → Bool} {a b : List Char}
    (h : hasNeighbours p q (a ++ b) = false) :
    hasNeighbours p q a = false ∧ hasNeighbours p q b = false := by
  induction a with
  | nil => exact ⟨rfl, h⟩
  | cons c a ih =>
    cases a with
    | nil =>
      refine ⟨rfl, ?_⟩
      cases b with
      | nil => rfl
      | cons d b =>
        rw [List.singleton_append, hasNeighbours, Bool.or_eq_false_iff] at h
        exact h.2
    | cons d a =>
      rw [List.cons_append, List.cons_append, hasNeighbours, Bool.or_eq_false_iff] at h
      obtain ⟨ha, hb⟩ := ih h.2
      refine ⟨?_, hb⟩
      rw [hasNeighbours, h.1, ha]
      rfl

/-- A gap holds spaces or breaks, not both, if none of them is next to one of the other kind. -/
theorem spaces_or_breaks {gap : List Char}
    (hgap : ∀ c ∈ gap, isSpace c = true ∨ isBreak c = true)
    (hspace : hasNeighbours isSpace isBreak gap = false)
    (hbreak : hasNeighbours isBreak isSpace gap = false) :
    (∃ n, gap = spaces n) ∨ ∀ c ∈ gap, isBreak c = true := by
  induction gap with
  | nil => exact .inl ⟨0, rfl⟩
  | cons c gap ih =>
    have hc := hgap c (.head _)
    cases gap with
    | nil =>
      rcases hc with hc | hc
      · exact .inl ⟨1, by rw [of_decide_eq_true hc]; rfl⟩
      · exact .inr (by simpa using hc)
    | cons d gap =>
      rw [hasNeighbours, Bool.or_eq_false_iff] at hspace hbreak
      rcases ih (fun x hx => hgap x (.tail _ hx)) hspace.2 hbreak.2 with ⟨n, hn⟩ | hbreaks
      · have hd : isSpace d = true := by
          have hmem : d ∈ spaces n := hn ▸ List.mem_cons_self
          rw [List.eq_of_mem_replicate hmem]
          rfl
        rcases hc with hc | hc
        · exact .inl ⟨n + 1, by rw [hn, of_decide_eq_true hc]; rfl⟩
        · simp [hc, hd] at hbreak
      · rcases hc with hc | hc
        · simp [hc, hbreaks d (.head _)] at hspace
        · exact .inr fun x hx => (List.mem_cons.1 hx).elim (· ▸ hc) (hbreaks x)

/-- A text that can be written between apostrophes. -/
structure SingleRest (cs : List Char) : Prop where
  chars : ∀ c ∈ cs, isPrintable c = true ∧ c ≠ '\n'
  spaceBreak : hasNeighbours isSpace isBreak cs = false
  breakSpace : hasNeighbours isBreak isSpace cs = false

theorem SingleRest.suffix {a b : List Char} (h : SingleRest (a ++ b)) : SingleRest b :=
  ⟨fun c hc => h.chars c (List.mem_append_right _ hc), (hasNeighbours_append h.spaceBreak).2,
    (hasNeighbours_append h.breakSpace).2⟩

theorem startsVisible_single {cs : List Char} (h : cs.head?.all isVisible = true) (indent : Nat)
    (rest : List Char) :
    startsVisible (singleQuotedText indent false cs ++ rest) = true := by
  cases cs with
  | nil => rfl
  | cons c cs =>
    have hc : isVisible c = true := by simpa using h
    rw [singleQuotedText, if_neg (by simp [(isVisible_iff.1 hc).2])]
    by_cases hquote : c = '\''
    · subst hquote
      rfl
    · simpa [hquote, startsVisible] using hc

theorem read_gap_single {gap tail : List Char} (h : SingleRest (gap ++ tail)) (hne : gap ≠ [])
    (hgap : (∃ n, gap = spaces n) ∨ ∀ c ∈ gap, isBreak c = true)
    (htail : tail.head?.all isVisible = true) {indent : Nat} (hindent : 0 < indent)
    (rest : List Char) {m : Mark} (hm : 0 < m.column) : ∃ g m', 0 < m'.column ∧ g.text = gap ∧
      Gap.read 0 {} m (singleQuotedText indent false (gap ++ tail) ++ rest) =
        (g, ⟨singleQuotedText indent false tail ++ rest, m'⟩) := by
  have hvisible := startsVisible_single htail indent rest
  rcases hgap with ⟨n, rfl⟩ | hbreaks
  · have hspaces : ∀ c ∈ spaces n, isBreak c = false := by
      intro c hc
      rw [List.eq_of_mem_replicate hc]
      rfl
    refine ⟨{ blanks := spaces n }, m.forward n, Nat.lt_of_lt_of_le hm (Nat.le_add_right _ _),
      ?_, ?_⟩
    · simp [Gap.text]
    · rw [singleQuotedText_run hspaces, apostrophes_spaces, List.append_assoc]
      exact Gap.read_spaces_visible 0 n m hvisible
  · cases gap with
    | nil => exact absurd rfl hne
    | cons b bs =>
      have hb := hbreaks b (.head _)
      have hchars : ∀ d ∈ b :: bs, isPrintable d = true ∧ isBreak d = true := fun d hd =>
        ⟨(h.chars d (List.mem_append_left _ hd)).1, hbreaks d hd⟩
      have hnewLine : b ≠ '\n' := (h.chars b (.head _)).2
      have hline : tail.head?.all (!isBreak ·) = true := by
        cases tail with
        | nil => rfl
        | cons c tail =>
          have hc : isVisible c = true := by simpa using htail
          simp [(isVisible_iff.1 hc).2]
      obtain ⟨m', hm', hread⟩ := Gap.read_breaks_visible hchars 0 indent m hvisible
      refine ⟨{ broken := true, lead := [b], trail := bs.reverse }, m', hm' ▸ hindent, ?_, ?_⟩
      · simp [Gap.text, hnewLine]
      · rw [List.cons_append, singleQuotedText, if_pos hb,
          singleQuotedText_breaks (fun d hd => hbreaks d (.tail _ hd)), singleQuotedText_line hline]
        simpa using hread

/-- The text is a run, behind which spaces or breaks and more of the text may stand. -/
theorem SingleRest.split {cs : List Char} (h : SingleRest cs) : ∃ run,
    (∀ c ∈ run, isVisible c = true) ∧ (cs = run ∨ ∃ c gap tail, cs = run ++ (c :: gap ++ tail) ∧
      isVisible c = false ∧ ((∃ n, c :: gap = spaces n) ∨ ∀ d ∈ c :: gap, isBreak d = true) ∧
      tail.head?.all isVisible = true ∧ SingleRest (c :: gap ++ tail)) := by
  obtain ⟨run, gap, tail, rfl, hrun, hgap, htail, hempty⟩ := exists_run_gap isVisible cs
  refine ⟨run, hrun, ?_⟩
  cases gap with
  | nil =>
    rw [hempty rfl]
    exact .inl (List.append_nil _)
  | cons c gap =>
    have hbehind : SingleRest (c :: gap ++ tail) := h.suffix
    have hkinds : ∀ d ∈ c :: gap, isSpace d = true ∨ isBreak d = true := by
      intro d hd
      have hprintable := (hbehind.chars d (List.mem_append_left _ hd)).1
      rw [← isBlank_eq_isSpace hprintable, ← Bool.or_eq_true]
      simpa only [isVisible, Bool.not_eq_eq_eq_not, Bool.not_false] using hgap d hd
    have hone := spaces_or_breaks hkinds (hasNeighbours_append hbehind.spaceBreak).1
      (hasNeighbours_append hbehind.breakSpace).1
    exact .inr ⟨c, gap, tail, rfl, hgap c (.head _), hone, htail, hbehind⟩

theorem quotedRun_single {run tail rest : List Char} (hrun : ∀ c ∈ run, isVisible c = true)
    {indent : Nat} (hstop : stopsSingle (singleQuotedText indent false tail ++ rest) = true)
    (start : Mark) (before : List Char) (m : Mark) : ∃ x text m', m.column ≤ m'.column ∧
      singleQuotedText indent false (run ++ tail) ++ rest = x :: text ∧
      quotedRun true start before ⟨x :: text, m⟩ =
        .ok (run.reverse ++ before, false, ⟨singleQuotedText indent false tail ++ rest, m'⟩) := by
  obtain ⟨m', hm', hread⟩ := singleRun_text hrun hstop before m
  rw [← List.append_assoc, ← singleQuotedText_run fun c hc => (isVisible_iff.1 (hrun c hc)).2]
    at hread
  -- the text is not empty since the apostrophe at the end is still to come
  obtain ⟨x, text, htext⟩ := List.exists_cons_of_ne_nil
    (List.append_ne_nil_of_left_ne_nil (List.ne_nil_of_length_pos (Nat.zero_lt_of_lt
      (length_lt_singleQuotedText indent false (run ++ tail)))) rest)
  refine ⟨x, text, m', hm', htext, ?_⟩
  rw [← htext]
  simp only [quotedRun, if_true, hread]

/-- **What is written between apostrophes is read as it was.** -/
theorem quotedRuns_single {cs : List Char} (h : SingleRest cs) {indent : Nat} (hindent : 0 < indent)
    (start : Mark) {fuel : Nat} (hfuel : cs.length < fuel) (before : List Char) {rest : List Char}
    (hrest : rest.head? ≠ some '\'') {m : Mark} (hm : 0 < m.column) : ∃ m',
      quotedRuns true start fuel before ⟨singleQuotedText indent false cs ++ rest, m⟩ =
        .ok (⟨String.ofList (before.reverse ++ cs), m', false⟩, ⟨rest, m'⟩) := by
  induction fuel generalizing cs before m with
  | zero => exact absurd hfuel (Nat.not_lt_zero _)
  | succ fuel ih =>
    obtain ⟨run, hrun, rfl | ⟨c, gap, tail, rfl, hc, hgap, htail, hbehind⟩⟩ := h.split
    · -- the apostrophe at the end follows
      have hstop : stopsSingle (singleQuotedText indent false [] ++ rest) = true :=
        decide_eq_true hrest
      obtain ⟨x, text, m', -, htext, hread⟩ := quotedRun_single hrun hstop start before m
      rw [List.append_nil] at htext
      refine ⟨m'.next, ?_⟩
      rw [htext, quotedRuns_last true hm fuel hread]
      simp
    · -- spaces or breaks follow
      have hquote : c ≠ '\'' := by
        rintro rfl
        cases hc
      have hhead : singleQuotedText indent false (c :: gap ++ tail) ++ rest =
          c :: (singleQuotedText indent (isBreak c) (gap ++ tail) ++ rest) := by
        rw [List.cons_append, singleQuotedText_cons hquote, List.cons_append]
      have hstop : stopsSingle (singleQuotedText indent false (c :: gap ++ tail) ++ rest) =
          true := by
        rw [hhead]
        simp [stopsSingle, hc]
      obtain ⟨x, text, m₁, hm₁, htext, hread⟩ := quotedRun_single hrun hstop start before m
      obtain ⟨g, m₂, hm₂, hg, hgapRead⟩ := read_gap_single hbehind (List.cons_ne_nil c gap) hgap
        htail hindent rest (Nat.lt_of_lt_of_le hm hm₁)
      have hshort : tail.length < fuel := by
        simp at hfuel
        omega
      obtain ⟨m', hrest⟩ := ih hbehind.suffix hshort (g.text.reverse ++ (run.reverse ++ before)) hm₂
      refine ⟨m', ?_⟩
      rw [htext, quotedRuns_gap true hm fuel hread (by rw [hhead]; simpa [quoteOf] using hquote)
        hgapRead, hrest, hg]
      simp

/-! ## Scalars -/

/-- **A text between quotation marks is read as that text.** -/
theorem readQuoted_double (cs rest : List Char) (m : Mark) : ∃ m',
    readQuoted false ⟨'"' :: cs.flatMap escapedText ++ '"' :: rest, m⟩ =
      .ok (⟨String.ofList cs, m', false⟩, ⟨rest, m'⟩) := by
  have hfuel : cs.length < ('"' :: cs.flatMap escapedText ++ '"' :: rest).length + 1 := by
    have hle := length_le_escaped cs
    simp only [List.cons_append, List.length_cons, List.length_append]
    omega
  exact quotedRuns_double cs m hfuel [] rest (Nat.succ_pos _)

theorem singleRest_of_allowsSingleQuoted {cs : List Char} (h : allowsSingleQuoted cs = true)
    (hlines : '\n' ∉ cs) : SingleRest cs := by
  simp only [allowsSingleQuoted, needsEscapes, Bool.not_eq_true', Bool.or_eq_false_iff,
    List.any_eq_false, Bool.not_eq_false] at h
  refine ⟨fun c hc => ⟨h.1.1 c hc, ?_⟩, h.1.2, h.2⟩
  rintro rfl
  exact hlines hc

/-- **A text between apostrophes is read as that text.** -/
theorem readQuoted_single {cs : List Char} (h : allowsSingleQuoted cs = true) (hlines : '\n' ∉ cs)
    {indent : Nat} (hindent : 0 < indent) {rest : List Char} (hrest : rest.head? ≠ some '\'')
    (m : Mark) : ∃ m',
      readQuoted true ⟨'\'' :: singleQuotedText indent false cs ++ rest, m⟩ =
        .ok (⟨String.ofList cs, m', false⟩, ⟨rest, m'⟩) := by
  have hfuel : cs.length < ('\'' :: singleQuotedText indent false cs ++ rest).length + 1 := by
    have hlt := length_lt_singleQuotedText indent false cs
    simp only [List.cons_append, List.length_cons, List.length_append]
    omega
  exact quotedRuns_single (singleRest_of_allowsSingleQuoted h hlines) hindent m hfuel [] hrest
    (Nat.succ_pos _)

end FirstClaim.Yaml
