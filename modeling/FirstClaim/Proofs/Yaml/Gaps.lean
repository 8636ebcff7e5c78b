import FirstClaim.Yaml.Scalar
import FirstClaim.Yaml.Writer

/-!
# Lines and gaps of YAML texts

What is written between two runs of a scalar is either spaces, or breaks with the indentation of the
next line behind them. `Gap.read_spaces_visible` and `Gap.read_breaks_visible` say what each is read
as. Of the breaks, only three are written as they are, and these are read as they are
(`breakChar_eq`).
-/

set_option autoImplicit false

namespace FirstClaim.Yaml

/-! ## Marks -/

namespace Mark

/-- The mark behind `n` characters of the line. -/
def forward (m : Mark) (n : Nat) : Mark :=
  ⟨m.index + n, m.line, m.column + n⟩

@[simp] theorem forward_zero (m : Mark) : m.forward 0 = m :=
  rfl

@[simp] theorem column_forward (m : Mark) (n : Nat) : (m.forward n).column = m.column + n :=
  rfl

@[simp] theorem forward_next (m : Mark) (n : Nat) : m.next.forward n = m.forward (n + 1) := by
  simp only [forward, next, Nat.add_assoc, Nat.add_comm 1]

@[simp] theorem forward_forward (m : Mark) (k n : Nat) :
    (m.forward k).forward n = m.forward (k + n) := by
  simp only [forward, Nat.add_assoc]

end Mark

/-! ## Characters -/

section Characters

variable {c : Char}

theorem printable_break (hprintable : isPrintable c = true) (hbreak : isBreak c = true) :
    c = '\n' ∨ c = '\u2028' ∨ c = '\u2029' := by
  simp only [isBreak, Bool.or_eq_true, decide_eq_true_eq, or_assoc] at hbreak
  rcases hbreak with rfl | rfl | rfl | rfl | rfl
  · exact .inl rfl
  · exact absurd hprintable (by decide)
  · exact absurd hprintable (by decide)
  · exact .inr (.inl rfl)
  · exact .inr (.inr rfl)

theorem breakChar_eq (hprintable : isPrintable c = true) (hbreak : isBreak c = true) :
    breakChar c = c := by
  rcases printable_break hprintable hbreak with rfl | rfl | rfl <;> rfl

theorem ne_return (h : isPrintable c = true) : c ≠ '\r' := by
  rintro rfl
  exact absurd h (by decide)

theorem ne_tab (h : isPrintable c = true) : c ≠ '\t' := by
  rintro rfl
  exact absurd h (by decide)

theorem isBlank_eq_isSpace (h : isPrintable c = true) : isBlank c = isSpace c := by
  simp [isBlank, isSpace, ne_tab h]

theorem isBreak_of_isBlank (h : isBlank c = true) : isBreak c = false := by
  simp only [isBlank, Bool.or_eq_true, decide_eq_true_eq] at h
  rcases h with rfl | rfl <;> rfl

def isVisible (c : Char) : Bool :=
  !(isBlank c || isBreak c)

theorem isVisible_iff : isVisible c = true ↔ isBlank c = false ∧ isBreak c = false := by
  simp [isVisible]

/-- A text that does not begin with a blank or a break. -/
def startsVisible : List Char → Bool
  | [] => true
  | c :: _ => isVisible c

end Characters

/-! ## Runs -/

/-- A text is a run of characters that have a property, a gap of characters that have not, and the
rest, which goes on with the property; there is a gap if there is a rest. -/
theorem exists_run_gap (p : Char → Bool) (cs : List Char) : ∃ run gap rest,
    cs = run ++ (gap ++ rest) ∧ (∀ c ∈ run, p c = true) ∧ (∀ c ∈ gap, p c = false) ∧
      rest.head?.all p = true ∧ (gap = [] → rest = []) := by
  have hrest := List.head?_dropWhile_not (!p ·) (cs.dropWhile p)
  refine ⟨cs.takeWhile p, (cs.dropWhile p).takeWhile (!p ·), (cs.dropWhile p).dropWhile (!p ·),
    ?_, fun c hc => List.all_eq_true.1 List.all_takeWhile c hc, fun c hc => ?_, ?_, fun hgap => ?_⟩
  · rw [List.takeWhile_append_dropWhile, List.takeWhile_append_dropWhile]
  · simpa using List.all_eq_true.1 List.all_takeWhile c hc
  · cases hhead : ((cs.dropWhile p).dropWhile (!p ·)).head? with
    | none => rfl
    | some c =>
      rw [hhead] at hrest
      simpa using hrest
  · -- without a gap the run has ended with the text
    have hhead := List.head?_dropWhile_not p cs
    cases hdrop : cs.dropWhile p with
    | nil => rfl
    | cons c rest =>
      rw [hdrop] at hhead hgap
      have hc : p c = false := by simpa using hhead
      simp [hc] at hgap

/-! ## Passing over the rest of a line -/

theorem spaces_succ (n : Nat) : spaces (n + 1) = ' ' :: spaces n :=
  rfl

@[simp] theorem length_spaces (n : Nat) : (spaces n).length = n :=
  List.length_replicate

@[simp] theorem reverse_spaces (n : Nat) : (spaces n).reverse = spaces n :=
  List.reverse_replicate

theorem Cursor.skipWhile_append {p : Char → Bool} {skipped rest : List Char} (m : Mark)
    (hskipped : ∀ c ∈ skipped, p c = true) (hrest : rest.head?.all (!p ·) = true) :
    Cursor.skipWhile p m (skipped ++ rest) = ⟨rest, m.forward skipped.length⟩ := by
  induction skipped generalizing m with
  | nil =>
    cases rest with
    | nil => rfl
    | cons c rest =>
      have hc : ¬ p c = true := by simpa using hrest
      exact if_neg hc
  | cons c skipped ih =>
    rw [List.cons_append, Cursor.skipWhile, if_pos (hskipped c (.head _)),
      ih m.next fun d hd => hskipped d (.tail _ hd), Mark.forward_next]
    rfl

theorem Cursor.takeBreak_eq {c : Char} (hprintable : isPrintable c = true)
    (hbreak : isBreak c = true) (rest : List Char) (m : Mark) :
    Cursor.takeBreak ⟨c :: rest, m⟩ = ([c], ⟨rest, m.nextLine 1⟩) := by
  unfold Cursor.takeBreak
  dsimp only
  split
  · rename_i heq
    cases heq
    exact absurd rfl (ne_return hprintable)
  · rename_i heq
    cases heq
    rw [if_pos hbreak, breakChar_eq hprintable hbreak]
  · rename_i heq
    cases heq

/-- Behind the first column no document begins or ends. -/
theorem Cursor.not_atDocumentIndicator {c : Cursor} (h : 0 < c.mark.column) :
    c.atDocumentIndicator = false := by
  have hcolumn : c.column ≠ 0 := Nat.ne_of_gt h
  simp [atDocumentIndicator, hcolumn]

/-! ## Gaps -/

namespace Gap

variable {limit : Nat} {g : Gap} {m : Mark} {rest : List Char}

theorem read_cons {c : Char} (h : c ≠ '\r') : read limit g m (c :: rest) =
    if isBlank c then read limit (g.addBlank limit m c) m.next rest
    else if isBreak c then read limit (g.addBreak (breakChar c)) (m.nextLine 1) rest
    else (g, ⟨c :: rest, m⟩) := by
  rw [read.eq_def]
  split
  · rename_i heq
    cases heq
    exact absurd rfl h
  · rename_i heq
    cases heq
    rfl
  · rename_i heq
    cases heq

/-- A gap ends before a character that is neither a blank nor a break. -/
theorem read_visible (h : startsVisible rest = true) : read limit g m rest = (g, ⟨rest, m⟩) := by
  cases rest with
  | nil => rfl
  | cons c rest =>
    obtain ⟨hblank, hbreak⟩ := isVisible_iff.1 h
    have hc : c ≠ '\r' := by
      rintro rfl
      cases hbreak
    rw [read_cons hc, hblank, hbreak]
    rfl

theorem read_spaces (hg : g.broken = false) (n : Nat) :
    read limit g m (spaces n ++ rest) =
      read limit { g with blanks := spaces n ++ g.blanks } (m.forward n) rest := by
  induction n generalizing g m with
  | zero => rfl
  | succ n ih =>
    have hadd : g.addBlank limit m ' ' = { g with blanks := ' ' :: g.blanks } := by
      simp [addBlank, hg]
    have hmove : spaces n ++ ' ' :: g.blanks = spaces (n + 1) ++ g.blanks := by
      rw [spaces, spaces, List.replicate_succ', List.append_assoc]
      rfl
    rw [spaces_succ, List.cons_append, read_cons (by decide),
      if_pos (show isBlank _ = true from rfl), hadd,
      ih (g := { g with blanks := ' ' :: g.blanks }) hg, Mark.forward_next]
    dsimp only
    rw [hmove]
    rfl

theorem read_indentation (hg : g.broken = true) (n : Nat) :
    read limit g m (spaces n ++ rest) = read limit g (m.forward n) rest := by
  induction n generalizing m with
  | zero => rfl
  | succ n ih =>
    have hadd : g.addBlank limit m ' ' = g := by
      simp [addBlank, hg]
    rw [spaces_succ, List.cons_append, read_cons (by decide),
      if_pos (show isBlank _ = true from rfl), hadd, ih, Mark.forward_next]

theorem read_break {c : Char} (hprintable : isPrintable c = true) (hbreak : isBreak c = true) :
    read limit g m (c :: rest) = read limit (g.addBreak c) (m.nextLine 1) rest := by
  have hblank : ¬ isBlank c = true := by
    intro hblank
    rw [isBreak_of_isBlank hblank] at hbreak
    cases hbreak
  rw [read_cons (ne_return hprintable), if_neg hblank, if_pos hbreak,
    breakChar_eq hprintable hbreak]

/-- **Spaces are a gap** that reads as these spaces. -/
theorem read_spaces_visible (limit n : Nat) (m : Mark) (hrest : startsVisible rest = true) :
    read limit {} m (spaces n ++ rest) = ({ blanks := spaces n }, ⟨rest, m.forward n⟩) := by
  rw [read_spaces rfl, read_visible hrest, List.append_nil]

theorem read_breaks {bs : List Char} (hbs : ∀ c ∈ bs, isPrintable c = true ∧ isBreak c = true)
    (limit : Nat) (rest : List Char) (hg : g.broken = true) (hm : m.column = 0) :
    ∃ m', m'.column = 0 ∧
      read limit g m (bs ++ rest) =
        read limit { g with trail := bs.reverse ++ g.trail } m' rest := by
  induction bs generalizing g m with
  | nil => exact ⟨m, hm, rfl⟩
  | cons c bs ih =>
    obtain ⟨hprintable, hbreak⟩ := hbs c (.head _)
    have hadd : g.addBreak c = { g with trail := c :: g.trail } := if_pos hg
    obtain ⟨m', hm', hread⟩ := ih (g := { g with trail := c :: g.trail })
      (fun d hd => hbs d (.tail _ hd)) hg (m := m.nextLine 1) rfl
    refine ⟨m', hm', ?_⟩
    rw [List.cons_append, read_break hprintable hbreak, hadd, hread, List.reverse_cons,
      List.append_assoc]
    rfl

/-- **Breaks with an indentation behind them are a gap** that is told by its breaks. -/
theorem read_breaks_visible {c : Char} {bs : List Char}
    (hbs : ∀ d ∈ c :: bs, isPrintable d = true ∧ isBreak d = true) (limit n : Nat) (m : Mark)
    (hrest : startsVisible rest = true) : ∃ m', m'.column = n ∧
      read limit {} m (c :: bs ++ (spaces n ++ rest)) =
        ({ broken := true, lead := [c], trail := bs.reverse }, ⟨rest, m'⟩) := by
  obtain ⟨hprintable, hbreak⟩ := hbs c (.head _)
  have htail : ∀ d ∈ bs, isPrintable d = true ∧ isBreak d = true := fun d hd => hbs d (.tail _ hd)
  obtain ⟨m', hm', hread⟩ := read_breaks htail limit (spaces n ++ rest)
    (g := { broken := true, lead := [c] }) (m := m.nextLine 1) rfl rfl
  refine ⟨m'.forward n, by rw [Mark.column_forward, hm', Nat.zero_add], ?_⟩
  have hadd : addBreak {} c = { broken := true, lead := [c] } := rfl
  rw [List.cons_append, read_break hprintable hbreak, hadd, hread, read_indentation rfl,
    read_visible hrest, List.append_nil]

/-- The end of a line is a gap together with the indentation of the next one. -/
theorem read_newLine (limit n : Nat) (m : Mark) (hrest : startsVisible rest = true) :
    ∃ m', m'.column = n ∧ read limit {} m ('\n' :: (spaces n ++ rest)) =
      ({ broken := true, lead := ['\n'] }, ⟨rest, m'⟩) := by
  have hbreaks : ∀ d ∈ ['\n'], isPrintable d = true ∧ isBreak d = true :=
    List.forall_mem_singleton.2 (by decide)
  exact read_breaks_visible hbreaks limit n m hrest

end Gap

end FirstClaim.Yaml
