import FirstClaim.Proofs.Yaml.Gaps

/-!
# Reading back block scalars

A block scalar is read line by line. The breaks behind its last line are read too, and its header
says which of them belong to the text: none if the text ends without a break, one if it ends with a
single one, and otherwise all (`chompingSign_cases`). The header also tells the indentation where
the first line does not show it.
-/

set_option autoImplicit false

namespace FirstClaim.Yaml

/-! ## Breaks before lines -/

namespace Breaks

variable {indent : Option Nat} {b : Breaks} {m : Mark} {rest : List Char}

/-- Columns in which spaces are indentation. -/
def isWithin (indent : Option Nat) (column : Nat) : Bool :=
  (indent.map fun n => decide (column < n)).getD true

theorem isWithin_of_lt {column n : Nat} (h : ∀ k ∈ indent, n ≤ k) (hcolumn : column < n) :
    isWithin indent column = true := by
  cases indent with
  | none => rfl
  | some k => exact decide_eq_true (Nat.lt_of_lt_of_le hcolumn (h k rfl))

/-- Apart from a carriage return, a character is read by itself. -/
theorem read_cons {c : Char} (h : c ≠ '\r') : read indent b m (c :: rest) =
    if isWithin indent m.column && c = ' ' then read indent b m.next rest
    else if isWithin indent m.column && c = '\t' then .error m
    else if isBreak c then
      read indent ⟨breakChar c :: b.breaks, m.nextLine 1, max b.widest m.column⟩ (m.nextLine 1) rest
    else .ok ({ b with widest := max b.widest m.column }, ⟨c :: rest, m⟩) := by
  rw [read.eq_def]
  split
  · rename_i heq
    cases heq
  · rename_i heq
    cases heq
    exact absurd rfl h
  · rename_i heq
    cases heq
    rfl

theorem read_spaces {n k : Nat} (h : ∀ k ∈ indent, n ≤ k) (hk : m.column + k ≤ n) :
    read indent b m (spaces k ++ rest) = read indent b (m.forward k) rest := by
  induction k generalizing m with
  | zero => rfl
  | succ k ih =>
    have hwithin := isWithin_of_lt h (show m.column < n by omega)
    have hnext : m.next.column + k ≤ n := by
      show m.column + 1 + k ≤ n
      omega
    rw [spaces_succ, List.cons_append, read_cons (by decide), hwithin, if_pos (by decide), ih hnext,
      Mark.forward_next]

theorem read_breaks {bs : List Char} (hbs : ∀ c ∈ bs, isPrintable c = true ∧ isBreak c = true)
    (indent : Option Nat) (b : Breaks) (rest : List Char) (hm : m.column = 0) :
    ∃ stop m', m'.column = 0 ∧ read indent b m (bs ++ rest) =
      read indent ⟨bs.reverse ++ b.breaks, stop, b.widest⟩ m' rest := by
  induction bs generalizing b m with
  | nil => exact ⟨b.stop, m, hm, rfl⟩
  | cons c bs ih =>
    obtain ⟨hprintable, hbreak⟩ := hbs c (.head _)
    obtain ⟨stop, m', hm', hread⟩ := ih (fun d hd => hbs d (.tail _ hd))
      ⟨c :: b.breaks, m.nextLine 1, b.widest⟩ (m := m.nextLine 1) rfl
    refine ⟨stop, m', hm', ?_⟩
    have hspace : c ≠ ' ' := by
      rintro rfl
      cases hbreak
    rw [List.cons_append, read_cons (ne_return hprintable), if_neg (by simp [hspace]),
      if_neg (by simp [ne_tab hprintable]), if_pos hbreak, breakChar_eq hprintable hbreak, hm,
      Nat.max_zero, hread, List.reverse_cons, List.append_assoc]
    rfl

theorem read_stop (h : isWithin indent m.column = false ∧ rest.head?.all (!isBreak ·) = true ∨
    startsVisible rest = true) :
    read indent b m rest = .ok ({ b with widest := max b.widest m.column }, ⟨rest, m⟩) := by
  cases rest with
  | nil => rfl
  | cons c rest =>
    have hbreak : isBreak c = false := by
      rcases h with ⟨-, h⟩ | h
      · simpa using h
      · exact (isVisible_iff.1 h).2
    have hreturn : c ≠ '\r' := by
      rintro rfl
      cases hbreak
    have hwithin : ∀ d, isBlank d = true →
        ¬ (isWithin indent m.column && decide (c = d)) = true := by
      rintro d hd
      rcases h with ⟨h, -⟩ | h
      · simp [h]
      · have hc : c ≠ d := by
          rintro rfl
          rw [(isVisible_iff.1 h).1] at hd
          cases hd
        simp [hc]
    rw [read_cons hreturn, if_neg (hwithin ' ' rfl), if_neg (hwithin '\t' rfl), hbreak]
    rfl

end Breaks

/-! ## Lines -/

theorem indentedLines_breaks {bs : List Char} (hbs : ∀ c ∈ bs, isBreak c = true) (indent : Nat)
    (cs : List Char) :
    indentedLines indent true (bs ++ cs) = bs ++ indentedLines indent true cs := by
  induction bs with
  | nil => rfl
  | cons c bs ih =>
    rw [List.cons_append, indentedLines, if_pos (hbs c (.head _)),
      ih fun d hd => hbs d (.tail _ hd), List.cons_append]

theorem indentedLines_start {cs : List Char} (h : cs.head?.any (!isBreak ·) = true)
    (indent : Nat) :
    indentedLines indent true cs = spaces indent ++ indentedLines indent false cs := by
  cases cs with
  | nil => cases h
  | cons c cs =>
    have hc : isBreak c = false := by simpa using h
    simp [indentedLines, hc]

theorem indentedLines_rest {line : List Char} (hline : ∀ c ∈ line, isBreak c = false)
    (indent : Nat) (cs : List Char) :
    indentedLines indent false (line ++ cs) = line ++ indentedLines indent false cs := by
  induction line with
  | nil => rfl
  | cons c line ih =>
    rw [List.cons_append, indentedLines, if_neg (by simp [hline c (.head _)]),
      ih fun d hd => hline d (.tail _ hd)]
    rfl

theorem indentedLines_line {line bs : List Char} {b : Char}
    (hline : ∀ c ∈ line, isBreak c = false) (hbs : ∀ c ∈ b :: bs, isBreak c = true) (indent : Nat)
    (cs : List Char) : indentedLines indent false (line ++ b :: (bs ++ cs)) =
      line ++ b :: (bs ++ indentedLines indent true cs) := by
  rw [indentedLines_rest hline, indentedLines, if_pos (hbs b (.head _)),
    indentedLines_breaks fun c hc => hbs c (.tail _ hc)]

/-- What belongs to a text of a break behind its last line and of further breaks. -/
def chomped : Chomping → Char → List Char → List Char
  | .strip, _, _ => []
  | .clip, b, _ => [b]
  | .keep, b, bs => b :: bs

/-- The lines of a text from the first to the last character that is no break. -/
structure Body (cs : List Char) : Prop where
  chars : ∀ c ∈ cs, isPrintable c = true
  first : cs.head?.any (!isBreak ·) = true
  last : cs.getLast?.any (!isBreak ·) = true

namespace Body

variable {body : List Char}

theorem exists_cons (h : Body body) : ∃ x xs, body = x :: xs ∧ isBreak x = false := by
  have hfirst := h.first
  cases body with
  | nil => cases hfirst
  | cons x xs => exact ⟨x, xs, rfl, by simpa using hfirst⟩

theorem first_append (h : Body body) (behind : List Char) :
    (body ++ behind).head?.any (!isBreak ·) = true := by
  obtain ⟨x, xs, rfl, hx⟩ := h.exists_cons
  simp [hx]

theorem head_lines (h : Body body) (indent : Nat) (behind rest : List Char) :
    (indentedLines indent false (body ++ behind) ++ rest).head?.all (!isBreak ·) = true := by
  obtain ⟨x, xs, rfl, hx⟩ := h.exists_cons
  simp [indentedLines, hx]

/-- A body is a line, behind which breaks and another body may stand. -/
theorem split (h : Body body) : ∃ x line, (∀ c ∈ x :: line, isBreak c = false) ∧
    (body = x :: line ∨ ∃ g gap tail, body = x :: line ++ g :: (gap ++ tail) ∧
      (∀ c ∈ g :: gap, isPrintable c = true ∧ isBreak c = true) ∧ Body tail) := by
  obtain ⟨line, gap, tail, rfl, hline, hgap, htail, hempty⟩ := exists_run_gap (!isBreak ·) body
  have hline : ∀ c ∈ line, isBreak c = false := fun c hc => by simpa using hline c hc
  have hgap : ∀ c ∈ gap, isPrintable c = true ∧ isBreak c = true := fun c hc =>
    ⟨h.chars c (by simp [hc]), by simpa using hgap c hc⟩
  obtain ⟨x, line, rfl⟩ : ∃ x xs, line = x :: xs := by
    refine List.exists_cons_of_ne_nil ?_
    rintro rfl
    have hfirst := h.first
    cases gap with
    | nil => simp [hempty rfl] at hfirst
    | cons g gap => simp [(hgap g (.head _)).2] at hfirst
  refine ⟨x, line, hline, ?_⟩
  cases gap with
  | nil =>
    obtain rfl := hempty rfl
    exact .inl (List.append_nil _)
  | cons g gap =>
    obtain ⟨y, tail, rfl⟩ : ∃ y ys, tail = y :: ys := by
      refine List.exists_cons_of_ne_nil ?_
      rintro rfl
      -- the body does not end with a break
      have hlast := h.last
      rw [List.append_nil, List.getLast?_append,
        List.getLast?_eq_some_getLast (List.cons_ne_nil g gap), Option.some_or, Option.any_some,
        (hgap _ (List.getLast_mem _)).2] at hlast
      cases hlast
    have hlast := h.last
    rw [← List.append_assoc, List.getLast?_append] at hlast
    exact .inr ⟨g, gap, y :: tail, rfl, hgap, fun c hc => h.chars c (by simp [hc]),
      by simpa using htail, by simpa [List.getLast?_cons] using hlast⟩

end Body

section Lines

variable {chomping : Chomping} {indent k : Nat} {start : Mark} {rest : List Char}

/-- A line is read up to its break; then come further breaks and the indentation of the next
line. -/
theorem blockLines_line {x b : Char} {line : List Char} {m : Mark} (hm : m.column = indent)
    (hline : ∀ c ∈ x :: line, isBreak c = false) (hprintable : isPrintable b = true)
    (hbreak : isBreak b = true) (behind : List Char) (chomping : Chomping) (start : Mark)
    (fuel : Nat) (before lead : List Char) (blank : Bool) (breaks : Breaks) :
    ∃ m', m'.column = 0 ∧ ∀ breaks' c,
      Breaks.read (some indent) { stop := m' } m' behind = .ok (breaks', c) →
      blockLines true chomping indent start (fuel + 1) before lead blank breaks
          ⟨x :: line ++ b :: behind, m⟩ =
        blockLines true chomping indent start fuel
          ((x :: line).reverse ++ (breaks.breaks ++ lead ++ before)) [b] (isBlank x) breaks' c := by
  have hspan : Cursor.span ⟨x :: line ++ b :: behind, m⟩ (!isBreak ·) =
      (x :: line, ⟨b :: behind, m.forward (x :: line).length⟩) := by
    have hnot : ∀ c ∈ x :: line, (!isBreak c) = true := fun c hc => by simp [hline c hc]
    have htake : (x :: line ++ b :: behind).takeWhile (!isBreak ·) = x :: line := by
      rw [List.takeWhile_append_of_pos hnot, List.takeWhile_cons_of_neg (by simp [hbreak]),
        List.append_nil]
    have hstop : (b :: behind).head?.all (fun c => !(!isBreak c)) = true := by simp [hbreak]
    have hskip := Cursor.skipWhile_append m hnot hstop
    rw [Cursor.span, htake, Cursor.dropWhile, hskip]
  refine ⟨(m.forward (x :: line).length).nextLine 1, rfl, fun breaks' c hread => ?_⟩
  have hhere : ¬ ((⟨x :: line ++ b :: behind, m⟩ : Cursor).rest = [] ||
      (⟨x :: line ++ b :: behind, m⟩ : Cursor).column ≠ indent) = true := by
    simp [Cursor.column, hm]
  rw [blockLines.eq_def]
  dsimp only
  rw [if_neg hhere, hspan]
  dsimp only
  rw [Cursor.takeBreak_eq hprintable hbreak]
  dsimp only
  rw [hread]
  rfl

/-- Behind the last line, or where there is no line, the breaks of the text are added. -/
theorem blockLines_end (hk : k < indent) {m : Mark} (hm : m.column = k) (fuel : Nat)
    (before lead : List Char) (blank : Bool) (breaks : Breaks) :
    blockLines true chomping indent start (fuel + 1) before lead blank breaks ⟨rest, m⟩ =
      .ok (⟨String.ofList (match chomping with
        | .strip => before
        | .clip => lead ++ before
        | .keep => breaks.breaks ++ (lead ++ before)).reverse, breaks.stop, true⟩, ⟨rest, m⟩) := by
  have hother : ((⟨rest, m⟩ : Cursor).rest = [] ||
      (⟨rest, m⟩ : Cursor).column ≠ indent) = true := by
    have hcolumn : m.column ≠ indent := by omega
    simp [Cursor.column, hcolumn]
  rw [blockLines.eq_def]
  dsimp only
  refine (if_pos hother).trans ?_
  cases chomping <;> rfl

theorem read_behind_lines (hk : k < indent) (hrest : startsVisible rest = true) {bs : List Char}
    (hbs : ∀ c ∈ bs, isPrintable c = true ∧ isBreak c = true) {m : Mark} (hm : m.column = 0)
    (given : Option Nat) (hgiven : ∀ n ∈ given, indent ≤ n) (stop : Mark) :
    ∃ (breaks : Breaks) (m' : Mark), breaks.breaks = bs.reverse ∧ m'.column = k ∧
      Breaks.read given { stop } m (bs ++ (spaces k ++ rest)) = .ok (breaks, ⟨rest, m'⟩) := by
  obtain ⟨stop', m', hm', hread⟩ := Breaks.read_breaks hbs given { stop } (spaces k ++ rest) hm
  refine ⟨⟨bs.reverse, stop', max 0 (m'.forward k).column⟩, m'.forward k, rfl, ?_, ?_⟩
  · rw [Mark.column_forward, hm', Nat.zero_add]
  · have hspaces : ∀ n ∈ given, k ≤ n := fun n hn => Nat.le_trans (Nat.le_of_lt hk) (hgiven n hn)
    rw [hread, Breaks.read_spaces hspaces (by omega), Breaks.read_stop (.inr hrest),
      List.append_nil]

theorem read_before_line {bs cs : List Char}
    (hbs : ∀ c ∈ bs, isPrintable c = true ∧ isBreak c = true) {m : Mark} (hm : m.column = 0)
    (indent : Nat) (hcs : cs.head?.all (!isBreak ·) = true) (stop : Mark) :
    ∃ (breaks : Breaks) (m' : Mark), breaks.breaks = bs.reverse ∧ m'.column = indent ∧
      Breaks.read (some indent) { stop } m (bs ++ (spaces indent ++ cs)) =
        .ok (breaks, ⟨cs, m'⟩) := by
  obtain ⟨stop', m', hm', hread⟩ :=
    Breaks.read_breaks hbs (some indent) { stop } (spaces indent ++ cs) hm
  have hcolumn : (m'.forward indent).column = indent := by
    rw [Mark.column_forward, hm', Nat.zero_add]
  have hwithin : Breaks.isWithin (some indent) (m'.forward indent).column = false := by
    rw [hcolumn]
    exact decide_eq_false (Nat.lt_irrefl _)
  refine ⟨⟨bs.reverse, stop', max 0 indent⟩, m'.forward indent, rfl, hcolumn, ?_⟩
  have hspaces : ∀ n ∈ some indent, indent ≤ n := by simp
  rw [hread, Breaks.read_spaces hspaces (by omega), Breaks.read_stop (.inl ⟨hwithin, hcs⟩),
    List.append_nil, hcolumn]

/-- **The lines of a block are read as they were**, with the breaks behind them that belong to the
text. -/
theorem blockLines_text (hk : k < indent) (hrest : startsVisible rest = true) {body : List Char}
    (hbody : Body body) {b : Char} {bs : List Char}
    (hbreaks : ∀ c ∈ b :: bs, isPrintable c = true ∧ isBreak c = true) (chomping : Chomping)
    (start : Mark) {fuel : Nat} (hfuel : body.length < fuel) (before lead : List Char)
    (blank : Bool) (breaks : Breaks) {m : Mark} (hm : m.column = indent) :
    ∃ stop m', m'.column = k ∧
      blockLines true chomping indent start fuel before lead blank breaks
          ⟨indentedLines indent false (body ++ b :: bs) ++ (spaces k ++ rest), m⟩ =
        .ok (⟨String.ofList ((breaks.breaks ++ lead ++ before).reverse ++
          (body ++ chomped chomping b bs)), stop, true⟩, ⟨rest, m'⟩) := by
  induction fuel generalizing body before lead blank breaks m with
  | zero => exact absurd hfuel (Nat.not_lt_zero _)
  | succ fuel ih =>
    obtain ⟨x, line, hline, rfl | ⟨g, gap, tail, rfl, hgap, htail⟩⟩ := hbody.split
    · -- the last line
      have htext : indentedLines indent false (x :: line ++ b :: bs) ++ (spaces k ++ rest) =
          x :: line ++ b :: (bs ++ (spaces k ++ rest)) := by
        have hlines := indentedLines_line hline (fun c hc => (hbreaks c hc).2) indent []
        rw [List.append_nil, indentedLines, List.append_nil] at hlines
        rw [hlines]
        simp
      obtain ⟨m₁, hm₁, hstep⟩ := blockLines_line hm hline (hbreaks b (.head _)).1
        (hbreaks b (.head _)).2 (bs ++ (spaces k ++ rest)) chomping start fuel before lead blank
        breaks
      obtain ⟨breaks', m₂, hbreaks', hm₂, hread⟩ := read_behind_lines hk hrest
        (fun c hc => hbreaks c (.tail _ hc)) hm₁ (some indent) (by simp) m₁
      obtain ⟨fuel, rfl⟩ : ∃ n, fuel = n + 1 :=
        Nat.exists_eq_add_one.2 (by simp at hfuel; omega)
      refine ⟨breaks'.stop, m₂, hm₂, ?_⟩
      rw [htext, hstep _ _ hread, blockLines_end hk hm₂, hbreaks']
      cases chomping <;> simp [chomped]
    · -- another line follows
      have htext : indentedLines indent false (x :: line ++ g :: (gap ++ tail) ++ b :: bs) ++
          (spaces k ++ rest) = x :: line ++ g :: (gap ++ (spaces indent ++
            (indentedLines indent false (tail ++ b :: bs) ++ (spaces k ++ rest)))) := by
        have hlines := indentedLines_line hline (fun c hc => (hgap c hc).2) indent (tail ++ b :: bs)
        rw [indentedLines_start (htail.first_append _)] at hlines
        simp only [List.append_assoc, List.cons_append] at hlines ⊢
        rw [hlines]
        simp
      obtain ⟨m₁, hm₁, hstep⟩ := blockLines_line hm hline (hgap g (.head _)).1 (hgap g (.head _)).2
        (gap ++ (spaces indent ++ (indentedLines indent false (tail ++ b :: bs) ++
          (spaces k ++ rest)))) chomping start fuel before lead blank breaks
      obtain ⟨breaks', m₂, hbreaks', hm₂, hread⟩ := read_before_line
        (fun c hc => hgap c (.tail _ hc)) hm₁ indent (htail.head_lines indent _ _) m₁
      have hshort : tail.length < fuel := by
        simp at hfuel
        omega
      obtain ⟨stop, m', hm', hrest⟩ := ih htail hshort
        ((x :: line).reverse ++ (breaks.breaks ++ lead ++ before)) [g] (isBlank x) breaks' hm₂
      refine ⟨stop, m', hm', ?_⟩
      rw [htext, hstep _ _ hread, hrest, hbreaks']
      simp

end Lines

/-! ## Headers -/

def signOf : Chomping → List Char
  | .strip => ['-']
  | .clip => []
  | .keep => ['+']

theorem readHeader_eq (start : Mark) (hinted : Bool) (chomping : Chomping) (rest : List Char)
    (m : Mark) : ∃ m', readHeader start
        ⟨(if hinted then ['2'] else []) ++ signOf chomping ++ '\n' :: rest, m⟩ =
      .ok (chomping, if hinted then some 2 else none, ⟨'\n' :: rest, m'⟩) := by
  cases hinted <;> cases chomping <;> exact ⟨_, rfl⟩

/-- What ends the last line of a text that does not end it itself. -/
def endOfText (cs : List Char) : List Char :=
  if (cs.getLast?.map isBreak).getD false then [] else ['\n']

/-- Behind the last line, the breaks of a text are those that its sign promises; a text that ends
without a break is ended by a line feed. -/
theorem chompingSign_cases (before : List Char) {body trail : List Char} (hbody : Body body)
    (htrail : ∀ c ∈ trail, isPrintable c = true ∧ isBreak c = true) : ∃ chomping b bs,
      chompingSign (before ++ (body ++ trail)) = signOf chomping ∧
      trail = chomped chomping b bs ∧
      (∀ c ∈ b :: bs, isPrintable c = true ∧ isBreak c = true) ∧
      body ++ trail ++ endOfText (before ++ (body ++ trail)) = body ++ b :: bs := by
  obtain ⟨x, xs, hx⟩ : ∃ x xs, body.reverse = x :: xs := by
    refine List.exists_cons_of_ne_nil fun hnil => ?_
    have hfirst := hbody.first
    rw [List.reverse_eq_nil_iff.1 hnil] at hfirst
    cases hfirst
  have hxBreak : isBreak x = false := by
    have hlast := hbody.last
    rw [← List.head?_reverse, hx] at hlast
    simpa using hlast
  have hreverse : (before ++ (body ++ trail)).reverse =
      trail.reverse ++ x :: (xs ++ before.reverse) := by
    simp [hx]
  have hlast : (before ++ (body ++ trail)).getLast? =
      (trail.reverse ++ x :: (xs ++ before.reverse)).head? := by
    rw [← List.head?_reverse, hreverse]
  -- only the last two characters of the text decide, and none of them is in front of the body
  rw [endOfText, hlast, chompingSign, hreverse]
  cases htrailReverse : trail.reverse with
  | nil =>
    obtain rfl := List.reverse_eq_nil_iff.1 htrailReverse
    refine ⟨.strip, '\n', [], ?_, rfl, List.forall_mem_singleton.2 (by decide), by simp [hxBreak]⟩
    cases hmore : xs ++ before.reverse <;> simp [hxBreak, signOf]
  | cons b rest =>
    have hb : isBreak b = true := (htrail b (by rw [← List.mem_reverse, htrailReverse]; simp)).2
    cases rest with
    | nil =>
      obtain rfl : trail = [b] := by rw [← List.reverse_reverse trail, htrailReverse]; rfl
      refine ⟨.clip, b, [], ?_, rfl, htrail, by simp [hb]⟩
      simp [hb, hxBreak, signOf]
    | cons d rest =>
      have hd : isBreak d = true := (htrail d (by rw [← List.mem_reverse, htrailReverse]; simp)).2
      obtain ⟨y, ys, rfl⟩ : ∃ y ys, trail = y :: ys := by
        refine List.exists_cons_of_ne_nil ?_
        rintro rfl
        cases htrailReverse
      refine ⟨.keep, y, ys, ?_, rfl, htrail, by simp [hb]⟩
      simp [hb, hd, signOf]

theorem breaks_end {b : Char} {bs : List Char} (hbreaks : ∀ c ∈ b :: bs, isBreak c = true) :
    chompingSign (b :: bs) = signOf .keep ∧ endOfText (b :: bs) = [] := by
  constructor
  · have hreverse : ∀ c ∈ (b :: bs).reverse, isBreak c = true := fun c hc =>
      hbreaks c (List.mem_reverse.1 hc)
    unfold chompingSign
    cases hcs : (b :: bs).reverse with
    | nil => simp at hcs
    | cons c cs =>
      rw [hcs] at hreverse
      cases cs with
      | nil => simp [hreverse c (.head _), signOf]
      | cons d cs => simp [hreverse c (.head _), hreverse d (.tail _ (.head _)), signOf]
  · have hlast := hbreaks _ (List.getLast_mem (List.cons_ne_nil b bs))
    rw [endOfText, List.getLast?_eq_some_getLast (List.cons_ne_nil b bs), Option.map_some, hlast]
    rfl

/-! ## Blocks -/

theorem indentedLines_concat {c : Char} (hc : isBreak c = true) (indent : Nat) (atStart : Bool)
    (cs : List Char) :
    indentedLines indent atStart (cs ++ [c]) = indentedLines indent atStart cs ++ [c] := by
  induction cs generalizing atStart with
  | nil => simp [indentedLines, hc]
  | cons d cs ih =>
    cases hd : isBreak d <;> simp [indentedLines, hd, ih]

theorem indentedLines_text {before body trail bs : List Char} {b : Char}
    (hbefore : ∀ c ∈ before, isBreak c = true) (hbody : Body body)
    (hend : body ++ trail ++ endOfText (before ++ (body ++ trail)) = body ++ b :: bs)
    (indent : Nat) (rest : List Char) :
    indentedLines indent true (before ++ (body ++ trail)) ++
        (endOfText (before ++ (body ++ trail)) ++ rest) =
      before ++ (spaces indent ++ (indentedLines indent false (body ++ b :: bs) ++ rest)) := by
  have hended : indentedLines indent false (body ++ trail) ++
      endOfText (before ++ (body ++ trail)) = indentedLines indent false (body ++ b :: bs) := by
    rw [← hend, endOfText]
    split
    · rw [List.append_nil, List.append_nil]
    · rw [indentedLines_concat rfl]
  rw [indentedLines_breaks hbefore, indentedLines_start (hbody.first_append _), ← hended]
  simp only [List.append_assoc]

theorem length_le_indentedLines (indent : Nat) (atStart : Bool) (cs : List Char) :
    cs.length ≤ (indentedLines indent atStart cs).length := by
  induction cs generalizing atStart with
  | nil => exact Nat.zero_le _
  | cons c cs ih =>
    have htrue := ih true
    have hfalse := ih false
    cases hc : isBreak c <;> simp only [indentedLines, hc, List.length_cons] <;>
      simp <;> omega

theorem exists_breaks {cs : List Char} (h : ∃ c ∈ cs, isBreak c = false) : ∃ breaks c behind,
    cs = breaks ++ c :: behind ∧ (∀ d ∈ breaks, isBreak d = true) ∧ isBreak c = false := by
  have hfind : (cs.find? (!isBreak ·)).isSome = true := by
    rw [List.find?_isSome]
    simpa using h
  obtain ⟨c, hc⟩ := Option.isSome_iff_exists.1 hfind
  obtain ⟨hline, breaks, behind, rfl, hbreaks⟩ := List.find?_eq_some_iff_append.1 hc
  exact ⟨breaks, c, behind, rfl, by simpa using hbreaks, by simpa using hline⟩

/-- A text with a character that is no break is breaks, a body, and again breaks. -/
theorem exists_body {cs : List Char} (hprintable : ∀ c ∈ cs, isPrintable c = true)
    (h : ∃ c ∈ cs, isBreak c = false) : ∃ before body trail,
      cs = before ++ (body ++ trail) ∧ Body body ∧ (∀ c ∈ before, isBreak c = true) ∧
        ∀ c ∈ trail, isBreak c = true := by
  obtain ⟨before, x, behind, rfl, hbefore, hx⟩ := exists_breaks h
  have hx' : ∃ c ∈ (x :: behind).reverse, isBreak c = false := ⟨x, by simp, hx⟩
  obtain ⟨trail, y, rest, hreverse, htrail, hy⟩ := exists_breaks hx'
  have hbehind : x :: behind = rest.reverse ++ [y] ++ trail.reverse := by
    rw [← List.reverse_reverse (x :: behind), hreverse]
    simp
  rw [hbehind] at hprintable ⊢
  refine ⟨before, rest.reverse ++ [y], trail.reverse, rfl, ⟨fun c hc => ?_, ?_, by simp [hy]⟩,
    hbefore, by simpa using htrail⟩
  · exact hprintable c (List.mem_append_right _ (List.mem_append_left _ hc))
  · cases hrest : rest.reverse with
    | nil => simp [hy]
    | cons z rest =>
      rw [hrest] at hbehind
      obtain rfl : x = z := by simpa using congrArg List.head? hbehind
      simp [hx]

/-- The column in which the lines of a block stand: it is given by a hint, or the first line shows
it. -/
theorem read_first_line {before cs : List Char}
    (hbefore : ∀ c ∈ before, isPrintable c = true ∧ isBreak c = true) {m : Mark}
    (hm : m.column = 0) (hcs : cs.head?.all (!isBreak ·) = true) (parent : Nat) {hinted : Bool}
    (hhint : hinted = true ∨ before = [] ∧ startsVisible cs = true) (stop : Mark) :
    ∃ (breaks : Breaks) (m' : Mark), breaks.breaks = before.reverse ∧ m'.column = parent + 2 ∧
      Breaks.read (if hinted then some (parent + 2) else none) { stop } m
        (before ++ (spaces (parent + 2) ++ cs)) = .ok (breaks, ⟨cs, m'⟩) ∧
      (if hinted then some (parent + 2) else none).getD
        (max breaks.widest (max ((parent : Int) + 1).toNat 1)) = parent + 2 := by
  cases hinted with
  | true =>
    obtain ⟨breaks, m', hbreaks, hm', hread⟩ := read_before_line hbefore hm (parent + 2) hcs stop
    exact ⟨breaks, m', hbreaks, hm', hread, rfl⟩
  | false =>
    obtain ⟨rfl, hvisible⟩ := hhint.resolve_left Bool.false_ne_true
    have hcolumn : (m.forward (parent + 2)).column = parent + 2 := by
      rw [Mark.column_forward, hm, Nat.zero_add]
    have hspaces : ∀ k ∈ (none : Option Nat), parent + 2 ≤ k := by simp
    refine ⟨⟨[], stop, max 0 (parent + 2)⟩, m.forward (parent + 2), rfl, hcolumn, ?_, ?_⟩
    · rw [List.nil_append]
      simp only [Bool.false_eq_true, if_false]
      rw [Breaks.read_spaces hspaces (by omega), Breaks.read_stop (.inr hvisible), hcolumn]
    · simp

/-- Behind the header, the breaks before the first line tell the column of the lines. -/
theorem readBlock_header (parent : Nat) (hinted : Bool) (chomping : Chomping) (lines : List Char)
    (m : Mark) : ∃ m', m'.column = 0 ∧ ∀ breaks c,
      Breaks.read (if hinted then some (parent + 2) else none) { stop := m' } m' lines =
        .ok (breaks, c) →
      readBlock true parent
          ⟨'|' :: ((if hinted then ['2'] else []) ++ signOf chomping ++ '\n' :: lines), m⟩ =
        blockLines true chomping ((if hinted then some (parent + 2) else none).getD
          (max breaks.widest (max ((parent : Int) + 1).toNat 1))) m (c.rest.length + 1) [] [] false
          breaks c := by
  obtain ⟨m', hheader⟩ := readHeader_eq m hinted chomping lines m.next
  refine ⟨m'.nextLine 1, rfl, fun breaks c hread => ?_⟩
  have hcomment : (⟨'\n' :: lines, m'⟩ : Cursor).skipComment = ⟨'\n' :: lines, m'⟩ := rfl
  have hgiven : ((if hinted then some 2 else none).map fun n => (parent : Int).toNat + n) =
      if hinted then some (parent + 2) else none := by
    cases hinted <;> rfl
  simp only [readBlock, Cursor.advance, List.tail_cons, hheader, bind, Except.bind, hcomment,
    Cursor.takeBreak_eq (c := '\n') rfl rfl, hgiven, hread]
  rfl

theorem literalText_append (indent : Nat) {cs : List Char} {chomping : Chomping}
    (hsign : chompingSign cs = signOf chomping) (rest : List Char) :
    literalText indent cs ++ rest =
      '|' :: ((if (cs.head?.any fun c => isSpace c || isBreak c) then ['2'] else []) ++
        signOf chomping ++ '\n' :: (indentedLines indent true cs ++ rest)) := by
  rw [literalText, hsign]
  cases cs <;> simp [indentationHint]

section Blocks

variable {parent k : Nat} {rest : List Char}

theorem readBlock_breaks {b : Char} {bs : List Char}
    (hbreaks : ∀ c ∈ b :: bs, isPrintable c = true ∧ isBreak c = true) (hk : k ≤ parent)
    (hrest : startsVisible rest = true) (m : Mark) : ∃ stop m', m'.column = k ∧
      readBlock true parent
          ⟨literalText (parent + 2) (b :: bs) ++ (endOfText (b :: bs) ++ (spaces k ++ rest)), m⟩ =
        .ok (⟨String.ofList (b :: bs), stop, true⟩, ⟨rest, m'⟩) := by
  have hbreak : ∀ c ∈ b :: bs, isBreak c = true := fun c hc => (hbreaks c hc).2
  obtain ⟨hsign, hend⟩ := breaks_end hbreak
  have hlines : indentedLines (parent + 2) true (b :: bs) = b :: bs := by
    have hlines := indentedLines_breaks hbreak (parent + 2) []
    rwa [indentedLines, List.append_nil] at hlines
  rw [hend, List.nil_append, literalText_append _ hsign, hlines]
  have hhint : ((b :: bs).head?.any fun c => isSpace c || isBreak c) = true := by
    simp [hbreak b (.head _)]
  rw [hhint]
  obtain ⟨m₁, hm₁, hheader⟩ := readBlock_header parent true .keep (b :: bs ++ (spaces k ++ rest)) m
  have hk' : k < parent + 2 := by omega
  obtain ⟨breaks, m₂, hkept, hm₂, hread⟩ :=
    read_behind_lines hk' hrest hbreaks hm₁ (some (parent + 2)) (by simp) m₁
  refine ⟨breaks.stop, m₂, hm₂, ?_⟩
  rw [hheader _ _ hread]
  simp only [↓reduceIte, Option.getD_some]
  rw [blockLines_end hk' hm₂, hkept]
  simp

theorem readBlock_lines {cs : List Char} (hprintable : ∀ c ∈ cs, isPrintable c = true)
    (hline : ∃ c ∈ cs, isBreak c = false) (hk : k ≤ parent) (hrest : startsVisible rest = true)
    (m : Mark) : ∃ stop m', m'.column = k ∧
      readBlock true parent
          ⟨literalText (parent + 2) cs ++ (endOfText cs ++ (spaces k ++ rest)), m⟩ =
        .ok (⟨String.ofList cs, stop, true⟩, ⟨rest, m'⟩) := by
  obtain ⟨before, body, trail, rfl, hbody, hbefore, htrail⟩ := exists_body hprintable hline
  have hbefore : ∀ c ∈ before, isPrintable c = true ∧ isBreak c = true := fun c hc =>
    ⟨hprintable c (by simp [hc]), hbefore c hc⟩
  have htrail : ∀ c ∈ trail, isPrintable c = true ∧ isBreak c = true := fun c hc =>
    ⟨hprintable c (by simp [hc]), htrail c hc⟩
  obtain ⟨chomping, b, bs, hsign, hchomped, hbreaks, hend⟩ :=
    chompingSign_cases before hbody htrail
  obtain ⟨x, xs, rfl, hx⟩ := hbody.exists_cons
  have hlines := indentedLines_text (fun c hc => (hbefore c hc).2) hbody hend (parent + 2)
    (spaces k ++ rest)
  rw [literalText_append _ hsign, hlines]
  -- the first line shows where it begins, unless there is a hint
  generalize hhinted : ((before ++ (x :: xs ++ trail)).head?.any fun c => isSpace c || isBreak c) =
    hinted
  have hshown : hinted = true ∨ before = [] ∧ isVisible x = true := by
    cases before with
    | nil =>
      have hxPrintable := hbody.chars x (.head _)
      cases hspace : isSpace x <;>
        simp [← hhinted, isVisible, isBlank_eq_isSpace hxPrintable, hspace, hx]
    | cons c before => simp [← hhinted, (hbefore c (.head _)).2]
  obtain ⟨m₁, hm₁, hheader⟩ := readBlock_header parent hinted chomping (before ++
    (spaces (parent + 2) ++
      (indentedLines (parent + 2) false (x :: xs ++ b :: bs) ++ (spaces k ++ rest)))) m
  have hindented : indentedLines (parent + 2) false (x :: xs ++ b :: bs) =
      x :: indentedLines (parent + 2) false (xs ++ b :: bs) := by
    simp [indentedLines, hx]
  have hhint : hinted = true ∨ before = [] ∧ startsVisible (indentedLines (parent + 2) false
      (x :: xs ++ b :: bs) ++ (spaces k ++ rest)) = true := by
    rw [hindented]
    exact hshown
  obtain ⟨breaks, m₂, hskipped, hm₂, hread, hcolumn⟩ :=
    read_first_line hbefore hm₁ (hbody.head_lines _ _ _) parent hhint m₁
  have hfuel : (x :: xs).length < (indentedLines (parent + 2) false (x :: xs ++ b :: bs) ++
      (spaces k ++ rest)).length + 1 := by
    have hlength := length_le_indentedLines (parent + 2) false (x :: xs ++ b :: bs)
    simp at hlength ⊢
    omega
  have hk' : k < parent + 2 := by omega
  rw [hheader _ _ hread, hcolumn]
  obtain ⟨stop, m', hm', hread⟩ :=
    blockLines_text hk' hrest hbody hbreaks chomping m hfuel [] [] false breaks hm₂
  refine ⟨stop, m', hm', ?_⟩
  rw [hread, hskipped, ← hchomped]
  simp

end Blocks

/-- **A text that is written as a block is read back**, and the cursor then stands at the next
token. -/
theorem readBlock_text {cs : List Char} (h : allowsLiteral cs = true) {parent k : Nat}
    (hk : k ≤ parent) {rest : List Char} (hrest : startsVisible rest = true) (m : Mark) :
    ∃ stop m', m'.column = k ∧
      readBlock true parent
          ⟨literalText (parent + 2) cs ++ (endOfText cs ++ (spaces k ++ rest)), m⟩ =
        .ok (⟨String.ofList cs, stop, true⟩, ⟨rest, m'⟩) := by
  simp only [allowsLiteral, needsEscapes, Bool.not_eq_true', Bool.or_eq_false_iff,
    List.any_eq_false] at h
  obtain ⟨⟨hempty, hprintable, -⟩, -⟩ := h
  have hprintable : ∀ c ∈ cs, isPrintable c = true := by simpa using hprintable
  by_cases hline : ∃ c ∈ cs, isBreak c = false
  · exact readBlock_lines hprintable hline hk hrest m
  · have hbreaks : ∀ c ∈ cs, isPrintable c = true ∧ isBreak c = true := fun c hc =>
      ⟨hprintable c hc, by simpa using fun hbreak => hline ⟨c, hc, hbreak⟩⟩
    cases cs with
    | nil => cases hempty
    | cons b bs => exact readBlock_breaks hbreaks hk hrest m

end FirstClaim.Yaml
