import FirstClaim.Proofs.Yaml.BlockScalars
import FirstClaim.Proofs.Yaml.Lexing
import FirstClaim.Proofs.Yaml.QuotedScalars

/-!
# Tokens of written texts

Whatever style a text is written in, it is given out as a scalar of that text and that style, and
the next token is then found in the next line (`Lexer.gives_text`).
-/

set_option autoImplicit false

namespace FirstClaim.Yaml

/-! ## Styles -/

theorem styleOf_cases (s : String) :
    (styleOf s = .plain ∧ allowsPlain s.toList = true ∧ isMeaningful s = false) ∨
      (styleOf s = .singleQuoted ∧ allowsSingleQuoted s.toList = true ∧ '\n' ∉ s.toList) ∨
      (styleOf s = .literal ∧ allowsLiteral s.toList = true) ∨ styleOf s = .doubleQuoted := by
  unfold styleOf
  dsimp only
  by_cases hlines : '\n' ∈ s.toList
  · cases hliteral : allowsLiteral s.toList <;> simp [hlines]
  · cases hmeaning : isMeaningful s <;> cases hplain : allowsPlain s.toList <;>
      cases hsingle : allowsSingleQuoted s.toList <;> simp [hlines]

/-- What a text that is written plainly begins with. -/
theorem plain_first {x : Char} {w : List Char} (h : allowsPlain (x :: w) = true) :
    isVisible x = true ∧ isPrintable x = true ∧ isIndicator x = false ∧
      (x = '-' ∨ x = '?' ∨ x = ':' → startsBlank w = false) := by
  have hrest := plainRest_of_allowsPlain h
  have hstarts := hrest.starts
  simp only [List.head?_cons, Option.any_some, Bool.and_eq_true] at hstarts
  simp only [allowsPlain, Bool.not_eq_true', Bool.or_eq_false_iff, hasLeadingIndicator] at h
  obtain ⟨⟨-, ⟨⟨hindicator, hblank⟩, -⟩, -⟩, -⟩ := h
  refine ⟨hstarts.1, (hrest.chars x (.head _)).1, hindicator, ?_⟩
  rintro (rfl | rfl | rfl) <;> simpa using hblank

namespace Lexer

/-! ## Reading a scalar -/

theorem readQuoted_eq (style : ScalarStyle) {s s' : Lexer} {scalar : Scalar} {c : Cursor}
    (hnote : s.noteKey = .ok s')
    (hread : Yaml.readQuoted (style == .singleQuoted) s'.cursor = .ok (scalar, c)) :
    s.readQuoted style = .ok { s'.push (.scalar scalar.text style) s'.mark scalar.stop with
      keyAllowed := false, cursor := c } := by
  rw [readQuoted, hnote]
  dsimp only [bind, Except.bind]
  rw [hread]

theorem readBlock_eq (style : ScalarStyle) {s s' : Lexer} {scalar : Scalar} {c : Cursor}
    (hdrop : s.dropKey = .ok s')
    (hread : Yaml.readBlock (style == .literal) s'.indent s'.cursor = .ok (scalar, c)) :
    s.readBlock style = .ok { s'.push (.scalar scalar.text style) s'.mark scalar.stop with
      keyAllowed := true, cursor := c } := by
  rw [readBlock, hdrop]
  dsimp only [bind, Except.bind]
  rw [hread]

section

variable {i k : Nat} (indents : List Int) {rest : List Char} {m : Mark}

/-- What is read behind a colon and a space is given out. -/
theorem gives_behind_colon {x : Char} {behind : List Char} {kind : TokenKind} {start stop : Mark}
    {allowed : Bool} {c : Cursor} {given : Nat} (hbegins : beginsToken (x :: behind) = true)
    (hm : i < m.column)
    (hread : (resting i indents false ⟨x :: behind, m.next⟩ given).readToken x behind =
      .ok { resting i indents allowed c given with queue := [⟨kind, start, stop⟩] })
    (hkind : kind ≠ .streamEnd) (hcost : c.rest.length ≤ behind.length) :
    Gives (resting i indents false ⟨' ' :: x :: behind, m⟩ given) [kind]
      (resting i indents allowed c (given + 1)) := by
  have hskip := skipToToken_spaces hbegins false false 1 (' ' :: x :: behind).length m
  have hnext := readNext_eq (s := resting i indents false ⟨' ' :: x :: behind, m⟩ given) hskip
    (keyless_of_keys rfl).dropStaleKeys
  have hcolumn : (i : Int) ≤ (m.forward 1).column := by
    simp
    omega
  dsimp only at hnext
  rw [closeBlocks_eq hcolumn] at hnext
  refine gives_resting rfl (hnext.trans hread) ?_ ?_
  · intro t ht
    rw [List.mem_singleton.1 ht]
    exact hkind
  · simp [resting]
    omega

theorem gives_plain {cs : List Char} (h : allowsPlain cs = true) (hm : i < m.column) (hk : k ≤ i)
    (hrest : beginsToken rest = true) (given : Nat) : ∃ s',
      Gives (resting i indents false ⟨' ' :: (cs ++ '\n' :: (spaces k ++ rest)), m⟩ given)
        [.scalar (String.ofList cs) .plain] s' ∧ Before i indents k rest s' := by
  have hcolumn : i + 1 ≤ m.next.column := Nat.succ_le_succ (Nat.le_of_lt hm)
  obtain ⟨stop, m', hm', hread⟩ := readPlain_text h (Nat.lt_succ_of_le hk)
    (startsVisible_of_beginsToken hrest) (Nat.succ_pos m.column) hcolumn
  cases cs with
  | nil => cases h
  | cons x w =>
    obtain ⟨hvisible, hprintable, hindicator, hword⟩ := plain_first h
    have hbegins : beginsToken (x :: (w ++ '\n' :: (spaces k ++ rest))) = true := by
      have hnumber : x ≠ '#' := by
        rintro rfl
        cases hindicator
      have hmark : x ≠ '\ufeff' := by
        rintro rfl
        cases hprintable
      simp [beginsToken, hvisible, hnumber, hmark]
    have hwordBehind : x = '-' ∨ x = '?' ∨ x = ':' →
        startsBlank (w ++ '\n' :: (spaces k ++ rest)) = false := by
      intro hx
      cases w with
      | nil => cases hword hx
      | cons y w => exact hword hx
    have htoken := readToken_plain
      (s := resting i indents false ⟨x :: (w ++ '\n' :: (spaces k ++ rest)), m.next⟩ given) rfl
      hvisible hindicator hwordBehind (.inl (Nat.succ_ne_zero m.column))
    have hplain := readPlain_eq
      (s := resting i indents false ⟨x :: (w ++ '\n' :: (spaces k ++ rest)), m.next⟩ given) rfl
      hread
    have hbehind := before_spaces i indents hrest (n := 0) hm' (given + 1)
    have hgives := gives_behind_colon indents hbegins hm (htoken.trans hplain) (by simp)
      (by simp; omega)
    exact ⟨_, hgives, hbehind⟩

theorem gives_double (cs : List Char) (hm : i < m.column) (hrest : beginsToken rest = true)
    (given : Nat) : ∃ s', Gives (resting i indents false
        ⟨' ' :: '"' :: (cs.flatMap escapedText ++ '"' :: '\n' :: (spaces k ++ rest)), m⟩ given)
      [.scalar (String.ofList cs) .doubleQuoted] s' ∧ Before i indents k rest s' := by
  obtain ⟨m', hread⟩ := readQuoted_double cs ('\n' :: (spaces k ++ rest)) m.next
  have htoken : ∀ (s : Lexer) (behind : List Char),
      s.readToken '"' behind = s.readQuoted .doubleQuoted := by
    intro s behind
    simp [readToken, startsWithIndicator_eq_false]
  have hquoted := readQuoted_eq .doubleQuoted (s := resting i indents false
    ⟨'"' :: (cs.flatMap escapedText ++ '"' :: '\n' :: (spaces k ++ rest)), m.next⟩ given) rfl hread
  have hgives := gives_behind_colon indents rfl hm ((htoken _ _).trans hquoted) (by simp)
    (by simp; omega)
  exact ⟨_, hgives, before_newLine i indents hrest m' false k (given + 1)⟩

theorem gives_single {cs : List Char} (h : allowsSingleQuoted cs = true) (hlines : '\n' ∉ cs)
    (hm : i < m.column) (hrest : beginsToken rest = true) (given : Nat) : ∃ s',
      Gives (resting i indents false
        ⟨' ' :: '\'' :: (singleQuotedText (i + 2) false cs ++ '\n' :: (spaces k ++ rest)), m⟩ given)
        [.scalar (String.ofList cs) .singleQuoted] s' ∧ Before i indents k rest s' := by
  have hbehind : ('\n' :: (spaces k ++ rest)).head? ≠ some '\'' := by simp
  obtain ⟨m', hread⟩ := readQuoted_single h hlines (Nat.succ_pos (i + 1)) hbehind m.next
  have htoken : ∀ (s : Lexer) (behind : List Char),
      s.readToken '\'' behind = s.readQuoted .singleQuoted := by
    intro s behind
    simp [readToken, startsWithIndicator_eq_false]
  have hquoted := readQuoted_eq .singleQuoted (s := resting i indents false
    ⟨'\'' :: (singleQuotedText (i + 2) false cs ++ '\n' :: (spaces k ++ rest)), m.next⟩ given) rfl
    hread
  have hgives := gives_behind_colon indents rfl hm ((htoken _ _).trans hquoted) (by simp) (by simp)
  exact ⟨_, hgives, before_newLine i indents hrest m' false k (given + 1)⟩

theorem gives_literal {cs : List Char} (h : allowsLiteral cs = true) (hm : i < m.column)
    (hk : k ≤ i) (hrest : beginsToken rest = true) (given : Nat) : ∃ s',
      Gives (resting i indents false ⟨' ' :: (literalText (i + 2) cs ++
          (endOfText cs ++ (spaces k ++ rest))), m⟩ given)
        [.scalar (String.ofList cs) .literal] s' ∧ Before i indents k rest s' := by
  obtain ⟨stop, m', hm', hread⟩ := readBlock_text h hk (startsVisible_of_beginsToken hrest) m.next
  have htoken : ∀ (s : Lexer) (behind : List Char), s.inFlow = false →
      s.readToken '|' behind = s.readBlock .literal := by
    intro s behind hflow
    simp [readToken, startsWithIndicator_eq_false, hflow]
  have hblock := readBlock_eq .literal (s := resting i indents false
    ⟨literalText (i + 2) cs ++ (endOfText cs ++ (spaces k ++ rest)), m.next⟩ given) rfl hread
  have hbehind := before_spaces i indents hrest (n := 0) hm' (given + 1)
  have hgives := gives_behind_colon indents rfl hm ((htoken _ _ rfl).trans hblock) (by simp)
    (by simp; omega)
  exact ⟨_, hgives, hbehind⟩

/-- **A text is given out as it was written**, and the next token is found in the next line. -/
theorem gives_text (text : String) (hm : i < m.column) (hk : k ≤ i)
    (hrest : beginsToken rest = true) (given : Nat) : ∃ s',
      Gives (resting i indents false
        ⟨' ' :: (scalarText (i + 2) text ++ (spaces k ++ rest)), m⟩ given)
        [.scalar text (styleOf text)] s' ∧ Before i indents k rest s' := by
  have htext : String.ofList text.toList = text := String.ofList_toList
  unfold scalarText
  rcases styleOf_cases text with ⟨hstyle, h, -⟩ | ⟨hstyle, h, hlines⟩ | ⟨hstyle, h⟩ | hstyle <;>
    rw [hstyle] <;> dsimp only
  · have hgives := gives_plain indents h hm hk hrest given
    rw [htext] at hgives
    simpa using hgives
  · have hgives := gives_single indents (k := k) h hlines hm hrest given
    rw [htext] at hgives
    simpa using hgives
  · have hgives := gives_literal indents h hm hk hrest given
    rw [htext] at hgives
    simpa [endOfText] using hgives
  · have hgives := gives_double indents (k := k) text.toList hm hrest given
    rw [htext] at hgives
    simpa using hgives

end

end Lexer

end FirstClaim.Yaml
