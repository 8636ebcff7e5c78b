import FirstClaim.Proofs.Yaml.Gaps
import Mathlib.Tactic.IntervalCases

/-!
# Reading back escapes

Between quotation marks a character is written as it is, by a letter or by its number in hexadecimal
digits. Each is read as the character (`readEscape_letter`, `readEscape_number`), so that a run of
characters without spaces is read as it was (`doubleRun_text`).
-/

set_option autoImplicit false

namespace FirstClaim.Yaml

/-! ## Numbers -/

theorem hexValue?_digitChar {n : Nat} (h : n < 16) :
    hexValue? n.digitChar.toUpper = some n := by
  interval_cases n <;> rfl

theorem hexNumber?_digits (v n : Nat) (rest : List Char) :
    hexNumber? ((Nat.toDigits 16 v).length + n) 0 ((Nat.toDigits 16 v).map Char.toUpper ++ rest) =
      hexNumber? n v rest := by
  induction v using Nat.strongRecOn generalizing n rest with
  | _ v ih =>
    rw [Nat.toDigits_eq_if (by decide)]
    split
    · rename_i hv
      simp only [List.map_cons, List.map_nil, List.length_singleton, List.singleton_append,
        Nat.add_comm 1 n, hexNumber?, hexValue?_digitChar hv, Option.bind_some, Nat.mul_zero,
        Nat.zero_add]
    · rename_i hv
      have hlast : v % 16 < 16 := Nat.mod_lt _ (by decide)
      have hvalue : 16 * (v / 16) + v % 16 = v := Nat.div_add_mod v 16
      have hfirst := ih (v / 16) (by omega) (n + 1) ((v % 16).digitChar.toUpper :: rest)
      simp only [List.map_append, List.map_cons, List.map_nil, List.length_append,
        List.length_singleton, List.append_assoc, List.singleton_append, Nat.add_assoc,
        Nat.add_comm 1 n]
      rw [hfirst]
      simp only [hexNumber?, hexValue?_digitChar hlast, Option.bind_some, hvalue]

theorem hexNumber?_zeros (k n : Nat) (rest : List Char) :
    hexNumber? (k + n) 0 (List.replicate k '0' ++ rest) = hexNumber? n 0 rest := by
  induction k with
  | zero => rw [Nat.zero_add]; rfl
  | succ k ih =>
    have hzero : hexValue? '0' = some 0 := rfl
    rw [Nat.add_right_comm, List.replicate_succ, List.cons_append, hexNumber?, hzero]
    exact ih

/-- **A number in `n` digits is read as the number.** -/
theorem hexNumber?_hexText {n v : Nat} (h : (Nat.toDigits 16 v).length ≤ n) (rest : List Char) :
    hexNumber? n 0 (hexText n v ++ rest) = some v := by
  obtain ⟨k, rfl⟩ := Nat.exists_eq_add_of_le' h
  unfold hexText
  dsimp only
  rw [List.length_map, Nat.add_sub_cancel, List.append_assoc, hexNumber?_zeros]
  exact hexNumber?_digits v 0 rest

theorem length_hexText {n v : Nat} (h : (Nat.toDigits 16 v).length ≤ n) :
    (hexText n v).length = n := by
  unfold hexText
  simp only [List.length_append, List.length_replicate, List.length_map]
  omega

/-! ## Escapes -/

theorem some_of_ite {p : Prop} [Decidable p] {x y : Char} {other : Option Char}
    (h : (if p then some x else other) = some y) : p ∧ x = y ∨ other = some y := by
  split at h
  · exact .inl ⟨‹p›, Option.some.inj h⟩
  · exact .inr h

theorem escapedChar?_letter {c x : Char} (h : escapeLetter? c = some x) :
    escapedChar? x = some c ∧ isBreak x = false := by
  unfold escapeLetter? at h
  iterate 15
    rcases some_of_ite h with ⟨rfl, rfl⟩ | h
    · exact ⟨rfl, rfl⟩
  cases h

theorem advanceBy_append (skipped rest : List Char) (m : Mark) :
    Cursor.advanceBy skipped.length ⟨skipped ++ rest, m⟩ = ⟨rest, m.forward skipped.length⟩ := by
  induction skipped generalizing m with
  | nil => rfl
  | cons c skipped ih => exact (ih m.next).trans (by rw [Mark.forward_next]; rfl)

theorem readEscape_letter {c x : Char} (h : escapedChar? x = some c) (start m : Mark)
    (rest : List Char) :
    readEscape start ⟨'\\' :: x :: rest, m⟩ = .ok (c, ⟨rest, m.forward 2⟩) := by
  unfold readEscape
  simp only [Cursor.advance, Cursor.head?, List.tail_cons, List.head?_cons, h]
  exact congrArg (fun c' => Except.ok (c, c')) (advanceBy_append ['\\', x] rest m)

theorem readEscape_number {c x : Char} {n : Nat} (hletter : escapedChar? x = none)
    (hx : escapeLength? x = some n) (h : (Nat.toDigits 16 c.toNat).length ≤ n) (start m : Mark)
    (rest : List Char) : readEscape start ⟨'\\' :: x :: (hexText n c.toNat ++ rest), m⟩ =
      .ok (c, ⟨rest, m.forward (2 + n)⟩) := by
  have hbehind : Cursor.advanceBy 2 ⟨'\\' :: x :: (hexText n c.toNat ++ rest), m⟩ =
      ⟨hexText n c.toNat ++ rest, m.forward 2⟩ :=
    advanceBy_append ['\\', x] _ m
  have hnumber := advanceBy_append (hexText n c.toNat) rest (m.forward 2)
  rw [length_hexText h] at hnumber
  have hvalid : c.toNat.isValidChar := c.valid
  unfold readEscape
  simp only [Cursor.advance, Cursor.head?, List.tail_cons, List.head?_cons, hletter, hx, hbehind,
    hexNumber?_hexText h, if_pos hvalid, Char.ofNat_toNat, hnumber, Mark.forward_forward]

/-- A character is written as it is, by a letter or by its number. -/
theorem escapedText_cases (c : Char) :
    (escapedText c = [c] ∧ isPrintable c = true ∧ isBreak c = false ∧ c ≠ '"' ∧ c ≠ '\\') ∨
    (∃ x, escapedText c = ['\\', x] ∧ isBreak x = false ∧ escapedChar? x = some c) ∨
    ∃ x n, escapedText c = '\\' :: x :: hexText n c.toNat ∧ isBreak x = false ∧
      escapedChar? x = none ∧ escapeLength? x = some n ∧
      (Nat.toDigits 16 c.toNat).length ≤ n := by
  unfold escapedText
  split
  · rename_i h
    simp only [Bool.and_eq_true, Bool.not_eq_true', decide_eq_true_eq] at h
    exact .inl ⟨rfl, h.1.1.1, h.1.1.2, h.1.2, h.2⟩
  · split
    · rename_i x hx
      obtain ⟨hchar, hbreak⟩ := escapedChar?_letter hx
      exact .inr (.inl ⟨x, rfl, hbreak, hchar⟩)
    · refine .inr (.inr ?_)
      dsimp only
      split
      · rename_i h
        exact ⟨'x', 2, rfl, rfl, rfl, rfl, (Nat.length_toDigits_le_iff (by decide) (by decide)).2
          (Nat.lt_of_le_of_lt h (by decide))⟩
      · split
        · rename_i h
          exact ⟨'u', 4, rfl, rfl, rfl, rfl, (Nat.length_toDigits_le_iff (by decide) (by decide)).2
            (Nat.lt_of_le_of_lt h (by decide))⟩
        · have h : c.toNat < 0x110000 := by
            rcases c.valid with h | ⟨-, h⟩
            · exact Nat.lt_trans h (by decide)
            · exact h
          exact ⟨'U', 8, rfl, rfl, rfl, rfl, (Nat.length_toDigits_le_iff (by decide) (by decide)).2
            (Nat.lt_trans h (by decide))⟩

/-! ## Runs -/

theorem doubleRun_escape {c x : Char} {rest : List Char} {start m : Mark} {behind : Cursor}
    (hx : isBreak x = false) (h : readEscape start ⟨'\\' :: x :: rest, m⟩ = .ok (c, behind))
    (fuel : Nat) (before : List Char) :
    doubleRun start (fuel + 1) before ⟨'\\' :: x :: rest, m⟩ =
      doubleRun start fuel (c :: before) behind := by
  have hhead : ¬ (x :: rest).head?.map isBreak = some true := by simp [hx]
  rw [doubleRun.eq_def]
  dsimp only
  split
  · rename_i heq
    cases heq
  · rename_i heq
    cases heq
    rw [if_neg hhead, h]
    rfl
  · rename_i hne heq
    cases heq
    exact (hne rfl).elim

theorem doubleRun_escapedText {c : Char} (hc : c ≠ ' ') (start : Mark) (fuel : Nat)
    (before rest : List Char) (m : Mark) : ∃ m', m.column ≤ m'.column ∧
      doubleRun start (fuel + 1) before ⟨escapedText c ++ rest, m⟩ =
        doubleRun start fuel (c :: before) ⟨rest, m'⟩ := by
  obtain ⟨htext, hprintable, hbreak, hquote, hbackslash⟩ | ⟨x, htext, hbreak, hx⟩ |
    ⟨x, n, htext, hbreak, hletter, hx, hlength⟩ := escapedText_cases c
  · refine ⟨m.next, Nat.le_succ _, ?_⟩
    have hblank : isBlank c = false := by simp [isBlank, hc, ne_tab hprintable]
    rw [htext, List.singleton_append, doubleRun.eq_def]
    dsimp only
    split
    · rename_i heq
      cases heq
    · rename_i heq
      cases heq
      exact absurd rfl hbackslash
    · rename_i heq
      cases heq
      simp only [hquote, hblank, hbreak, Bool.or_false, decide_false, Bool.false_eq_true, if_false]
      rfl
  · refine ⟨m.forward 2, Nat.le_add_right _ _, ?_⟩
    rw [htext]
    exact doubleRun_escape hbreak (readEscape_letter hx start m rest) fuel before
  · refine ⟨m.forward (2 + n), Nat.le_add_right _ _, ?_⟩
    rw [htext]
    exact doubleRun_escape hbreak (readEscape_number hletter hx hlength start m rest) fuel before

theorem doubleRun_stop {x : Char} (hx : x = '"' ∨ x = ' ') (start : Mark) (fuel : Nat)
    (before rest : List Char) (m : Mark) :
    doubleRun start fuel before ⟨x :: rest, m⟩ = .ok (before, false, ⟨x :: rest, m⟩) := by
  cases fuel with
  | zero => rfl
  | succ fuel => rcases hx with rfl | rfl <;> rfl

/-- **A run of characters without spaces is read as it was.** -/
theorem doubleRun_text {w : List Char} (hw : ∀ c ∈ w, c ≠ ' ') {x : Char}
    (hx : x = '"' ∨ x = ' ') (start : Mark) {fuel : Nat} (hfuel : w.length ≤ fuel)
    (before rest : List Char) (m : Mark) : ∃ m', m.column ≤ m'.column ∧
      doubleRun start fuel before ⟨w.flatMap escapedText ++ x :: rest, m⟩ =
        .ok (w.reverse ++ before, false, ⟨x :: rest, m'⟩) := by
  induction w generalizing fuel before m with
  | nil => exact ⟨m, Nat.le_refl _, doubleRun_stop hx start fuel before rest m⟩
  | cons c w ih =>
    obtain ⟨fuel, rfl⟩ := Nat.exists_eq_add_one.2 (Nat.lt_of_lt_of_le (Nat.succ_pos _) hfuel)
    obtain ⟨m₁, hm₁, hfirst⟩ := doubleRun_escapedText (hw c (.head _)) start fuel before
      (w.flatMap escapedText ++ x :: rest) m
    obtain ⟨m₂, hm₂, hrest⟩ := ih (fun d hd => hw d (.tail _ hd)) (Nat.le_of_succ_le_succ hfuel)
      (c :: before) m₁
    refine ⟨m₂, Nat.le_trans hm₁ hm₂, ?_⟩
    rw [List.flatMap_cons, List.append_assoc, hfirst, hrest, List.reverse_cons, List.append_assoc]
    rfl

end FirstClaim.Yaml
