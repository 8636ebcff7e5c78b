import FirstClaim.Json.Reader
import FirstClaim.Json.Value
import Mathlib.Tactic.IntervalCases

/-!
# Reading back JSON strings

A string reads back as it was written, whatever its characters: `readString_stringText`. Where in a
file it stands is of no account, so a statement about reading says that there is some place at which
the reader has arrived.
-/

set_option autoImplicit false

namespace FirstClaim.Json

/-! ## Escapes -/

theorem hexValue?_hexDigit {n : Nat} (h : n < 16) : hexValue? (hexDigit n) = some n := by
  interval_cases n <;> rfl

theorem utf8Size_hexDigit {n : Nat} (h : n < 16) : (hexDigit n).utf8Size = 1 := by
  interval_cases n <;> rfl

theorem readHex_hexDigits {n : Nat} (h : n < 256) (rest : List Char) (place : Place) :
    ∃ place', readHex ⟨'0' :: '0' :: hexDigit (n / 16) :: hexDigit (n % 16) :: rest, place⟩ =
      .ok (n, ⟨rest, place'⟩) := by
  have hhigh : n / 16 < 16 := by omega
  have hlow : n % 16 < 16 := by omega
  have hvalue : hexValue4? ('0' :: '0' :: hexDigit (n / 16) :: hexDigit (n % 16) :: rest) =
      some n := by
    simp only [hexValue4?, hexValue?_hexDigit hhigh, hexValue?_hexDigit hlow]
    rw [show hexValue? '0' = some 0 from rfl]
    refine congrArg some ?_
    omega
  have hplace : Cursor.placeAtBytes? place 4
      ('0' :: '0' :: hexDigit (n / 16) :: hexDigit (n % 16) :: rest) =
        some (['0', '0', hexDigit (n / 16), hexDigit (n % 16)].foldl Cursor.placeAfter place) := by
    simp [Cursor.placeAtBytes?, utf8Size_hexDigit hhigh, utf8Size_hexDigit hlow,
      show Char.utf8Size '0' = 1 from rfl]
  unfold readHex
  rw [hplace]
  dsimp only
  rw [hvalue]
  exact ⟨_, rfl⟩

theorem readChars_escape {c x : Char} (h : escapedChar? x = some c) (hx : x ≠ 'u') (fuel : Nat)
    (before rest : List Char) (place : Place) :
    ∃ place', readChars (fuel + 1) before ⟨'\\' :: x :: rest, place⟩ =
      readChars fuel (c :: before) ⟨rest, place'⟩ := by
  have hescape : ∀ place : Place, ∃ place', readEscape ⟨x :: rest, place⟩ =
      .ok (c, ⟨rest, place'⟩) := by
    intro place
    unfold readEscape
    split
    · rename_i hnil
      cases hnil
    · rename_i cs hu
      cases hu
      exact absurd rfl hx
    · rename_i y ys _ hy
      cases hy
      simp only [h]
      exact ⟨_, rfl⟩
  obtain ⟨place', hread⟩ := hescape (Cursor.placeAfter place '\\')
  refine ⟨place', ?_⟩
  rw [readChars]
  simp only [Cursor.advance, hread]
  rfl

/-- A character is escaped by a letter of its own, by its number or not at all. -/
theorem escapeChar_cases (c : Char) :
    (∃ x, escapeChar c = ['\\', x] ∧ escapedChar? x = some c ∧ x ≠ 'u') ∨
    (c.toNat < 0x20 ∧ escapeChar c =
      ['\\', 'u', '0', '0', hexDigit (c.toNat / 16), hexDigit (c.toNat % 16)]) ∨
    (c ≠ '"' ∧ c ≠ '\\' ∧ ¬ c.toNat < 0x20 ∧ escapeChar c = [c]) := by
  unfold escapeChar
  iterate 7
    split
    · subst_vars
      exact .inl ⟨_, rfl, rfl, by decide⟩
  split
  · exact .inr (.inl ⟨‹_›, rfl⟩)
  · exact .inr (.inr ⟨‹_›, ‹_›, ‹_›, rfl⟩)

/-- **An escaped character is read as that character.** -/
theorem readChars_escapeChar (c : Char) (fuel : Nat) (before rest : List Char) (place : Place) :
    ∃ place', readChars (fuel + 1) before ⟨escapeChar c ++ rest, place⟩ =
      readChars fuel (c :: before) ⟨rest, place'⟩ := by
  obtain ⟨x, hescape, hx, hu⟩ | ⟨hcontrol, hescape⟩ | ⟨hquote, hbackslash, hcontrol, hescape⟩ :=
    escapeChar_cases c
  · rw [hescape]
    exact readChars_escape hx hu fuel before rest place
  · have hsurrogate : ¬ (0xDC00 ≤ c.toNat && c.toNat ≤ 0xDFFF) = true := by
      simp
      omega
    have hlead : ¬ (0xD800 ≤ c.toNat && c.toNat ≤ 0xDBFF) = true := by
      simp
      omega
    obtain ⟨place', hread⟩ := readHex_hexDigits (n := c.toNat) (by omega) rest
      (Cursor.placeAfter (Cursor.placeAfter place '\\') 'u')
    refine ⟨place', ?_⟩
    rw [hescape]
    simp only [List.cons_append, List.nil_append, readChars, readEscape, Cursor.advance, hread,
      bind, Except.bind, if_neg hsurrogate, if_neg hlead, Char.ofNat_toNat]
  · refine ⟨Cursor.placeAfter place c, ?_⟩
    rw [hescape, List.singleton_append, readChars.eq_def]
    dsimp only
    split
    · rename_i hnil
      cases hnil
    · rename_i hcons
      cases hcons
      exact absurd rfl hquote
    · rename_i hcons
      cases hcons
      exact absurd rfl hbackslash
    · rename_i hcons
      cases hcons
      rw [if_neg hcontrol]
      rfl

theorem readChars_escaped (cs : List Char) {fuel : Nat} (hfuel : cs.length < fuel)
    (before rest : List Char) (place : Place) :
    ∃ place', readChars fuel before ⟨cs.flatMap escapeChar ++ '"' :: rest, place⟩ =
      .ok (String.ofList (before.reverse ++ cs), ⟨rest, place'⟩) := by
  induction cs generalizing fuel before place with
  | nil =>
    obtain ⟨fuel, rfl⟩ := Nat.exists_eq_add_one.2 hfuel
    refine ⟨Cursor.placeAfter place '"', ?_⟩
    rw [List.append_nil]
    rfl
  | cons c cs ih =>
    obtain ⟨fuel, rfl⟩ := Nat.exists_eq_add_one.2 (Nat.zero_lt_of_lt hfuel)
    rw [List.flatMap_cons, List.append_assoc]
    obtain ⟨place₁, hfirst⟩ := readChars_escapeChar c fuel before
      (cs.flatMap escapeChar ++ '"' :: rest) place
    obtain ⟨place₂, hrest⟩ := ih (Nat.lt_of_succ_lt_succ hfuel) (c :: before) place₁
    refine ⟨place₂, hfirst.trans (hrest.trans ?_)⟩
    rw [List.reverse_cons, List.append_assoc, List.singleton_append]

theorem escapeChar_ne_nil (c : Char) : escapeChar c ≠ [] := by
  obtain ⟨x, hescape, -⟩ | ⟨-, hescape⟩ | ⟨-, -, -, hescape⟩ := escapeChar_cases c <;>
    rw [hescape] <;> exact List.cons_ne_nil _ _

/-- **A string reads back as it was written.** -/
theorem readString_stringText (s : String) (rest : List Char) (place : Place) :
    ∃ place', readString ⟨s.toList.flatMap escapeChar ++ '"' :: rest, place⟩ =
      .ok (s, ⟨rest, place'⟩) := by
  have hlength : s.toList.length ≤ (s.toList.flatMap escapeChar).length := by
    induction s.toList with
    | nil => exact Nat.le_refl _
    | cons c cs ih =>
      have hone := List.length_pos_iff.2 (escapeChar_ne_nil c)
      rw [List.flatMap_cons, List.length_append, List.length_cons]
      omega
  have hfuel : s.toList.length < (s.toList.flatMap escapeChar ++ '"' :: rest).length + 1 := by
    rw [List.length_append]
    omega
  obtain ⟨place', hread⟩ := readChars_escaped s.toList hfuel [] rest place
  refine ⟨place', hread.trans ?_⟩
  rw [List.reverse_nil, List.nil_append, String.ofList_toList]

end FirstClaim.Json
