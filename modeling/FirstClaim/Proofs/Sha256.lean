import FirstClaim.Sha256
import Mathlib.Logic.Function.Basic

/-!
# What a digest tells

A digest shows the eight words that hashing ends with (`hash`), and no other words have the same
digits (`digestBytes_inj`). So bytes with one digest are the same bytes or they collide.
-/

set_option autoImplicit false

namespace FirstClaim.Sha256

/-- The words behind the last block of bytes. -/
def hash (bytes : List UInt8) : State :=
  compressAll ((toWords (padded bytes)).length / 16) .start (toWords (padded bytes))

/-- Different bytes with the same hash. -/
structure Collide (a b : List UInt8) : Prop where
  ne : a ≠ b
  hash_eq : hash a = hash b

theorem digestBytes_eq (bytes : List UInt8) :
    digestBytes bytes = String.ofList ((hash bytes).words.flatMap wordText) :=
  rfl

/-! ## Digits -/

theorem digitChar_inj {m n : Nat} (hm : m < 16) (hn : n < 16)
    (h : Nat.digitChar m = Nat.digitChar n) : m = n := by
  have hall : ∀ m < 16, ∀ n < 16, Nat.digitChar m = Nat.digitChar n → m = n := by decide
  exact hall m hm n hn h

theorem eq_of_digits {n a b : Nat} (ha : a < Nat.pow 16 n) (hb : b < Nat.pow 16 n)
    (h : ∀ k < n, a / Nat.pow 16 k % 16 = b / Nat.pow 16 k % 16) : a = b := by
  induction n generalizing a b with
  | zero =>
    simp only [Nat.pow_zero, Nat.pow_eq] at ha hb
    omega
  | succ n ih =>
    have hlast : a % 16 = b % 16 := by simpa using h 0 (Nat.zero_lt_succ n)
    have hdiv : a / 16 = b / 16 := by
      have hsucc : Nat.pow 16 (n + 1) = 16 * Nat.pow 16 n := Nat.mul_comm _ _
      rw [hsucc] at ha hb
      refine ih (Nat.div_lt_of_lt_mul ha) (Nat.div_lt_of_lt_mul hb) fun k hk => ?_
      have hnext : Nat.pow 16 (k + 1) = 16 * Nat.pow 16 k := Nat.mul_comm _ _
      have hdigit := h (k + 1) (Nat.succ_lt_succ hk)
      rwa [hnext, ← Nat.div_div_eq_div_mul, ← Nat.div_div_eq_div_mul] at hdigit
    omega

theorem wordText_injective : Function.Injective wordText := by
  intro v w h
  have hdigit : ∀ i < 8,
      v.toNat / Nat.pow 16 (7 - i) % 16 = w.toNat / Nat.pow 16 (7 - i) % 16 := by
    intro i hi
    have hchar : wordDigit v i = wordDigit w i := List.map_inj_left.1 h i (List.mem_range.2 hi)
    exact digitChar_inj (Nat.mod_lt _ (by decide)) (Nat.mod_lt _ (by decide)) hchar
  refine UInt32.toNat_inj.1 (eq_of_digits (n := 8) v.toNat_lt w.toNat_lt fun k hk => ?_)
  have hk' := hdigit (7 - k) (by omega)
  rwa [show 7 - (7 - k) = k by omega] at hk'

@[simp]
theorem length_wordText (w : UInt32) : (wordText w).length = 8 := by
  simp [wordText]

theorem flatMap_wordText_cons_ne_nil (w : UInt32) (ws : List UInt32) :
    (w :: ws).flatMap wordText ≠ [] := by
  rw [List.flatMap_cons]
  exact List.append_ne_nil_of_left_ne_nil (List.ne_nil_of_length_eq_add_one (length_wordText w)) _

/-- Words are known from their digits in turn. -/
theorem flatMap_wordText_injective : Function.Injective (List.flatMap wordText) := by
  intro vs ws h
  induction vs generalizing ws with
  | nil =>
    cases ws with
    | nil => rfl
    | cons w ws => exact absurd h.symm (flatMap_wordText_cons_ne_nil w ws)
  | cons v vs ih =>
    cases ws with
    | nil => exact absurd h (flatMap_wordText_cons_ne_nil v vs)
    | cons w ws =>
      rw [List.flatMap_cons, List.flatMap_cons] at h
      obtain ⟨hfirst, hrest⟩ := List.append_inj h (by simp)
      rw [wordText_injective hfirst, ih hrest]

theorem State.words_injective : Function.Injective State.words := by
  intro s t h
  cases s
  cases t
  simpa [State.words] using h

/-- **A digest tells the hash.** -/
theorem digestBytes_inj {a b : List UInt8} : digestBytes a = digestBytes b ↔ hash a = hash b := by
  rw [digestBytes_eq, digestBytes_eq, String.ofList_inj]
  exact ⟨fun h => State.words_injective (flatMap_wordText_injective h), fun h => by rw [h]⟩

/-- Bytes with the same digest are the same or collide. -/
theorem digestBytes_eq_iff {a b : List UInt8} :
    digestBytes a = digestBytes b ↔ a = b ∨ Collide a b := by
  rw [digestBytes_inj]
  constructor
  · intro h
    by_cases hab : a = b
    · exact .inl hab
    · exact .inr ⟨hab, h⟩
  · rintro (rfl | h)
    · rfl
    · exact h.hash_eq

end FirstClaim.Sha256
