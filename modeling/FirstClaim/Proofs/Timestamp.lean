import FirstClaim.Timestamp.Reader

/-!
# Reading back points in time

A point in time reads back as it was written (`Timestamp.parse_text`), in every year and with any
fraction of a second. `Digits ds n` says that `ds` are digits for `n`; numbers are written with at
least as many digits as the reader takes, so nothing of what stands behind them is taken.
-/

set_option autoImplicit false

namespace FirstClaim

namespace Unicode

theorem blanks_eq : blanks =
    ⟨[⟨9, 13⟩, ⟨32, 32⟩, ⟨133, 133⟩, ⟨160, 160⟩, ⟨5760, 5760⟩, ⟨8192, 8202⟩, ⟨8232, 8233⟩,
      ⟨8239, 8239⟩, ⟨8287, 8287⟩, ⟨12288, 12288⟩]⟩ := by
  unfold blanks binary CharSet.ofCounts CharSet.readCounts
  simp only [String.foldl_eq_foldl_toList]
  decide +kernel

theorem isBlank_eq_false {c : Char} (h : 32 < c.toNat) (h' : c.toNat < 133) :
    isBlank c = false := by
  simp only [isBlank, CharSet.contains, CharSet.hasCode, blanks_eq, List.any_cons, List.any_nil,
    CodeRange.has, Bool.or_false, Bool.or_eq_false_iff, Bool.and_eq_false_iff,
    decide_eq_false_iff_not]
  omega

end Unicode

theorem toNat_of_isDigit {c : Char} (h : c.isDigit = true) : 48 ≤ c.toNat ∧ c.toNat ≤ 57 := by
  simpa [Char.isDigit, UInt32.le_iff_toNat_le] using h

theorem isBlank_of_isDigit {c : Char} (h : c.isDigit = true) : Unicode.isBlank c = false := by
  have hc := toNat_of_isDigit h
  exact Unicode.isBlank_eq_false (by omega) (by omega)

namespace Timestamp

/-! ## Digits -/

/-- Decimal digits for a number, at least one. -/
structure Digits (ds : List Char) (n : Nat) : Prop where
  digit : ∀ c ∈ ds, c.isDigit = true
  nonempty : ds ≠ []
  value : digitsValue ds = n

theorem digitsValue_eq (ds : List Char) : digitsValue ds = Nat.ofDigitChars 10 ds 0 := by
  rw [Nat.ofDigitChars_eq_foldl, digitsValue]
  congr 1
  funext n c
  rw [Nat.mul_comm]

theorem digits_paddedDigits (width n : Nat) : Digits (paddedDigits width n) n := by
  unfold paddedDigits
  dsimp only
  refine ⟨fun c hc => ?_, fun hnil => ?_, ?_⟩
  · rcases List.mem_append.1 hc with hzero | hdigit
    · rw [List.eq_of_mem_replicate hzero]
      rfl
    · exact Nat.isDigit_of_mem_toDigits (by decide) (by decide) hdigit
  · exact Nat.toDigits_ne_nil (List.append_eq_nil_iff.1 hnil).2
  · rw [digitsValue_eq, Nat.ofDigitChars_append, Nat.ofDigitChars_replicate_zero, Nat.mul_zero,
      Nat.ofDigitChars_ten_toDigits]

theorem length_paddedDigits {width n : Nat} (hwidth : 0 < width) (h : n < Nat.pow 10 width) :
    (paddedDigits width n).length = width := by
  have hdigits : (Nat.toDigits 10 n).length ≤ width :=
    (Nat.length_toDigits_le_iff (by decide) hwidth).2 h
  unfold paddedDigits
  simp only [List.length_append, List.length_replicate]
  omega

/-- What digits may stand before without being taken for more digits. -/
def Ends (rest : List Char) : Prop :=
  ∀ c ∈ rest.head?, c.isDigit = false

theorem Ends.takeWhile {rest : List Char} (h : Ends rest) : rest.takeWhile Char.isDigit = [] := by
  cases rest with
  | nil => rfl
  | cons c cs => exact List.takeWhile_cons_of_neg (by simp [h c rfl])

section Digits

variable {ds : List Char} {n : Nat}

theorem Digits.takeWhile (h : Digits ds n) (rest : List Char) :
    (ds ++ rest).takeWhile Char.isDigit = ds ++ rest.takeWhile Char.isDigit :=
  List.takeWhile_append_of_pos h.digit

theorem Digits.dropBlanks (h : Digits ds n) (rest : List Char) :
    dropBlanks (ds ++ rest) = ds ++ rest := by
  obtain ⟨c, cs, rfl⟩ := List.exists_cons_of_ne_nil h.nonempty
  have hblank := isBlank_of_isDigit (h.digit c (.head _))
  exact List.dropWhile_cons_of_neg (by simp [hblank])

theorem Digits.readDigits (h : Digits ds n) {rest : List Char} (hrest : Ends rest) :
    readDigits (ds ++ rest) = .ok (ds, rest) := by
  unfold Timestamp.readDigits
  dsimp only
  rw [h.takeWhile, hrest.takeWhile, List.append_nil, if_neg (by simpa using h.nonempty),
    List.drop_left]

/-- As many digits as the width says are read, whatever stands behind them. -/
theorem Digits.readNumber (h : Digits ds n) {width : Nat} (hwidth : ds.length = width)
    (rest : List Char) : readNumber width (ds ++ rest) = .ok (n, rest) := by
  have hread : Timestamp.readDigits (ds ++ rest) =
      .ok (ds ++ rest.takeWhile Char.isDigit,
        (ds ++ rest).drop (ds ++ rest.takeWhile Char.isDigit).length) := by
    unfold Timestamp.readDigits
    dsimp only
    rw [h.takeWhile, if_neg (by simp [h.nonempty])]
  unfold Timestamp.readNumber
  rw [hread]
  simp only [bind, Except.bind, ← hwidth, List.take_left, List.drop_left, h.value]

end Digits

/-! ## Fields -/

theorem readField_padded (low high : Nat) {n : Nat} (hlow : low ≤ n) (hhigh : n ≤ high)
    (h : n < 100) (rest : List Char) :
    readField low high (paddedDigits 2 n ++ rest) = .ok (n, rest) := by
  have hdigits := digits_paddedDigits 2 n
  have hnumber := hdigits.readNumber (length_paddedDigits (by decide) h) rest
  unfold readField
  rw [hdigits.dropBlanks, hnumber]
  simp only [bind, Except.bind]
  exact if_pos ⟨hlow, hhigh⟩

theorem dropBlanks_cons {c : Char} (h : Unicode.isBlank c = false) (cs : List Char) :
    dropBlanks (c :: cs) = c :: cs :=
  List.dropWhile_cons_of_neg (by simp [h])

theorem readSign_cons {sign : Char} (h : Unicode.isBlank sign = false) (rest : List Char) :
    readSign sign (sign :: rest) = .ok rest := by
  unfold readSign
  rw [dropBlanks_cons h]
  exact if_pos rfl

theorem isBlank_minus : Unicode.isBlank '-' = false :=
  Unicode.isBlank_eq_false (by decide) (by decide)

theorem isBlank_plus : Unicode.isBlank '+' = false :=
  Unicode.isBlank_eq_false (by decide) (by decide)

theorem isBlank_colon : Unicode.isBlank ':' = false :=
  Unicode.isBlank_eq_false (by decide) (by decide)

/-- **A year reads back as it was written**, with or without a sign. -/
theorem readYear_yearText {year : Int} (h : -262143 ≤ year ∧ year ≤ 262142) {rest : List Char}
    (hrest : Ends rest) : readYear (yearText year ++ rest) = .ok (year, rest) := by
  have hdigits := digits_paddedDigits 4 year.natAbs
  have hbounds : -(Nat.pow 2 31 : Int) ≤ year ∧ year < Nat.pow 2 31 := by
    rw [show Nat.pow 2 31 = 2147483648 from rfl]
    omega
  unfold yearText
  -- a sign stands in front of a year before 0 or of more than four digits
  split
  · have hyear : -(year.natAbs : Int) = year := by omega
    unfold readYear
    rw [List.cons_append, dropBlanks_cons isBlank_minus]
    simp only [bind, Except.bind, hdigits.readDigits hrest, hdigits.value, hyear]
    exact if_pos hbounds
  · split
    · have hyear : (year.natAbs : Int) = year := by omega
      have hnumber := hdigits.readNumber (length_paddedDigits (by decide)
        (show year.natAbs < 10000 by omega)) rest
      obtain ⟨c, cs, hcons⟩ := List.exists_cons_of_ne_nil hdigits.nonempty
      have hc : c.isDigit = true := hdigits.digit c (hcons ▸ List.mem_cons_self)
      unfold readYear
      rw [hdigits.dropBlanks]
      rw [hcons] at hnumber ⊢
      split
      · rename_i heq
        cases heq
        exact absurd hc (by decide)
      · rename_i heq
        cases heq
        exact absurd hc (by decide)
      · simp only [bind, Except.bind, hnumber, hyear]
        exact if_pos hbounds
    · have hyear : (year.natAbs : Int) = year := by omega
      unfold readYear
      rw [List.cons_append, dropBlanks_cons isBlank_plus]
      simp only [bind, Except.bind, hdigits.readDigits hrest, hdigits.value, hyear]
      exact if_pos hbounds

/-- The decimals of a second, in groups of three, reach as far as they count. -/
theorem readFraction_group {width n : Nat} (hwidth : 0 < width) (hnine : width ≤ 9)
    (h : n < Nat.pow 10 width) {rest : List Char} (hrest : Ends rest) :
    readFraction ('.' :: (paddedDigits width n ++ rest)) =
      .ok (n * Nat.pow 10 (9 - width), rest) := by
  have hdigits := digits_paddedDigits width n
  have hlength := length_paddedDigits hwidth h
  have htake : (paddedDigits width n).take 9 = paddedDigits width n :=
    List.take_of_length_le (by omega)
  simp only [readFraction, bind, Except.bind, hdigits.readDigits hrest, htake, hdigits.value,
    hlength]

/-- **A fraction of a second reads back as it was written.** -/
theorem readFraction_fractionText {n : Nat} (h : n < 1000000000) {c : Char} (hc : c ≠ '.')
    (hdigit : c.isDigit = false) (rest : List Char) :
    readFraction (fractionText n ++ c :: rest) = .ok (n, c :: rest) := by
  have hends : Ends (c :: rest) := by
    intro d hd
    cases hd
    exact hdigit
  unfold fractionText
  split
  · subst n
    unfold readFraction
    split
    · rename_i heq
      cases heq
      exact absurd rfl hc
    · rfl
  · split
    · rw [List.cons_append, readFraction_group (by decide) (by decide) (by
        show n / 1000000 < 1000
        omega) hends]
      rw [show Nat.pow 10 (9 - 3) = 1000000 from rfl, Nat.div_mul_cancel (by omega)]
    · split
      · rw [List.cons_append, readFraction_group (by decide) (by decide) (by
          show n / 1000 < 1000000
          omega) hends]
        rw [show Nat.pow 10 (9 - 6) = 1000 from rfl, Nat.div_mul_cancel (by omega)]
      · rw [List.cons_append, readFraction_group (by decide) (by decide) h hends]
        rw [show Nat.pow 10 (9 - 9) = 1 from rfl, Nat.mul_one]

/-! ## Dates and times -/

theorem daysInMonth_le (year : Int) (month : Nat) : daysInMonth year month ≤ 31 := by
  unfold daysInMonth
  split
  · split <;> decide
  all_goals decide

theorem ends_minus (rest : List Char) : Ends ('-' :: rest) := by
  intro c hc
  cases hc
  rfl

/-- **A date reads back as it was written.** -/
theorem readDate_text (d : Date) (rest : List Char) :
    readDate (d.text ++ rest) = .ok ((d.year, d.month, d.day), rest) := by
  have hmonth := d.month_bounds
  have hday := d.day_bounds
  have hdays := daysInMonth_le d.year d.month
  unfold readDate Date.text
  simp only [List.append_assoc, List.cons_append, bind, Except.bind,
    readYear_yearText d.year_bounds (ends_minus _), readSign_cons isBlank_minus,
    readField_padded 1 12 hmonth.1 hmonth.2 (by omega),
    readField_padded 1 31 hday.1 (by omega) (by omega)]

/-- **A time reads back as it was written.** -/
theorem readTime_text (t : Time) {c : Char} (hc : c ≠ '.') (hdigit : c.isDigit = false)
    (rest : List Char) :
    readTime (t.text ++ c :: rest) =
      .ok ((t.hour, t.minute, t.second, t.nanosecond), c :: rest) := by
  have hhour := t.hour.isLt
  have hminute := t.minute.isLt
  have hsecond := t.second.isLt
  unfold readTime Time.text
  simp only [List.append_assoc, List.cons_append, bind, Except.bind, readSign_cons isBlank_colon,
    readField_padded 0 23 (Nat.zero_le t.hour) (by omega) (by omega),
    readField_padded 0 59 (Nat.zero_le t.minute) (by omega) (by omega),
    readField_padded 0 60 (Nat.zero_le t.second) (by omega) (by omega),
    readFraction_fractionText t.nanosecond.isLt hc hdigit]

theorem date_of?_eq (d : Date) : Date.of? d.year d.month d.day = some d := by
  unfold Date.of?
  rw [dif_pos d.year_bounds, dif_pos d.month_bounds, dif_pos d.day_bounds]

theorem time_of?_eq (t : Time) : Time.of? t.hour t.minute t.second t.nanosecond = some t := by
  unfold Time.of?
  rw [dif_pos t.hour.isLt, dif_pos t.minute.isLt, dif_pos t.second.isLt, dif_pos t.nanosecond.isLt]

theorem ofLocal_zero (date : Date) (time : Time) : ofLocal date time 0 = .ok ⟨date, time⟩ := by
  have hhour := time.hour.isLt
  have hminute := time.minute.isLt
  have hminutes : (((time.hour : Int) * 60 + time.minute - 0) % (24 * 60)).toNat =
      time.hour * 60 + time.minute := by omega
  have hback : (time.hour * 60 + time.minute : Nat) / 60 = time.hour := by omega
  have hrest : (time.hour * 60 + time.minute : Nat) % 60 = time.minute := by omega
  unfold ofLocal
  rw [if_pos (by decide)]
  dsimp only
  rw [if_neg (by omega), if_pos (by omega), hminutes, hback, hrest, time_of?_eq]

/-- **A point in time reads back as it was written.** -/
theorem parse_text (t : Timestamp) : parse (t.text "Z") = .ok t := by
  have htext : (t.text "Z").toList = t.date.text ++ 'T' :: (t.time.text ++ ['Z']) := by
    simp [text]
  have hoffset : readOffset (dropBlanks ['Z']) = .ok (0, []) := by
    rw [dropBlanks_cons (Unicode.isBlank_eq_false (by decide) (by decide))]
    rfl
  have hseparator : readSeparator ('T' :: (t.time.text ++ ['Z'])) = .ok (t.time.text ++ ['Z']) :=
    rfl
  unfold parse
  rw [htext]
  simp only [bind, Except.bind, readDate_text, hseparator, readTime_text t.time
    (show 'Z' ≠ '.' by decide) (show 'Z'.isDigit = false by decide), hoffset, date_of?_eq,
    time_of?_eq, ofLocal_zero]
  rfl

end Timestamp

end FirstClaim
