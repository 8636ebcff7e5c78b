import FirstClaim.Engine
import Mathlib.Data.String.Basic

/-!
# Texts and their bytes

Offsets count bytes of the UTF-8 form, while the definitions that run walk over characters. This
file ties the two:

* `bytes`: the bytes of a text; `String.utf8Len` is how many characters have.
* `exists_append_of_size_le`: of two ways to cut one text, the one with less in front comes first,
  counted in bytes or in characters. Everything about the order of offsets is read off from this.
* `takeBytes_append`, `dropBytes_append`: taking and dropping bytes at a cut.
* `IsPart`: a text stands between two byte offsets of another one. Such offsets lie on character
  boundaries (`IsPart.boundaries`) and the bytes between them are its bytes (`IsPart.extract`).
-/

set_option autoImplicit false

namespace FirstClaim

open String (utf8Len)

/-! ## Bytes -/

def bytes (s : String) : List UInt8 :=
  s.toByteArray.data.toList

@[simp]
theorem bytes_append (s t : String) : bytes (s ++ t) = bytes s ++ bytes t := by
  simp [bytes]

@[simp]
theorem length_bytes (s : String) : (bytes s).length = s.utf8ByteSize := rfl

/-! ## Two cuts of one text -/

/-- **Of two cuts of a text the one with less in front comes first**, in whichever size texts are
measured. -/
theorem exists_append_of_size_le {size : List Char → Nat}
    (hadd : ∀ l m, size (l ++ m) = size l + size m) (hzero : ∀ l, size l = 0 → l = [])
    {b r b' r' : List Char} (h : b ++ r = b' ++ r') (hle : size b ≤ size b') :
    ∃ m, b' = b ++ m ∧ r = m ++ r' := by
  rcases List.append_eq_append_iff.1 h with ⟨m, hb', hr⟩ | ⟨m, hb, hr'⟩
  · exact ⟨m, hb', hr⟩
  · -- the other way round nothing can lie between the two cuts
    obtain rfl : m = [] := hzero m (by rw [hb, hadd] at hle; omega)
    exact ⟨[], by simpa using hb.symm, by simpa using hr'.symm⟩

theorem exists_append_of_utf8Len_le {b r b' r' : List Char} (h : b ++ r = b' ++ r')
    (hle : utf8Len b ≤ utf8Len b') : ∃ m, b' = b ++ m ∧ r = m ++ r' :=
  exists_append_of_size_le String.utf8Len_append (fun _ => String.utf8Len_eq_zero.1) h hle

theorem exists_append_of_length_le {b r b' r' : List Char} (h : b ++ r = b' ++ r')
    (hle : b.length ≤ b'.length) : ∃ m, b' = b ++ m ∧ r = m ++ r' :=
  exists_append_of_size_le (fun _ _ => List.length_append) (fun _ => List.length_eq_zero_iff.1) h
    hle

/-! ## Taking and dropping bytes -/

@[simp]
theorem takeBytes_append (b r : List Char) : takeBytes (utf8Len b) (b ++ r) = b := by
  induction b with
  | nil =>
    cases r with
    | nil => rfl
    | cons c cs =>
      have := c.utf8Size_pos
      simp [takeBytes]
      omega
  | cons c cs ih => simp [takeBytes, ih]

@[simp]
theorem dropBytes_append (b r : List Char) : dropBytes (utf8Len b) (b ++ r) = r := by
  induction b with
  | nil =>
    cases r with
    | nil => rfl
    | cons c cs =>
      have := c.utf8Size_pos
      simp [dropBytes]
      omega
  | cons c cs ih => simp [dropBytes, ih]

/-! ## Parts of a text -/

/-- `part` is what stands in `text` between the byte offsets `start` and `stop`. -/
def IsPart (text : List Char) (start stop : Nat) (part : List Char) : Prop :=
  ∃ before after, text = before ++ part ++ after ∧ utf8Len before = start ∧
    start + utf8Len part = stop

namespace IsPart

variable {text part : List Char} {start stop : Nat}

theorem start_add (h : IsPart text start stop part) : start + utf8Len part = stop := by
  obtain ⟨_, _, _, _, hsize⟩ := h
  exact hsize

theorem start_le (h : IsPart text start stop part) : start ≤ stop := by
  have := h.start_add
  omega

theorem stop_le (h : IsPart text start stop part) : stop ≤ utf8Len text := by
  obtain ⟨before, after, rfl, rfl, rfl⟩ := h
  simp

end IsPart

/-- Both ends of a part lie on character boundaries. -/
theorem IsPart.boundaries {text : String} {start stop : Nat} {part : List Char}
    (h : IsPart text.toList start stop part) :
    (⟨start⟩ : String.Pos.Raw).IsValid text ∧ (⟨stop⟩ : String.Pos.Raw).IsValid text := by
  obtain ⟨before, after, htext, rfl, rfl⟩ := h
  have ht : text = String.ofList before ++ String.ofList part ++ String.ofList after := by
    rw [← String.ofList_append, ← String.ofList_append, ← htext, String.ofList_toList]
  constructor
  · exact String.Pos.Raw.isValid_iff_exists_append.2
      ⟨String.ofList before, String.ofList part ++ String.ofList after,
        by rw [ht, String.append_assoc], by simp⟩
  · exact String.Pos.Raw.isValid_iff_exists_append.2
      ⟨String.ofList before ++ String.ofList part, String.ofList after, ht,
        by simp [String.Pos.Raw.ext_iff, String.utf8ByteSize_ofList]⟩

theorem IsPart.extract {text : String} {start stop : Nat} {part : List Char}
    (h : IsPart text.toList start stop part) :
    text.toByteArray.extract start stop = (String.ofList part).toByteArray := by
  obtain ⟨before, after, htext, rfl, rfl⟩ := h
  have ht : text = String.ofList before ++ (String.ofList part ++ String.ofList after) := by
    rw [← String.ofList_append, ← String.ofList_append, ← List.append_assoc, ← htext,
      String.ofList_toList]
  have hsize : utf8Len before = (String.ofList before).toByteArray.size := by
    rw [String.size_toByteArray, String.utf8ByteSize_ofList]
  rw [ht, String.toByteArray_append, String.toByteArray_append, hsize]
  -- first cut off what stands before the part, then keep the part
  have := ByteArray.extract_append_size_add (a := (String.ofList before).toByteArray)
    (b := (String.ofList part).toByteArray ++ (String.ofList after).toByteArray) (i := 0)
    (j := utf8Len part)
  rw [Nat.add_zero] at this
  rw [this]
  exact ByteArray.extract_append_eq_left
    (by rw [String.size_toByteArray, String.utf8ByteSize_ofList])

end FirstClaim
