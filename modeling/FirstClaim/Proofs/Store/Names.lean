import FirstClaim.Proofs.FileTree
import FirstClaim.Store

/-!
# Names of stored rule sets

The name of a rule set, with the extension behind it, may stand in a directory (`fileName_json`) and
comes apart from the extension again (`splitName_json`). Since its characters are ASCII characters,
the order of the characters is the order of the bytes (`textBytes_lt`).
-/

set_option autoImplicit false

namespace FirstClaim

open FileTree

/-! ## Names -/

theorem isStoreName_iff {name : String} :
    isStoreName name = true ↔ name ≠ "" ∧ ∀ c ∈ name.toList, isNameChar c = true := by
  simp [isStoreName]

theorem val_le_of_isAlphanum {c : Char} (h : c.isAlphanum = true) : c.val ≤ 127 := by
  have hranges : ((decide (65 ≤ c.val ∧ c.val ≤ 90) ||
      (decide (97 ≤ c.val) && decide (c.val ≤ 122))) ||
        (decide (48 ≤ c.val) && decide (c.val ≤ 57))) = true := h
  simp only [Bool.or_eq_true, Bool.and_eq_true, decide_eq_true_eq,
    UInt32.le_iff_toNat_le] at hranges
  rw [UInt32.le_iff_toNat_le]
  simp at hranges ⊢
  omega

/-- A character of a name is a letter, a digit, a hyphen or an underscore. -/
theorem val_le_of_isNameChar {c : Char} (h : isNameChar c = true) : c.val ≤ 127 := by
  have hcases : c.isAlphanum = true ∨ c = '-' ∨ c = '_' := by
    simpa [isNameChar, or_assoc] using h
  rcases hcases with halpha | rfl | rfl
  · exact val_le_of_isAlphanum halpha
  · decide
  · decide

theorem checkName_ok_iff {name : String} : checkName name = .ok () ↔ isStoreName name = true := by
  unfold checkName
  cases isStoreName name <;> simp

theorem checkName_error {name : String} (hname : isStoreName name = false) :
    checkName name = .error (.invalidName name) :=
  if_neg (by simp [hname])

section Json

variable {name : String} (hname : isStoreName name = true)
include hname

theorem json_ne {text : String} (htext : text.toList.length < 6) : name ++ ".json" ≠ text := by
  have hpos : 0 < name.toList.length :=
    List.length_pos_iff.2 (by simpa using (isStoreName_iff.1 hname).1)
  rintro rfl
  rw [String.toList_append, List.length_append, show ".json".toList.length = 5 from rfl] at htext
  omega

theorem not_mem_json {c : Char} (hjson : c ∉ ".json".toList) (hc : isNameChar c = false) :
    c ∉ (name ++ ".json").toList := by
  intro hmem
  rw [String.toList_append] at hmem
  rcases List.mem_append.1 hmem with hmem | hmem
  · rw [(isStoreName_iff.1 hname).2 c hmem] at hc
    cases hc
  · exact hjson hmem

theorem fileName_json (hshort : (name ++ ".json").utf8ByteSize ≤ longestName) :
    FileName (name ++ ".json") :=
  ⟨json_ne hname (by decide), not_mem_json hname (by decide) rfl,
    not_mem_json hname (by decide) rfl, json_ne hname (by decide), json_ne hname (by decide),
    hshort⟩

end Json

theorem splitName_json {name : String} (hname : isStoreName name = true) :
    Path.stem (name ++ ".json") = name ∧ Path.nameExtension? (name ++ ".json") = some "json" := by
  have hnil : name.toList ≠ [] := by simpa using (isStoreName_iff.1 hname).1
  have hsplit : Path.splitName (name ++ ".json").toList =
      (name.toList, some ['j', 's', 'o', 'n']) := by
    rw [String.toList_append]
    exact Path.splitName_extension hnil (by decide)
  rw [Path.stem, Path.nameExtension?, hsplit]
  exact ⟨String.ofList_toList, rfl⟩

/-! ## The order of names -/

theorem sorted_mergeSort (names : List String) :
    (names.mergeSort fun a b => decide (a ≤ b)).Pairwise (· ≤ ·) := by
  have htrans : ∀ a b c : String, decide (a ≤ b) = true → decide (b ≤ c) = true →
      decide (a ≤ c) = true := by
    intro a b c hab hbc
    exact decide_eq_true (String.le_trans (of_decide_eq_true hab) (of_decide_eq_true hbc))
  have htotal : ∀ a b : String, (decide (a ≤ b) || decide (b ≤ a)) = true := by
    intro a b
    simpa using String.le_total a b
  exact (List.pairwise_mergeSort htrans htotal names).imp of_decide_eq_true

def textBytes (s : String) : List UInt8 :=
  s.toUTF8.data.toList

theorem textBytes_ascii {s : String} (h : ∀ c ∈ s.toList, c.val ≤ 127) :
    textBytes s = s.toList.map fun c => c.val.toUInt8 := by
  have hbytes : ∀ cs : List Char, (∀ c ∈ cs, c.val ≤ 127) →
      cs.flatMap String.utf8EncodeChar = cs.map fun c => c.val.toUInt8 := by
    intro cs hcs
    induction cs with
    | nil => rfl
    | cons c cs ih =>
      have hsize : c.utf8Size = 1 := Char.utf8Size_eq_one_iff.2 (hcs c (.head _))
      rw [List.flatMap_cons, String.utf8EncodeChar_eq_singleton hsize,
        ih fun d hd => hcs d (.tail _ hd)]
      rfl
  rw [textBytes, String.toUTF8_eq_toByteArray, ← String.utf8Encode_toList, List.utf8Encode,
    List.data_toByteArray, hbytes s.toList h]

/-- The order of the characters is that of the bytes. -/
theorem textBytes_lt {s t : String} (hs : ∀ c ∈ s.toList, c.val ≤ 127)
    (ht : ∀ c ∈ t.toList, c.val ≤ 127) (h : s < t) : textBytes s < textBytes t := by
  rw [textBytes_ascii hs, textBytes_ascii ht]
  rw [String.lt_iff] at h
  -- ASCII characters are one byte each, so both orders compare in step
  generalize s.toList = xs at hs h
  generalize t.toList = ys at ht h
  induction xs generalizing ys with
  | nil =>
    cases ys with
    | nil => exact absurd h (List.lt_irrefl [])
    | cons y ys => exact List.nil_lt_cons _ _
  | cons x xs ih =>
    cases ys with
    | nil => exact absurd h (List.not_lt_nil _)
    | cons y ys =>
      rw [List.map_cons, List.map_cons, List.cons_lt_cons_iff]
      rcases List.cons_lt_cons_iff.1 h with hlt | ⟨rfl, hlt⟩
      · have hx := hs x (.head _)
        have hy := ht y (.head _)
        rw [UInt32.le_iff_toNat_le] at hx hy
        rw [Char.lt_def, UInt32.lt_iff_toNat_lt] at hlt
        left
        rw [UInt8.lt_iff_toNat_lt, UInt32.toNat_toUInt8, UInt32.toNat_toUInt8]
        simp at hx hy hlt ⊢
        omega
      · exact .inr ⟨rfl, ih (fun c hc => hs c (.tail _ hc)) ys (fun c hc => ht c (.tail _ hc)) hlt⟩

end FirstClaim
