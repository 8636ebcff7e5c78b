import FirstClaim.Proofs.Json.Records
import FirstClaim.Proofs.Sha256

/-!
# Fingerprints of rules

A fingerprint is the digest of bytes in which the rules are written (`fingerprintBytes`). The rules
read back from these bytes, so different rules have different bytes (`fingerprintBytes_inj`), and
only a collision can hide that the rules of a stored rule set were changed
(`fingerprint_separates`).
-/

set_option autoImplicit false

namespace FirstClaim

open Json

/-! ## Bytes -/

theorem byteList_loop_eq (bytes : ByteArray) (i : Nat) (before : List UInt8) :
    ByteArray.toList.loop bytes i before = before.reverse ++ bytes.data.toList.drop i := by
  fun_induction ByteArray.toList.loop bytes i before with
  | case1 i before h ih =>
    have hi : i < bytes.data.toList.length := by simpa using h
    rw [ih, List.drop_eq_getElem_cons hi]
    simp [ByteArray.get!, h]
  | case2 i before h =>
    rw [List.drop_eq_nil_of_le (by simpa using Nat.le_of_not_lt h), List.append_nil]

theorem byteList_eq (bytes : ByteArray) : bytes.toList = bytes.data.toList := by
  rw [ByteArray.toList, byteList_loop_eq]
  rfl

theorem utf8List_inj {s t : String} : s.toUTF8.toList = t.toUTF8.toList ↔ s = t := by
  rw [byteList_eq, byteList_eq, Array.toList_inj]
  exact ⟨fun h => String.toByteArray_inj.1 (ByteArray.ext h), fun h => by rw [h]⟩

/-! ## Bytes of rules -/

/-- The bytes that a fingerprint is the digest of. -/
def fingerprintBytes (rules : List RuleRecord) : List UInt8 :=
  (rulesValue rules).compact.toUTF8.toList

theorem Config.fingerprint_eq (c : Config) :
    c.fingerprint = Sha256.digestBytes (fingerprintBytes c.rules) :=
  rfl

/-- **Rules are known from the text without blanks that they are written in.** -/
theorem rulesValue_compact_inj {rules rules' : List RuleRecord} :
    (rulesValue rules).compact = (rulesValue rules').compact ↔ rules = rules' := by
  refine ⟨fun h => ?_, fun h => by rw [h]⟩
  have hread := (reads_compactRules rules).parse
  have hread' := (reads_compactRules rules').parse
  rw [← Value.compact] at hread hread'
  rw [h, hread'] at hread
  exact (Except.ok.inj hread).symm

/-- **Rules are known from the bytes of their fingerprint.** -/
theorem fingerprintBytes_inj {rules rules' : List RuleRecord} :
    fingerprintBytes rules = fingerprintBytes rules' ↔ rules = rules' :=
  utf8List_inj.trans rulesValue_compact_inj

/-- Rules with the same fingerprint are the same, or their bytes collide. -/
theorem Config.fingerprint_eq_iff {c c' : Config} :
    c.fingerprint = c'.fingerprint ↔
      c.rules = c'.rules ∨
        Sha256.Collide (fingerprintBytes c.rules) (fingerprintBytes c'.rules) := by
  rw [c.fingerprint_eq, c'.fingerprint_eq, Sha256.digestBytes_eq_iff, fingerprintBytes_inj]

/-! ## Stored rule sets -/

/-- **Fingerprints separate lists of rules.** The fingerprint of a rule set is the digest of bytes
that its rules determine and that determine the rules, each with its id and description. So a rule
set that takes the place of a stored one is taken for intact if its rules are the stored ones, and
otherwise only if their bytes collide with the stored ones. -/
theorem fingerprint_separates :
    (∀ c : Config, c.fingerprint = Sha256.digestBytes (fingerprintBytes c.rules)) ∧
      (∀ rules rules' : List RuleRecord,
        fingerprintBytes rules = fingerprintBytes rules' ↔ rules = rules') ∧
      (∀ (c : Config) (name : String) (description : Option String),
        { c with name, description }.fingerprint = c.fingerprint) ∧
      ∀ (c c' : Config) (now : Timestamp),
        { StoredRuleSet.ofConfig c now with config := c' }.isIntact = true ↔
          c'.rules = c.rules ∨
            Sha256.Collide (fingerprintBytes c'.rules) (fingerprintBytes c.rules) := by
  refine ⟨Config.fingerprint_eq, fun _ _ => fingerprintBytes_inj, fun _ _ _ => rfl,
    fun c c' now => ?_⟩
  have hintact : { StoredRuleSet.ofConfig c now with config := c' }.isIntact = true ↔
      c'.fingerprint = c.fingerprint := by
    unfold StoredRuleSet.isIntact
    exact beq_iff_eq
  exact hintact.trans Config.fingerprint_eq_iff

end FirstClaim
