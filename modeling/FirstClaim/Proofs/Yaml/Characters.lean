import FirstClaim.Proofs.Yaml.Tokens
import Mathlib.Tactic.IntervalCases
import Mathlib.Tactic.Tauto

/-!
# Characters of written documents

In whatever style the texts of a document are written, the document holds only characters that a
file may hold (`allowed_document`).
-/

set_option autoImplicit false

namespace FirstClaim.Yaml

/-- All characters are ones that a file may hold. -/
def Allowed (cs : List Char) : Prop :=
  ∀ c ∈ cs, isAllowed c = true

instance (cs : List Char) : Decidable (Allowed cs) :=
  decidable_of_iff (cs.all isAllowed = true) List.all_eq_true

namespace Allowed

theorem append {a b : List Char} (ha : Allowed a) (hb : Allowed b) : Allowed (a ++ b) := by
  intro c hc
  rcases List.mem_append.1 hc with hc | hc
  · exact ha c hc
  · exact hb c hc

theorem cons {c : Char} {cs : List Char} (hc : isAllowed c = true) (hcs : Allowed cs) :
    Allowed (c :: cs) := by
  intro d hd
  rcases List.mem_cons.1 hd with rfl | hd
  · exact hc
  · exact hcs d hd

theorem flatMap {α : Type} {l : List α} {f : α → List Char} (h : ∀ a ∈ l, Allowed (f a)) :
    Allowed (l.flatMap f) := by
  intro c hc
  obtain ⟨a, ha, hc⟩ := List.mem_flatMap.1 hc
  exact h a ha c hc

theorem spaces (n : Nat) : Allowed (spaces n) := by
  intro c hc
  rw [List.eq_of_mem_replicate hc]
  rfl

end Allowed

theorem isAllowed_of_isPrintable {c : Char} (h : isPrintable c = true) : isAllowed c = true := by
  simp only [isPrintable, isAllowed, Bool.or_eq_true, Bool.and_eq_true, decide_eq_true_eq] at h ⊢
  tauto

theorem isAllowed_of_isLower {c : Char} (h : c.isLower = true) : isAllowed c = true := by
  obtain ⟨hlow, hhigh⟩ := Bool.and_eq_true_iff.1 h
  have hlow : 97 ≤ c.toNat := of_decide_eq_true hlow
  have hhigh : c.toNat ≤ 122 := of_decide_eq_true hhigh
  simp only [isAllowed, Bool.or_eq_true, Bool.and_eq_true, decide_eq_true_eq]
  omega

/-! ## Texts -/

section

variable {cs : List Char}

theorem allowed_single (h : Allowed cs) (indent : Nat) (broken : Bool) :
    Allowed (singleQuotedText indent broken cs) := by
  induction cs generalizing broken with
  | nil =>
    unfold singleQuotedText
    refine .append ?_ (by decide)
    split
    · exact .spaces indent
    · simp [Allowed]
  | cons c cs ih =>
    have hc := h c (.head _)
    have hcs := fun broken => ih (fun d hd => h d (.tail _ hd)) broken
    unfold singleQuotedText
    split
    · exact .cons hc (hcs true)
    · refine .append (.append ?_ ?_) (hcs false)
      · split
        · exact .spaces indent
        · simp [Allowed]
      · split
        · decide
        · simpa [Allowed] using hc

theorem allowed_lines (h : Allowed cs) (indent : Nat) (atStart : Bool) :
    Allowed (indentedLines indent atStart cs) := by
  induction cs generalizing atStart with
  | nil => simp [indentedLines, Allowed]
  | cons c cs ih =>
    have hc := h c (.head _)
    have hcs := fun atStart => ih (fun d hd => h d (.tail _ hd)) atStart
    unfold indentedLines
    split
    · exact .cons hc (hcs true)
    · refine .append ?_ (.cons hc (hcs false))
      split
      · exact .spaces indent
      · simp [Allowed]

theorem allowed_literal (h : Allowed cs) (indent : Nat) : Allowed (literalText indent cs) := by
  have hhint : Allowed (indentationHint cs) := by
    unfold indentationHint
    split
    · split <;> decide
    · decide
  have hsign : Allowed (chompingSign cs) := by
    unfold chompingSign
    split
    · decide
    · split <;> decide
    · split
      · decide
      · split <;> decide
  exact .append (.append (.cons rfl hhint) hsign) (.cons rfl (allowed_lines h indent true))

end

theorem allowed_digits (v : Nat) : Allowed ((Nat.toDigits 16 v).map Char.toUpper) := by
  have hdigit : ∀ n < 16, isAllowed n.digitChar.toUpper = true := by
    intro n hn
    interval_cases n <;> rfl
  induction v using Nat.strongRecOn with
  | _ v ih =>
    rw [Nat.toDigits_eq_if (by decide)]
    split
    · simpa [Allowed] using hdigit v ‹_›
    · rename_i hv
      rw [List.map_append]
      refine .append (ih (v / 16) (by omega)) ?_
      simpa [Allowed] using hdigit (v % 16) (Nat.mod_lt _ (by decide))

theorem allowed_escaped (c : Char) : Allowed (escapedText c) := by
  obtain ⟨h, hprintable, -⟩ | ⟨x, h, -, hx⟩ | ⟨x, n, h, -, -, hx, -⟩ := escapedText_cases c <;>
    rw [h]
  · simpa [Allowed] using isAllowed_of_isPrintable hprintable
  · have hallowed : isAllowed x = true := by
      unfold escapedChar? at hx
      split at hx <;> first | rfl | cases hx
    exact .cons rfl (.cons hallowed (by simp [Allowed]))
  · have hallowed : isAllowed x = true := by
      unfold escapeLength? at hx
      split at hx <;> first | rfl | cases hx
    refine .cons rfl (.cons hallowed (.append ?_ (allowed_digits _)))
    intro d hd
    rw [List.eq_of_mem_replicate hd]
    rfl

/-- A text is written in characters that are allowed, whatever its style. -/
theorem allowed_scalar (indent : Nat) (s : String) : Allowed (scalarText indent s) := by
  have hprintable : ∀ {cs : List Char}, needsEscapes cs = false → Allowed cs := by
    intro cs h c hc
    simp only [needsEscapes, Bool.or_eq_false_iff, List.any_eq_false] at h
    exact isAllowed_of_isPrintable (by simpa using h.1 c hc)
  unfold scalarText
  rcases styleOf_cases s with ⟨hstyle, h, -⟩ | ⟨hstyle, h, -⟩ | ⟨hstyle, h⟩ | hstyle <;>
    rw [hstyle] <;> dsimp only
  · simp only [allowsPlain, Bool.not_eq_true', Bool.or_eq_false_iff] at h
    exact .append (hprintable h.1.1.1.1.2) (by decide)
  · simp only [allowsSingleQuoted, Bool.not_eq_true', Bool.or_eq_false_iff] at h
    exact .append (.cons rfl (allowed_single (hprintable h.1) indent false)) (by decide)
  · simp only [allowsLiteral, Bool.not_eq_true', Bool.or_eq_false_iff] at h
    refine .append (allowed_literal (hprintable h.1.2) indent) ?_
    split <;> decide
  · exact .append (.cons rfl (.flatMap fun c _ => allowed_escaped c)) (by decide)

/-! ## Documents -/

theorem allowed_member (indent : Nat) {member : String × String}
    (h : isName member.1.toList = true) : Allowed (memberText indent member) := by
  simp only [isName, Bool.and_eq_true, List.all_eq_true] at h
  have hname : Allowed member.1.toList := fun c hc => isAllowed_of_isLower (h.1.2 c hc)
  exact .append hname (.cons rfl (.cons rfl (allowed_scalar _ _)))

theorem allowed_entry {members : List (String × String)} (h : Named members) :
    Allowed (entryText members) := by
  cases members with
  | nil => decide
  | cons first members =>
    refine .append (.cons rfl (.cons rfl (allowed_member 2 (h first (.head _))))) ?_
    refine .flatMap fun member hmember => .cons rfl (.cons rfl (allowed_member 2 ?_))
    exact h member (.tail _ hmember)

/-- **A document holds only characters that a file may hold.** -/
theorem allowed_document {members : List (String × String)}
    {entries : List (List (String × String))} (hmembers : Named members)
    (hentries : ∀ members ∈ entries, Named members) : Allowed (documentText members entries) := by
  refine .append (.append (.flatMap fun member h => allowed_member 0 (hmembers member h)) ?_) ?_
  · decide
  · unfold listText
    split
    · decide
    · exact .cons rfl (.flatMap fun entry h => allowed_entry (hentries entry h))

end FirstClaim.Yaml
