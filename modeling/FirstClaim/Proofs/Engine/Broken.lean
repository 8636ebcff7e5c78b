import FirstClaim.Proofs.Engine.Complete
import FirstClaim.Proofs.Engine.Report
import Mathlib.Data.List.Sort

/-!
# The rules that are skipped

`Rule.Broken` says when a rule cannot be applied to a text, and why: its pattern is missing, empty
or cannot be built, or its callback fails. A callback is asked only at the eligible matches, so this
last reason is in terms of the claims that earlier rules have made in the report.

* `build_eq_error_iff`: the reasons that lie in the pattern alone.
* `entry_of_broken`: a broken rule is listed with its reason and has no other entry;
  `broken_of_skipped` is the converse.
* `broken_of_template`: where no callback can fail, the text and the other rules play no part.

`skipped_iff_broken` puts this together.
-/

set_option autoImplicit false

namespace FirstClaim

/-! ## Broken rules -/

/-- Why the rule at an index cannot be applied to a text, where the report tells what the rules
before it have claimed. -/
inductive Rule.Broken (report : Report) (text : String) (index : Nat) (rule : Rule) :
    RuleError → Prop
  | missing : rule.pattern = none → Broken report text index rule .emptyPattern
  | empty {pattern : Pattern} : rule.pattern = some pattern → pattern.text = "" →
      Broken report text index rule .emptyPattern
  | unbuilt {pattern : Pattern} {error : Regex.BuildError} : rule.pattern = some pattern →
      pattern.text ≠ "" → Regex.build (Pattern.mode pattern.text) pattern.text = .error error →
      Broken report text index rule (.invalidPattern pattern.text error)
  /-- The callback answers at some eligible matches, from the first one on, and fails at the next
  one. -/
  | callback {f : Callback} {earlier : List Call} {done rest : List Regex.Match} {m : Regex.Match}
      {texts : List String} {message : String} : rule.replacement = .computed f earlier →
      report.eligible index (rule.found text) = done ++ m :: rest →
      f.Answers earlier (done.map (·.call)) texts →
      f ((done.map (·.call)).reverse ++ earlier) m.call = .error message →
      Broken report text index rule (.callback message)

namespace Rule

variable {rule : Rule} {reason : RuleError}

/-- What can be wrong with a pattern. -/
theorem build_eq_error_iff : rule.build = .error reason ↔
    (rule.pattern = none ∧ reason = .emptyPattern) ∨
    ∃ pattern, rule.pattern = some pattern ∧
      ((pattern.text = "" ∧ reason = .emptyPattern) ∨
        (pattern.text ≠ "" ∧ ∃ error,
          Regex.build (Pattern.mode pattern.text) pattern.text = .error error ∧
            reason = .invalidPattern pattern.text error)) := by
  rw [build, eq_comm]
  cases rule.pattern with
  | none => simp
  | some pattern =>
    by_cases hempty : pattern.text = ""
    · simp [Pattern.build, Pattern.isEmpty, hempty, Except.mapError, RuleError.ofPattern]
    · cases hbuild : Regex.build (Pattern.mode pattern.text) pattern.text <;>
        simp [Pattern.build, Pattern.isEmpty, hempty, hbuild, Except.mapError,
          RuleError.ofPattern]

theorem broken_of_build {report : Report} {text : String} {index : Nat}
    (h : rule.build = .error reason) : rule.Broken report text index reason := by
  rcases build_eq_error_iff.1 h with ⟨hp, rfl⟩ | ⟨p, hp, ⟨hempty, rfl⟩ | ⟨hne, e, he, rfl⟩⟩
  · exact .missing hp
  · exact .empty hp hempty
  · exact .unbuilt hp hne he

end Rule

namespace Engine

variable {e : Engine} {text : String} {index : Nat} {rule : Rule} {reason : RuleError}

/-- **A broken rule is listed with its reason**, and has no other entry. -/
theorem entry_of_broken (ht : text ≠ "") (h : e.rules[index]? = some rule)
    (hbroken : rule.Broken (e.transform text).1 text index reason) :
    (e.transform text).1.skipped.filter (·.rule = index) =
      [⟨index, rule.pattern.map (·.text), reason⟩] := by
  have hunbuilt : rule.build = .error reason → (e.transform text).1.skipped.filter
      (·.rule = index) = [⟨index, rule.pattern.map (·.text), reason⟩] := fun hb =>
    (turn_unbuilt text h hb).2.1 ht
  cases hbroken with
  | missing hp => exact hunbuilt (Rule.build_eq_error_iff.2 (.inl ⟨hp, rfl⟩))
  | empty hp hempty => exact hunbuilt (Rule.build_eq_error_iff.2 (.inr ⟨_, hp, .inl ⟨hempty, rfl⟩⟩))
  | unbuilt hp hne he =>
    exact hunbuilt (Rule.build_eq_error_iff.2 (.inr ⟨_, hp, .inr ⟨hne, _, he, rfl⟩⟩))
  | callback hf hsplit hdone hm => exact (turn_failure h hf hsplit hdone hm).2.1

/-- **A rule that is listed is broken.** -/
theorem broken_of_skipped {s : Skipped} (h : e.rules[s.rule]? = some rule)
    (hs : s ∈ (e.transform text).1.skipped) :
    rule.Broken (e.transform text).1 text s.rule s.reason ∧
      s.pattern = rule.pattern.map (·.text) := by
  have ht : text ≠ "" := by
    rintro rfl
    rw [transform_empty] at hs
    cases hs
  have hentry : ∀ reason, rule.Broken (e.transform text).1 text s.rule reason →
      rule.Broken (e.transform text).1 text s.rule s.reason ∧
        s.pattern = rule.pattern.map (·.text) := fun reason hbroken => by
    have hmem : s ∈ (e.transform text).1.skipped.filter (·.rule = s.rule) :=
      List.mem_filter.2 ⟨hs, by simp⟩
    rw [entry_of_broken ht h hbroken, List.mem_singleton] at hmem
    have hreason : s.reason = reason := congrArg Skipped.reason hmem
    exact ⟨hreason ▸ hbroken, congrArg Skipped.pattern hmem⟩
  cases hb : rule.build with
  | error reason => exact hentry reason (Rule.broken_of_build hb)
  | ok regex =>
    cases hreplacement : rule.replacement with
    | template template =>
      have hall := Rule.resolveEach_template s.rule template
        ((e.transform text).1.eligible s.rule (rule.found text))
      rw [← hreplacement] at hall
      exact absurd rfl ((turn_ok h hb hall).2.1 s hs)
    | computed f earlier =>
      rcases Rule.answers_or_fails f ((e.transform text).1.eligible s.rule (rule.found text))
        earlier with ⟨texts, hanswers⟩ | ⟨done, m, rest, texts, message, hsplit, hdone, hm⟩
      · exact absurd rfl ((turn_answers h hreplacement hb hanswers).2.1 s hs)
      · exact hentry _ (.callback hreplacement hsplit hdone hm)

/-- Where no callback can fail, the text and the other rules play no part. -/
theorem broken_of_template {report other : Report} {text' : String} {template : String}
    (htemplate : rule.replacement = .template template)
    (h : rule.Broken report text index reason) : rule.Broken other text' index reason := by
  cases h with
  | missing hp => exact .missing hp
  | empty hp hempty => exact .empty hp hempty
  | unbuilt hp hne he => exact .unbuilt hp hne he
  | callback hf =>
    rw [htemplate] at hf
    cases hf

/-- The entries are told apart and ordered by the rules that they are about, so a list of rules
skipped is known by its members. -/
theorem skipped_eq_of_mem_iff {e' : Engine} {text' : String}
    (h : ∀ s, s ∈ (e.transform text).1.skipped ↔ s ∈ (e'.transform text').1.skipped) :
    (e.transform text).1.skipped = (e'.transform text').1.skipped := by
  have hantisymm : Std.Antisymm fun a b : Skipped => a.rule < b.rule :=
    ⟨fun _ _ hab hba => absurd hab (Nat.lt_asymm hba)⟩
  have hirrefl : Std.Irrefl fun a b : Skipped => a.rule < b.rule := ⟨fun _ => Nat.lt_irrefl _⟩
  exact (transform_skipped e text).2.eq_of_mem_iff (transform_skipped e' text').2 h

/-- **The entries are those of the broken rules**: a rule is listed if and only if it is broken,
with the source of its pattern and the reason. -/
theorem mem_skipped_iff (ht : text ≠ "") {s : Skipped} :
    s ∈ (e.transform text).1.skipped ↔
      ∃ rule, e.rules[s.rule]? = some rule ∧ s.pattern = rule.pattern.map (·.text) ∧
        rule.Broken (e.transform text).1 text s.rule s.reason ∧ s.text = s.reason.message := by
  constructor
  · intro hs
    have hlt : s.rule < e.rules.length := (transform_skipped e text).1 s hs
    have hrule : e.rules[s.rule]? = some e.rules[s.rule] := List.getElem?_eq_getElem hlt
    obtain ⟨hbroken, hpattern⟩ := broken_of_skipped hrule hs
    exact ⟨_, hrule, hpattern, hbroken, rfl⟩
  · rintro ⟨rule, hrule, hpattern, hbroken, -⟩
    have hentry : s ∈ (e.transform text).1.skipped.filter (·.rule = s.rule) := by
      rw [entry_of_broken ht hrule hbroken, ← hpattern]
      exact List.mem_singleton_self _
    exact (List.mem_filter.1 hentry).1

/-- **Exactly the broken rules are skipped**: each has one entry, in the order of the rules, with
the source of its pattern and the reason for which it is broken, and the text it shows is that
reason in words. A callback counts as failing where it fails at one of its eligible matches, and
these are the matches that are not empty and overlap no claim of an earlier rule. Rules with
templates are skipped on all texts alike. -/
theorem skipped_iff_broken (e : Engine) {text : String} (ht : text ≠ "") :
    (∀ s, s ∈ (e.transform text).1.skipped ↔
      ∃ rule, e.rules[s.rule]? = some rule ∧ s.pattern = rule.pattern.map (·.text) ∧
        rule.Broken (e.transform text).1 text s.rule s.reason ∧ s.text = s.reason.message) ∧
    (e.transform text).1.skipped.Pairwise (·.rule < ·.rule) ∧
    (∀ (index : Nat) (rule : Rule) (m : Regex.Match),
      m ∈ (e.transform text).1.eligible index (rule.found text) ↔
      ∃ regex, rule.build = .ok regex ∧ m ∈ regex.findAll text ∧ m.whole.start < m.whole.stop ∧
        ∀ c ∈ (e.transform text).1.claims, c.rule < index → ¬ c.Overlaps m) ∧
    ((∀ rule ∈ e.rules, ∃ template, rule.replacement = .template template) →
      ∀ text', text' ≠ "" → (e.transform text').1.skipped = (e.transform text).1.skipped) := by
  refine ⟨fun s => mem_skipped_iff ht, (transform_skipped e text).2, fun index rule m => ?_,
    fun htemplates text' ht' => ?_⟩
  · rw [Report.mem_eligible, Rule.mem_found]
    constructor
    · rintro ⟨⟨regex, hb, hm, hne⟩, hfree⟩
      exact ⟨regex, hb, hm, hne, fun c hc hlt =>
        (hfree c hc hlt).not_overlaps (claim_nonempty hc) hne⟩
    · rintro ⟨regex, hb, hm, hne, hfree⟩
      exact ⟨⟨regex, hb, hm, hne⟩, fun c hc hlt =>
        (Claim.misses_or_overlaps (claim_nonempty hc) hne).resolve_right (hfree c hc hlt)⟩
  · refine skipped_eq_of_mem_iff fun s => ?_
    rw [mem_skipped_iff ht, mem_skipped_iff ht']
    refine exists_congr fun rule => and_congr_right fun hrule => and_congr_right fun _ =>
      and_congr_left fun _ => ?_
    obtain ⟨template, htemplate⟩ := htemplates rule (List.mem_of_getElem? hrule)
    exact ⟨broken_of_template htemplate, broken_of_template htemplate⟩

/-- Rules of which only the second one claims anything: a pattern is missing, one is empty, one
cannot be built, and a callback fails at its second match. -/
def mostlyBroken : Engine :=
  ⟨[{ pattern := none, replacement := .template "x" },
    { pattern := some (.source "b"), replacement := .template "B" },
    { pattern := some (.source ""), replacement := .template "x" },
    { pattern := some (.source "("), replacement := .template "x" },
    { pattern := some (.source "a|b")
      replacement :=
        .computed (fun earlier _ => if earlier.length = 1 then .error "no" else .ok "A") [] }]⟩

theorem skipped_iff_broken_mostlyBroken :
    "aba" ≠ "" ∧
      ⟨0, none, .emptyPattern⟩ ∈ (mostlyBroken.transform "aba").1.skipped ∧
      ⟨2, some "", .emptyPattern⟩ ∈ (mostlyBroken.transform "aba").1.skipped ∧
      ⟨4, some "a|b", .callback "no"⟩ ∈ (mostlyBroken.transform "aba").1.skipped := by
  have ht : "aba" ≠ "" := by decide
  have heligible : (mostlyBroken.transform "aba").1.eligible 4
      (Rule.found { pattern := some (.source "a|b"), replacement := .template "A" } "aba") =
      [⟨⟨0, 1, "a"⟩, []⟩] ++ ⟨⟨2, 3, "a"⟩, []⟩ :: [] := by
    decide +kernel
  obtain ⟨hiff, -⟩ := skipped_iff_broken mostlyBroken ht
  exact ⟨ht, (hiff _).2 ⟨_, rfl, rfl, .missing rfl, rfl⟩,
    (hiff _).2 ⟨_, rfl, rfl, .empty rfl rfl, rfl⟩,
    (hiff _).2 ⟨_, rfl, rfl, .callback rfl heligible (.cons rfl (.nil _)) rfl, rfl⟩⟩

end Engine

end FirstClaim
