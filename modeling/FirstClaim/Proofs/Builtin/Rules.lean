import FirstClaim.Proofs.Engine.SingleLine
import FirstClaim.Proofs.Regex.Preferred

/-!
# The built-in rules as they are matched

The regular expressions of the built-in rules, and the characters that their matches begin with.
-/

set_option autoImplicit false

namespace FirstClaim.Builtin

open Regex

/-! ## Characters -/

def isGap (c : Char) : Bool :=
  c == ' ' || c == '\t'

/-- Spaces and tabs as they stand in a pattern. -/
def gaps : CharSet :=
  ⟨[⟨0x09, 0x09⟩, ⟨0x20, 0x20⟩]⟩

/-- What a dot matches: all characters but those that end a line. -/
def inLine : CharSet :=
  ⟨[⟨0x00, 0x09⟩, ⟨0x0B, 0x0C⟩, ⟨0x0E, 0x10FFFF⟩]⟩

theorem contains_gaps (c : Char) : gaps.contains c = isGap c := by
  have htab : c = '\t' ↔ c.toNat = 9 := Char.toNat_inj.symm
  have hspace : c = ' ' ↔ c.toNat = 32 := Char.toNat_inj.symm
  rw [Bool.eq_iff_iff]
  simp [gaps, CharSet.contains, CharSet.hasCode, CodeRange.has, isGap, htab, hspace]
  omega

theorem contains_inLine {c : Char} (h : isLineEnd c = false) : inLine.contains c = true := by
  have hlf : c = '\n' ↔ c.toNat = 10 := Char.toNat_inj.symm
  have hcr : c = '\r' ↔ c.toNat = 13 := Char.toNat_inj.symm
  have hmax : c.toNat < 0xD800 ∨ 0xDFFF < c.toNat ∧ c.toNat < 0x110000 := c.valid
  simp [isLineEnd, hlf, hcr] at h
  simp [inLine, CharSet.contains, CharSet.hasCode, CodeRange.has]
  omega

/-! ## Regular expressions -/

/-- Signs of a heading at the start of a line, a gap and the rest of the line as a group. -/
def heading : Regex :=
  ⟨"^#+[ \\t]*(.*)$",
    .cat (.look (.lineStart true)) (.cat (.rep 1 none true (.literal ['#']))
      (.cat (.rep 0 none true (.set gaps)) (.cat (.group 1 (.rep 0 none true (.set inLine)))
        (.look (.lineEnd true)))))⟩

/-- A text of one line between two signs on each side, as short as possible. -/
def paired (source : String) (sign : Char) : Regex :=
  ⟨source,
    .cat (.literal [sign, sign]) (.cat (.group 1 (.rep 1 none false (.set inLine)))
      (.literal [sign, sign]))⟩

/-- A sign of a bullet item at the start of a line, with the gaps around it. -/
def bullet : Regex :=
  ⟨"^[ \\t]*[-*][ \\t]+",
    .cat (.look (.lineStart true)) (.cat (.rep 0 none true (.set gaps))
      (.cat (.set ⟨[⟨0x2A, 0x2A⟩, ⟨0x2D, 0x2D⟩]⟩) (.rep 1 none true (.set gaps))))⟩

/-- What the rules before the one for bullet items are matched with. -/
def inlineRegexes : List Regex :=
  [heading, paired "\\*\\*(.+?)\\*\\*" '*', paired "__(.+?)__" '_', paired "~~(.+?)~~" '~']

/-- **The built-in rules are matched with these.** -/
theorem build_rules :
    Config.builtin.toRules.map (·.build) = (inlineRegexes ++ [bullet]).map .ok := by
  decide +kernel

theorem heading_rule : ∃ rule, Config.builtin.toRules[0]? = some rule ∧
    rule.replacement = .template "*_$1_*" ∧ rule.build = .ok heading :=
  ⟨_, rfl, rfl, by decide +kernel⟩

theorem bullet_rule : ∃ rule, Config.builtin.toRules[4]? = some rule ∧
    rule.replacement = .template "• " ∧ rule.build = .ok bullet :=
  ⟨_, rfl, rfl, by decide +kernel⟩

theorem linewise_regexes : ∀ r ∈ inlineRegexes ++ [bullet],
    r.node.Linewise ∧ r.node.productive = true ∧ r.node.consumes = true := by
  decide +kernel

theorem mem_inlineRegexes {i : Nat} (hi : i < 4) {rule : Rule} {r : Regex}
    (h : Config.builtin.toRules[i]? = some rule) (hb : rule.build = .ok r) :
    r ∈ inlineRegexes := by
  have hmap := congrArg (·[i]?) build_rules
  simp only [List.getElem?_map, h, Option.map_some, hb] at hmap
  obtain ⟨r', hr', heq⟩ := Option.map_eq_some_iff.1 hmap.symm
  cases heq
  rw [List.getElem?_append_left hi] at hr'
  exact List.mem_of_getElem? hr'

/-! ## Where matches begin -/

/-- A text begins with a sign of a heading or with a doubled sign. -/
def Opens (cs : List Char) : Prop :=
  ∃ c rest, cs = c :: rest ∧ (c = '#' ∨ (c = '*' ∨ c = '_' ∨ c = '~') ∧ rest.head? = some c)

theorem opens_heading {s : Place} {t : Thread} (h : heading.node.attempt s = some t) :
    Opens s.after := by
  obtain ⟨e, he, -⟩ := Node.mem_ends_of_attempt h
  obtain ⟨e₁, he₁, he⟩ := List.mem_flatMap.1 he
  rw [Node.ends] at he₁
  split at he₁
  · rw [List.mem_singleton] at he₁
    subst he₁
    obtain ⟨e₂, he₂, -⟩ := List.mem_flatMap.1 he
    obtain ⟨e₃, he₃, -⟩ := List.mem_flatMap.1 he₂
    rw [times, times, List.flatMap_singleton] at he₃
    obtain ⟨hafter, -⟩ := mem_readAll he₃
    exact ⟨'#', _, hafter, .inl rfl⟩
  · cases he₁

theorem opens_paired {source : String} {sign : Char} (hsign : sign = '*' ∨ sign = '_' ∨ sign = '~')
    {s : Place} {t : Thread} (h : (paired source sign).node.attempt s = some t) :
    Opens s.after := by
  obtain ⟨e, he, -⟩ := Node.mem_ends_of_attempt h
  obtain ⟨e₁, he₁, -⟩ := List.mem_flatMap.1 he
  obtain ⟨hafter, -⟩ := mem_readAll he₁
  exact ⟨sign, _, hafter, .inr ⟨hsign, rfl⟩⟩

/-- **A match of a rule before the one for bullet items begins with a sign of a heading or with a
doubled sign.** -/
theorem opens_of_attempt {r : Regex} (hr : r ∈ inlineRegexes) {s : Place} {t : Thread}
    (h : r.node.attempt s = some t) : Opens s.after := by
  simp only [inlineRegexes, List.mem_cons, List.not_mem_nil, or_false] at hr
  rcases hr with rfl | rfl | rfl | rfl
  · exact opens_heading h
  · exact opens_paired (.inl rfl) h
  · exact opens_paired (.inr (.inl rfl)) h
  · exact opens_paired (.inr (.inr rfl)) h

end FirstClaim.Builtin
