import FirstClaim.Proofs.Builtin.Rules
import FirstClaim.Proofs.Template.Grammar
import Mathlib.Data.List.TakeWhile

/-!
# Headings

A line that begins with a sign of a heading is replaced as a whole, whatever stands in it.

* `heading_prefers`: all parts of the pattern are greedy, so its match runs from the beginning of
  the line to its end (`heading_match`).
* `heading_claimed`: no rule comes before the one for headings.

`builtin_heading` puts this together for a line of any text.
-/

set_option autoImplicit false

namespace FirstClaim.Builtin

open Regex

/-- The text of a heading: what stands behind its signs and the gap after them. -/
def headingText (line : String) : String :=
  String.ofList ((line.toList.dropWhile (· == '#')).dropWhile isGap)

/-- The replacement for a heading puts its text between signs. -/
theorem expand_heading (text : String) :
    Template.expand "*_$1_*" [some text] = "*_" ++ text ++ "_*" := by
  have hreference : Template.groupReference ['1'] 1 = some (1, 1) := by decide +kernel
  refine String.toList_injective ?_
  rw [Template.expand_eq_expandRest]
  simp [Template.expandRest_literal, Template.expandRest_dollar, Template.expandRest_nil,
    Template.Token.image, hreference]

/-! ## The match -/

section Match

variable {q : Place}

/-- The place where the text of a heading begins. -/
def textPlace (q : Place) : Place :=
  (q.past (· == '#')).past gaps.contains

def textEnd (q : Place) : Place :=
  (textPlace q).past inLine.contains

theorem after_textPlace (q : Place) :
    (textPlace q).after = (q.after.dropWhile (· == '#')).dropWhile isGap := by
  rw [textPlace, Place.after_past, Place.after_past, funext contains_gaps]

theorem after_textEnd (hline : ∀ c ∈ q.after, isLineEnd c = false) : (textEnd q).after = [] := by
  rw [textEnd, Place.after_past, List.dropWhile_eq_nil_iff, after_textPlace]
  intro c hc
  exact contains_inLine (hline c (List.dropWhile_subset _ (List.dropWhile_subset _ hc)))

/-- All parts of the pattern of headings are greedy, so it takes the longest run for each. -/
theorem heading_prefers {cs : List Char} (hsign : q.after = '#' :: cs)
    (hstart : (Look.lineStart true).holds q = true) (hline : ∀ c ∈ q.after, isLineEnd c = false) :
    heading.node.Prefers (q, []) (textEnd q, [(3, textEnd q), (2, textPlace q)]) := by
  have hend : (Look.lineEnd true).holds (textEnd q) = true := by
    rw [Look.holds, after_textEnd hline]
    rfl
  exact .cat (.look hstart) (.cat (.plus (Node.ends_char '#') hsign rfl)
    (.cat (.star rfl) (.cat (.group (.star rfl)) (.look hend))))

/-- **The match of the heading rule is the whole line**, with the text of the heading as its
group. -/
theorem heading_match {line : String} (hline : ∀ c ∈ line.toList, isLineEnd c = false)
    (hsign : line.toList.head? = some '#') :
    ∃ m ∈ heading.findAll line, m.filled 0 "*_$1_*" =
      ⟨0, line, "*_" ++ headingText line ++ "_*", 0, line.utf8ByteSize⟩ := by
  obtain ⟨cs, hcs⟩ := List.head?_eq_some_iff.1 hsign
  have hmem := findAll_of_prefers (r := heading) rfl rfl (heading_prefers hcs rfl hline)
  generalize hq : Place.start line.toList = q at hmem
  have hafter : q.after = line.toList := hq ▸ rfl
  have hoffset : q.offset = 0 := hq ▸ rfl
  have hin : q.In line.toList := hq ▸ .start _
  have htext : (textPlace q).In line.toList := hin.past.past
  have hend : (textEnd q).In line.toList := htext.past
  have hnone : (textEnd q).after = [] := after_textEnd (hafter ▸ hline)
  have hgroup := (htext.passed hend (by rw [hnone, List.append_nil])).2
  obtain ⟨hsize, hwhole⟩ := hin.passed hend (by rw [hnone, List.append_nil])
  rw [hafter, hoffset, Nat.zero_add, String.utf8Len_toList] at hsize
  rw [hafter, hoffset, ← hsize, String.ofList_toList] at hwhole
  rw [after_textPlace, hafter, ← headingText] at hgroup
  have hmatch : (End.thread 0 (textEnd q, [(3, textEnd q), (2, textPlace q)])).toMatch
      heading.groupBound q = ⟨⟨0, line.utf8ByteSize, line⟩,
        [some ⟨(textPlace q).offset, (textEnd q).offset, headingText line⟩]⟩ :=
    congrArg₂ (fun whole group => Match.mk whole [some group]) hwhole hgroup
  refine ⟨_, hmem, ?_⟩
  rw [hmatch, Match.filled, ← expand_heading]
  rfl

end Match

/-! ## The claim -/

theorem heading_claimed {text : String} {m : Match} (hm : m ∈ heading.findAll text) :
    m.filled 0 "*_$1_*" ∈ ((Engine.mk Config.builtin.toRules).transform text).1.claims := by
  obtain ⟨rule, hrule, htemplate, hb⟩ := heading_rule
  have hfound : m ∈ rule.found text :=
    Rule.mem_found.2 ⟨heading, hb, hm, nonempty_of_mem_findAll rfl rfl hm⟩
  exact Engine.filled_mem_claims hrule htemplate hb hfound fun c _ hlt =>
    absurd hlt (Nat.not_lt_zero _)

/-- **A line that begins with a sign of a heading** is replaced as a whole: its text, without the
signs and the gap behind them, is put between other signs as it is, whatever marks it contains. The
line end stays, and so does all that the rules do on other lines. -/
theorem builtin_heading {front line stop back : String} (h : IsLine front line stop back)
    (hsign : line.toList.head? = some '#') :
    (Engine.mk Config.builtin.toRules).apply (front ++ line ++ stop ++ back) =
        (Engine.mk Config.builtin.toRules).apply front ++
          ("*_" ++ headingText line ++ "_*") ++ stop ++
          (Engine.mk Config.builtin.toRules).apply back ∧
      ⟨0, line, "*_" ++ headingText line ++ "_*", front.utf8ByteSize,
          (front ++ line).utf8ByteSize⟩ ∈
        ((Engine.mk Config.builtin.toRules).transform
          (front ++ line ++ stop ++ back)).1.claims := by
  obtain ⟨m, hm, hfilled⟩ := heading_match h.unbroken hsign
  obtain ⟨hn, hproductive, hconsumes⟩ := linewise_regexes heading (.head _)
  have hclaim := heading_claimed hm
  rw [hfilled] at hclaim
  have hshifted := heading_claimed (shift_mem_findAll h hn hproductive hconsumes hm)
  rw [Match.filled_shift, hfilled] at hshifted
  have hspan : Claim.shift front.utf8ByteSize
      ⟨0, line, "*_" ++ headingText line ++ "_*", 0, line.utf8ByteSize⟩ =
      ⟨0, line, "*_" ++ headingText line ++ "_*", front.utf8ByteSize,
        (front ++ line).utf8ByteSize⟩ := by
    rw [Claim.shift, Nat.zero_add, String.utf8ByteSize_append, Nat.add_comm]
  refine ⟨?_, hspan ▸ hshifted⟩
  rw [Engine.apply_line Engine.builtin_linewise h, Engine.apply_of_claim hclaim rfl rfl]

/-- A heading that contains marks, between other lines. -/
theorem builtin_heading_between :
    IsLine "- a\n" "##\t **b**" "\r\n" "c" ∧ "##\t **b**".toList.head? = some '#' ∧
      (Engine.mk Config.builtin.toRules).apply ("- a\n" ++ "##\t **b**" ++ "\r\n" ++ "c") =
        "• a\n" ++ ("*_" ++ "**b**" ++ "_*") ++ "\r\n" ++ "c" := by
  have hline : IsLine "- a\n" "##\t **b**" "\r\n" "c" :=
    ⟨by simp [isLineEnd], .inr ⟨"- a", "\n", by decide, .lf (by decide)⟩, .inr .crlf⟩
  have hfront : (Engine.mk Config.builtin.toRules).apply "- a\n" = "• a\n" := by decide +kernel
  have hback : (Engine.mk Config.builtin.toRules).apply "c" = "c" := by decide +kernel
  have htext : headingText "##\t **b**" = "**b**" := by decide +kernel
  obtain ⟨happly, -⟩ := builtin_heading hline (by decide)
  rw [hfront, hback, htext] at happly
  exact ⟨hline, by decide, happly⟩

end FirstClaim.Builtin
