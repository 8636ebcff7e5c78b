import FirstClaim.Proofs.Engine.Report
import FirstClaim.Proofs.Engine.Turn
import FirstClaim.Proofs.Regex.Literals
import FirstClaim.Proofs.Template.Grammar

/-!
# A rule whose pattern is a literal

A pattern without signs is replaced wherever it stands.

* `found_literal`: the rule finds an occurrence, passes over it and goes on behind it.
* `splice_literal`: so the substitution goes over the text as `replaceAll` does.
* `claims_single`: a rule with a template that is alone claims all its matches.

`apply_literal`: the rule does what `String.replace` does.
-/

set_option autoImplicit false

namespace FirstClaim

open String (utf8Len)

namespace Engine

/-! ## The substitution -/

/-- The claims on a text that replace what a literal finds in it. -/
def literalClaims (template : String) (found : List (Regex.Place × Regex.Thread)) : List Claim :=
  found.map fun x => (x.2.toMatch 0 x.1).filled 0 template

theorem splice_literal_cons {p : List Char} {template : String} {text : List Char}
    {q s : Regex.Place} {t : Regex.Thread} {found : List (Regex.Place × Regex.Thread)}
    {kept : List Char} (hq : q.In text) (hs : s.In text) (ht : t.place.In text)
    (hkept : q.after = kept ++ s.after) (hmatch : s.after = p ++ t.place.after) :
    splice q.offset q.after (literalClaims template ((s, t) :: found)) =
      kept ++ (template.toList ++ splice t.place.offset t.place.after
        (literalClaims template found)) := by
  obtain ⟨hstart, -⟩ := hq.passed hs hkept
  obtain ⟨hstop, hcapture⟩ := hs.passed ht hmatch
  have hfilled : (t.toMatch 0 s).filled 0 template =
      ⟨0, String.ofList p, template, s.offset, t.place.offset⟩ := by
    have hexpand : Template.expand template [] = template :=
      Template.expand_of_absent (fun g hg => by cases hg) template
    simp only [Regex.Match.filled, Regex.Match.claim, Regex.Thread.toMatch, hcapture,
      Regex.Match.call, List.range_zero, List.map_nil, hexpand]
  have hclaim := splice_claim (c := ⟨0, String.ofList p, template, s.offset, t.place.offset⟩)
    t.place.after (literalClaims template found) hstart (by rw [String.toList_ofList, hstop])
  rw [String.toList_ofList] at hclaim
  rw [literalClaims, List.map_cons, hfilled, hkept, hmatch]
  exact hclaim

/-- **What a literal finds is replaced as `replaceAll` replaces it.** -/
theorem splice_literal {p : List Char} (hp : p ≠ []) (template : String) {text : List Char}
    {q : Regex.Place} {found : List (Regex.Place × Regex.Thread)} (hq : q.In text)
    (h : (Regex.Node.literal p).Finds q found) :
    splice q.offset q.after (literalClaims template found) =
      replaceAll p template.toList q.after := by
  induction h with
  | none hnone =>
    rw [replaceAll_none _ fun _ _ hab => Regex.firstFrom_literal_eq_none hnone hab]
    rfl
  | @some q s t found hsome _ ih =>
    obtain ⟨hs, -, hattempt⟩ := Regex.Program.firstFrom_spec hq hsome
    have ht := (Regex.Node.in_of_attempt hs hattempt).1
    obtain ⟨kept, hkept, hbefore⟩ := Regex.firstFrom_literal_eq_some hsome
    obtain ⟨hmatch, -⟩ := Regex.attempt_literal_eq_some hattempt
    rw [splice_literal_cons hq hs ht hkept hmatch, ih ht, hkept, replaceAll_kept _ hbefore, hmatch,
      replaceAll_occurrence _ hp]

/-! ## The rule -/

/-- **A rule with a template that is alone claims all its matches.** -/
theorem claims_single {rule : Rule} {template : String}
    (htemplate : rule.replacement = .template template) {regex : Regex}
    (hb : rule.build = .ok regex) (text : String) :
    ((Engine.mk [rule]).transform text).1.claims =
      (rule.found text).map (·.filled 0 template) := by
  have hrule : ∀ c ∈ ((Engine.mk [rule]).transform text).1.claims, c.rule = 0 := fun c hc => by
    have hlt : c.rule < 1 := (transform_owners hc).1
    omega
  have hall : ((Engine.mk [rule]).transform text).1.claimsOf 0 =
      ((Engine.mk [rule]).transform text).1.claims :=
    List.filter_eq_self.2 fun c hc => by simpa using hrule c hc
  have heligible : ((Engine.mk [rule]).transform text).1.eligible 0 (rule.found text) =
      rule.found text := by
    refine List.filter_eq_self.2 fun m _ => ?_
    simp [Report.before]
  rw [← hall, turn_template text rfl htemplate hb, heligible]

/-- **A literal rule is plain find and replace.** A pattern without signs that can be built is
replaced wherever it stands, from left to right and behind the occurrence before, by the template as
it is written, references to groups included. -/
theorem apply_literal {p : String} (hp : ∀ c ∈ p.toList, Regex.isSign c = false) {regex : Regex}
    (hb : (Pattern.source p).build = .ok regex) (template text : String) :
    (Engine.mk [{ pattern := some (.source p), replacement := .template template }]).apply text =
        text.replace p template ∧
      (text.replace p template).toList = replaceAll p.toList template.toList text.toList := by
  have hne : p ≠ "" := by
    rintro rfl
    cases hb
  have hcs : p.toList ≠ [] := fun hnil => hne (String.toList_eq_nil_iff.1 hnil)
  have hnode : regex.node = .literal p.toList := Regex.node_of_signless hne hp hb
  have hproductive : regex.node.productive = true := by rw [hnode]; rfl
  have hconsumes : regex.node.consumes = true := by
    rw [hnode]
    simpa [Regex.Node.consumes] using hcs
  have hbound : regex.groupBound = 0 := by rw [Regex.groupBound, hnode]; rfl
  -- the rule finds what the pattern finds, since no match is empty
  have hrule : Rule.build { pattern := some (.source p), replacement := .template template } =
      .ok regex := congrArg (Except.mapError RuleError.ofPattern) hb
  obtain ⟨found, hfinds, hfound⟩ := Regex.findAll_finds hproductive hconsumes text
  rw [hnode] at hfinds
  rw [hbound] at hfound
  have hnonempty : (regex.findAll text).filter (fun m => m.whole.start < m.whole.stop) =
      regex.findAll text :=
    List.filter_eq_self.2 fun m hm => by
      simpa using Regex.nonempty_of_mem_findAll hproductive hconsumes hm
  have hclaims := claims_single rfl hrule text
  rw [Rule.found_of_build hrule, hnonempty, hfound, List.map_map] at hclaims
  have hsplice := splice_literal hcs template (.start _) hfinds
  have hreplace := toList_replace hne template text
  refine ⟨String.toList_inj.1 ?_, hreplace⟩
  rw [apply, (transform_report _ _).2, hclaims, String.toList_ofList, hreplace]
  exact hsplice

/-- Occurrences that overlap, and a template that looks like a reference to a group. -/
theorem apply_literal_overlapping :
    (∀ c ∈ "aa".toList, Regex.isSign c = false) ∧
      (Pattern.source "aa").build = .ok ⟨"aa", .literal ['a', 'a']⟩ ∧
      (Engine.mk [{ pattern := some (.source "aa"), replacement := .template "$1" }]).apply
        "aaa" = "$1a" := by
  have hp : ∀ c ∈ "aa".toList, Regex.isSign c = false := by simp [Regex.isSign]
  have hb : (Pattern.source "aa").build = .ok ⟨"aa", .literal ['a', 'a']⟩ := by decide +kernel
  obtain ⟨happly, hreplace⟩ := apply_literal hp hb "$1" "aaa"
  refine ⟨hp, hb, happly.trans (String.toList_inj.1 (hreplace.trans ?_))⟩
  simp [replaceAll]

end Engine

end FirstClaim
