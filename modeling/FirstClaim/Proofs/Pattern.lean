import FirstClaim.Pattern
import FirstClaim.Proofs.Regex.LineAnchors

/-!
# Patterns are matched line by line

Whether the flag for lines is set follows from a scan of the source, which takes signs in classes,
behind backslashes and in comments for line anchors as well. This does not matter
(`flag_harmless`): the flag changes nothing where the pattern as written has no line anchor, and a
pattern whose source passes the scan has none, so every pattern is matched as if the flag were set.
-/

set_option autoImplicit false

namespace FirstClaim

namespace Regex

/-- Without line anchors both states of the flag for lines give the same regular expression. -/
theorem build_withLines (m : Mode) (b : Bool) {source : String} {ast : Ast}
    (hread : Ast.read source = .ok ast) (h : ast.hasLineAnchor = false) :
    build (m.withLines b) source = build m source := by
  have hnode : Node.ofSource (m.withLines b) source = Node.ofSource m source := by
    unfold Node.ofSource
    rw [hread]
    exact ast.interpret_withLines m b h
  rw [build, hnode, build]

theorem build_of_read_error (m : Mode) {source : String} {e : Error}
    (hread : Ast.read source = .error e) : build m source = .error (.refused source e) := by
  have hnode : Node.ofSource m source = .error e := by
    unfold Node.ofSource
    rw [hread]
    rfl
  rw [build, hnode]

end Regex

namespace Pattern

open Regex

/-- The flags that rules are matched with, for either state of the flag for lines. -/
def lineMode (multiLine : Bool) : Mode :=
  { multiLine, crlf := true }

/-- The regular expression of a pattern under given flags. -/
def buildIn (mode : Mode) (p : Pattern) : Except PatternError Regex :=
  if p.isEmpty then .error .empty
  else match Regex.build mode p.text with
    | .ok regex => .ok regex
    | .error e => .error (.invalid p.text e)

theorem signFree_of_scan {source : String} (h : wantsMultiLine source = false) :
    SignFree source.toList := by
  simpa [wantsMultiLine, SignFree] using h

theorem build_of_scan {source : String} (h : wantsMultiLine source = false) :
    Regex.build (lineMode true) source = Regex.build (lineMode false) source := by
  cases hread : Ast.read source with
  | error e => rw [build_of_read_error _ hread, build_of_read_error _ hread]
  | ok ast =>
    exact build_withLines (lineMode false) true hread
      (hasLineAnchor_of_signFree (signFree_of_scan h) hread)

/-- **The flag for lines may always be set.** Where the pattern as written has no line anchor, both
states of the flag fail alike or give the same groups and the same matches in every text; a source
without the signs of line anchors has none; so each pattern is built as if the flag were set. -/
theorem flag_harmless :
    (∀ source ast, Ast.read source = .ok ast → ast.hasLineAnchor = false →
      Regex.build (lineMode true) source = Regex.build (lineMode false) source ∧
        ∀ text, (Regex.build (lineMode true) source).map
            (fun regex => (regex.groupCount, regex.findAll text)) =
          (Regex.build (lineMode false) source).map
            fun regex => (regex.groupCount, regex.findAll text)) ∧
    (∀ source ast, wantsMultiLine source = false → Ast.read source = .ok ast →
      ast.hasLineAnchor = false) ∧
    ∀ p : Pattern, p.build = p.buildIn (lineMode true) := by
  refine ⟨fun source ast hread h => ?_, fun source ast hscan hread => ?_, fun p => ?_⟩
  · have hbuild := build_withLines (lineMode false) true hread h
    exact ⟨hbuild, fun text => congrArg _ hbuild⟩
  · exact hasLineAnchor_of_signFree (signFree_of_scan hscan) hread
  · have hmode : Regex.build (mode p.text) p.text = Regex.build (lineMode true) p.text := by
      unfold mode
      cases hscan : wantsMultiLine p.text with
      | true => rfl
      | false => exact (build_of_scan hscan).symm
    unfold build
    rw [hmode]
    rfl

/-- Both signs in a class and behind a backslash, and a source without signs. -/
theorem flag_harmless_escapes :
    ∃ ast ast', Ast.read "[^$]\\$\\^" = .ok ast ∧ ast.hasLineAnchor = false ∧
      Regex.build (lineMode true) "[^$]\\$\\^" = Regex.build (lineMode false) "[^$]\\$\\^" ∧
      wantsMultiLine "a|b" = false ∧ Ast.read "a|b" = .ok ast' ∧ ast'.hasLineAnchor = false := by
  obtain ⟨hsame, hscan, -⟩ := flag_harmless
  obtain ⟨ast, hread, h⟩ :
      ∃ ast, Ast.read "[^$]\\$\\^" = .ok ast ∧ ast.hasLineAnchor = false := ⟨_, rfl, rfl⟩
  obtain ⟨ast', hread'⟩ : ∃ ast', Ast.read "a|b" = .ok ast' := ⟨_, rfl⟩
  have hpasses : wantsMultiLine "a|b" = false := by decide
  exact ⟨ast, ast', hread, h, (hsame _ ast hread h).1, hpasses, hread',
    hscan _ ast' hpasses hread'⟩

end Pattern

end FirstClaim
