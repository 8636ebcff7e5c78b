import FirstClaim.Proofs.Json.Reading
import FirstClaim.StoredRuleSet

/-!
# Rule sets in JSON

A rule and a rule set read back as they were written (`RuleRecord.reads`, `Config.reads_pretty`),
with every text that their members can hold. An optional member is written only if it is there, and
is absent when it is not found. Rules read back from a text without blanks too
(`reads_compactRules`).
-/

set_option autoImplicit false

namespace FirstClaim

open Json

def Json.written : Written Json.Reader (List Char) where
  Reads := Reads
  ofText := stringText
  map f h := h.map f
  text s := reads_text "a string" s
  optional s := (reads_text "a string" s).optional

/-! ## Rules -/

namespace RuleRecord

variable {b w w' : List Char}

/-- **A rule reads back as it was written.** -/
theorem reads (r : RuleRecord) (hb : Blank b) (hw : Blank w) (hw' : Blank w') :
    Reads (FileFormat.record form)
      (enclosed '{' '}' w w' ((Json.written.members r.members).map (memberText b))) r := by
  obtain ⟨seen, hfills⟩ := r.fills Json.written
  exact reads_record hfills rfl hb hw hw'

theorem reads_rules {text : RuleRecord → List Char} (hw : Blank w) (hw' : Blank w')
    (htext : ∀ r, Reads (FileFormat.record form) (text r) r) (rules : List RuleRecord) :
    Reads (FileFormat.list (FileFormat.record form))
      (enclosed '[' ']' w w' (rules.map text)) rules := by
  have hitems : ∀ x ∈ rules.map fun r => (text r, r),
      Reads (FileFormat.record form) x.1 x.2 := by
    intro x hx
    obtain ⟨r, -, rfl⟩ := List.mem_map.1 hx
    exact htext r
  have hlist := reads_list hw hw' hitems
  simp only [List.map_map, Function.comp_def, List.map_id'] at hlist
  exact hlist

end RuleRecord

/-! ## Rule sets -/

theorem blank_space : Blank [' '] := by
  simp [Blank]

theorem prettyMembers_textMembers (depth : Nat) (members : List (String × String)) :
    Value.prettyMembers depth (textMembers members) =
      (Json.written.members members).map (memberText [' ']) := by
  rw [Value.prettyMembers_eq_map, textMembers, Written.members, List.map_map, List.map_map]
  refine List.map_congr_left fun m _ => ?_
  simp only [Function.comp_apply, memberText, Value.prettyText, Json.written]

theorem prettyText_rule (depth : Nat) (r : RuleRecord) :
    Value.prettyText depth (.object (textMembers r.members)) =
      enclosed '{' '}' (Value.newLine (depth + 1)) (Value.newLine depth)
        ((Json.written.members r.members).map (memberText [' '])) := by
  rw [Value.prettyText, Value.block_eq_enclosed, prettyMembers_textMembers]

/-- **A list of rules reads back as it was written**, with each member on a line of its own. -/
theorem reads_prettyRules (depth : Nat) (rules : List RuleRecord) :
    Reads (FileFormat.list (FileFormat.record RuleRecord.form))
      (Value.prettyText depth (rulesValue rules)) rules := by
  have hrule : ∀ r : RuleRecord, Reads (FileFormat.record RuleRecord.form)
      (Value.prettyText (depth + 1) (.object (textMembers r.members))) r := by
    intro r
    rw [prettyText_rule]
    exact r.reads blank_space (blank_newLine _) (blank_newLine _)
  have hrules :=
    RuleRecord.reads_rules (blank_newLine (depth + 1)) (blank_newLine depth) hrule rules
  rwa [rulesValue, Value.prettyText, Value.block_eq_enclosed, Value.prettyItems_eq_map,
    List.map_map]

theorem compactText_rule (r : RuleRecord) :
    Value.compactText (.object (textMembers r.members)) =
      enclosed '{' '}' [] [] ((Json.written.members r.members).map (memberText [])) := by
  have hmembers : Value.compactMembers (textMembers r.members) =
      (Json.written.members r.members).map (memberText []) := by
    rw [Value.compactMembers_eq_map, textMembers, Written.members, List.map_map, List.map_map]
    refine List.map_congr_left fun m _ => ?_
    simp only [Function.comp_apply, memberText, Value.compactText, Json.written, List.nil_append]
  rw [Value.compactText, hmembers, Value.separated_eq_enclosed]

/-- **A list of rules reads back as it was written**, without blanks. -/
theorem reads_compactRules (rules : List RuleRecord) :
    Reads (FileFormat.list (FileFormat.record RuleRecord.form))
      (Value.compactText (rulesValue rules)) rules := by
  have hrule : ∀ r : RuleRecord, Reads (FileFormat.record RuleRecord.form)
      (Value.compactText (.object (textMembers r.members))) r := by
    intro r
    rw [compactText_rule]
    exact r.reads .nil .nil .nil
  have hrules := RuleRecord.reads_rules .nil .nil hrule rules
  rwa [rulesValue, Value.compactText, Value.separated_eq_enclosed, Value.compactItems_eq_map,
    List.map_map]

namespace Config

/-- **A rule set reads back as it was written.** -/
theorem reads_pretty (depth : Nat) (c : Config) :
    Reads Config.read (Value.prettyText depth c.toValue) c := by
  obtain ⟨seen, hfills⟩ := c.fills Json.written (reads_prettyRules (depth + 1) c.rules)
  have hreads := reads_record hfills rfl blank_space (blank_newLine (depth + 1))
    (blank_newLine depth)
  have htext : Value.prettyText depth c.toValue =
      enclosed '{' '}' (Value.newLine (depth + 1)) (Value.newLine depth)
        ((Json.written.members c.members ++
          [("rules", Value.prettyText (depth + 1) (rulesValue c.rules))]).map
            (memberText [' '])) := by
    rw [toValue, Value.prettyText, Value.block_eq_enclosed, Value.prettyMembers_eq_map,
      List.map_append, ← Value.prettyMembers_eq_map, prettyMembers_textMembers, List.map_append]
    rfl
  rw [htext]
  exact hreads

end Config

end FirstClaim
