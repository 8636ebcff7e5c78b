import FirstClaim.Proofs.RecordForm
import FirstClaim.Proofs.Yaml.Reading

/-!
# Rule sets in YAML

A rule set is written as a mapping of texts with a sequence of such mappings behind it, and reads
back as it was written (`Config.parse_toYaml`). Whatever texts the members hold, their names are
those of the record forms, and so they are plain words.
-/

set_option autoImplicit false

namespace FirstClaim

open Yaml

/-- A text is written as a scalar in its style. -/
def Yaml.written : Written Yaml.Reader (List Item) where
  Reads := Reads
  ofText s := [.scalar s (styleOf s) none]
  map f h := h.map f
  text s := reads_text "a string" s
  optional s := (reads_text "a string" s).optional

namespace Yaml

theorem flatMap_namedItems (members : List (String × String)) :
    (written.members members).flatMap namedItems = members.flatMap memberItems := by
  rw [Written.members, List.flatMap_map]
  rfl

/-! ## Names of members -/

/-- A name that is written plainly and is not taken for an absent value. -/
def IsFieldName (name : String) : Prop :=
  isName name.toList = true ∧ isShown (.scalar name .plain none) = true

instance (name : String) : Decidable (IsFieldName name) :=
  inferInstanceAs (Decidable (_ ∧ _))

section Names

variable {R : Type → Type} [FileFormat R]

theorem isFieldName_rule : ∀ name ∈ (RuleRecord.form (R := R)).members.map (·.name),
    IsFieldName name := by
  show ∀ name ∈ ["id", "pattern", "replacement", "description"], IsFieldName name
  decide

theorem isFieldName_config : ∀ name ∈ (Config.form (R := R)).members.map (·.name),
    IsFieldName name := by
  show ∀ name ∈ ["name", "description", "rules"], IsFieldName name
  decide

end Names

variable {σ : Type} {form : RecordForm Reader σ} {seen seen' : List String} {s s' : σ}

/-- The names of members that make a record are not taken for absent values. -/
theorem shown_of_fills (hform : ∀ name ∈ form.members.map (·.name), IsFieldName name)
    {members : List (String × List Item)} (h : Fills Reads form seen s members seen' s') :
    Shown members :=
  fun _ hm => (hform _ (h.name_mem hm)).2

theorem named_of_fills (hform : ∀ name ∈ form.members.map (·.name), IsFieldName name)
    {members : List (String × String)} {all : List (String × List Item)}
    (hmembers : written.members members ⊆ all) (h : Fills Reads form seen s all seen' s') :
    Named members := by
  intro m hm
  have hmem : (m.1, written.ofText m.2) ∈ all := hmembers (List.mem_map_of_mem hm)
  exact (hform _ (h.name_mem hmem)).1

end Yaml

/-! ## Rules -/

namespace RuleRecord

theorem members_named (r : RuleRecord) : r.members ≠ [] ∧ Named r.members := by
  obtain ⟨seen, hfills⟩ := r.fills written
  exact ⟨by simp [members], named_of_fills isFieldName_rule (List.Subset.refl _) hfills⟩

/-- **A rule is read from the items of its members.** -/
theorem reads_items (r : RuleRecord) :
    Reads (FileFormat.record form) (entryItems r.members) r := by
  obtain ⟨seen, hfills⟩ := r.fills written
  have hread := reads_record hfills rfl (shown_of_fills isFieldName_rule hfills)
  rwa [flatMap_namedItems] at hread

end RuleRecord

/-! ## Rule sets -/

namespace Config

/-- The items of a rule set. -/
def items (c : Config) : List Item :=
  documentItems c.members (c.rules.map (·.members))

theorem fills_items (c : Config) : ∃ seen, Fills Reads form [] {}
    (written.members c.members ++ [("rules", listItems (c.rules.map (·.members)))]) seen c := by
  have hrules := reads_list (l := c.rules) fun r _ => r.reads_items
  refine c.fills written ?_
  rw [listItems, List.flatMap_map]
  exact hrules

theorem members_named (c : Config) : c.members ≠ [] ∧ Named c.members := by
  obtain ⟨seen, hfills⟩ := c.fills_items
  exact ⟨List.cons_ne_nil _ _, named_of_fills isFieldName_config
    (List.subset_append_left _ _) hfills⟩

/-- **A rule set is read from its items.** -/
theorem reads_items (c : Config) : Reads Config.read c.items c := by
  obtain ⟨seen, hfills⟩ := c.fills_items
  have hread := reads_record hfills rfl (shown_of_fills isFieldName_config hfills)
  rw [List.flatMap_append, flatMap_namedItems, List.append_assoc, List.flatMap_singleton]
    at hread
  exact hread

theorem toYaml_eq (c : Config) :
    c.toYaml = String.ofList (documentText c.members (c.rules.map (·.members))) := by
  simp only [toYaml, documentText, listText, List.isEmpty_map, List.flatMap_map]

/-- **A rule set reads back as it was written.** -/
theorem parse_toYaml (c : Config) : Yaml.parse Config.read c.toYaml = .ok c := by
  have hrules : ∀ members ∈ c.rules.map (·.members), members ≠ [] ∧ Named members := by
    intro members hmembers
    obtain ⟨r, -, rfl⟩ := List.mem_map.1 hmembers
    exact r.members_named
  obtain ⟨its, hits, hdocument⟩ := ofText_document c.members_named hrules
  have hread := c.reads_items
  rw [items, ← hits] at hread
  rw [toYaml_eq]
  exact hread.parse hdocument

end Config

end FirstClaim
