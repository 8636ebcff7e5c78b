import FirstClaim.Config

/-!
# Records from their members

A record is read member by member, whatever the format of the file. `Fills` says which record comes
from members in turn; `Written` is what a format has to provide so that written rules and rule sets
come from their members (`RuleRecord.fills`, `Config.fills`).
-/

set_option autoImplicit false

namespace FirstClaim

section

variable {R : Type → Type} {V : Type}

/-- Members in turn, with what their values are read from, make one record of another one. The names
of those read before are `seen`. -/
inductive Fills (Reads : {α : Type} → R α → V → α → Prop) {σ : Type} (form : RecordForm R σ) :
    List String → σ → List (String × V) → List String → σ → Prop
  | nil (seen : List String) (s : σ) : Fills Reads form seen s [] seen s
  | member {seen seen' : List String} {s s₁ s' : σ} {key : String} {m : Member R σ} {v : V}
      {members : List (String × V)} : form.member? key = some m → seen.contains key = false →
      Reads (m.read s) v s₁ → Fills Reads form (key :: seen) s₁ members seen' s' →
      Fills Reads form seen s ((key, v) :: members) seen' s'

theorem Fills.name_mem {Reads : {α : Type} → R α → V → α → Prop} {σ : Type} {form : RecordForm R σ}
    {seen seen' : List String} {s s' : σ} {members : List (String × V)} {m : String × V}
    (h : Fills Reads form seen s members seen' s') (hm : m ∈ members) :
    m.1 ∈ form.members.map (·.name) := by
  induction h with
  | nil => cases hm
  | @member _ _ _ _ _ key field _ _ hfield _ _ _ ih =>
    rcases List.mem_cons.1 hm with rfl | hm
    · have hname : field.name = key := by simpa using List.find?_some hfield
      exact hname ▸ List.mem_map_of_mem (List.mem_of_find?_eq_some hfield)
    · exact ih hm

/-- How texts are written in a format: what a value is read from, and that it is read from it. -/
structure Written (R : Type → Type) [FileFormat R] (V : Type) where
  /-- A value is read from what was written. -/
  Reads : {α : Type} → R α → V → α → Prop
  /-- A text as it is written. -/
  ofText : String → V
  map {α β : Type} {read : R α} {v : V} {a : α} (f : α → β) :
    Reads read v a → Reads (do return f (← read)) v (f a)
  text (s : String) : Reads FileFormat.text (ofText s) s
  optional (s : String) : Reads (FileFormat.optional FileFormat.text) (ofText s) (some s)

variable [FileFormat R] (w : Written R V)

def Written.members (members : List (String × String)) : List (String × V) :=
  members.map fun m => (m.1, w.ofText m.2)

/-! ## Rules -/

namespace RuleRecord

theorem fills_description {seen : List String} (hnew : seen.contains "description" = false)
    (id : Option String) (pattern replacement : String) (description : Option String) :
    ∃ seen', Fills w.Reads form seen ⟨id, pattern, replacement, none⟩
      (w.members (optionalMember "description" description)) seen'
      ⟨id, pattern, replacement, description⟩ := by
  cases description with
  | none => exact ⟨seen, .nil _ _⟩
  | some d =>
    have hd := w.map (fun v => RuleRecord.mk id pattern replacement v) (w.optional d)
    exact ⟨_, .member rfl hnew hd (.nil _ _)⟩

/-- **A rule comes from its members**, whichever of the optional ones are there. -/
theorem fills (r : RuleRecord) : ∃ seen, Fills w.Reads form [] {} (w.members r.members) seen r := by
  obtain ⟨id, pattern, replacement, description⟩ := r
  have hpattern := w.map (fun v => RuleRecord.mk id v "" none) (w.text pattern)
  have hreplacement := w.map (fun v => RuleRecord.mk id pattern v none) (w.text replacement)
  cases id with
  | none =>
    have hnew : ["replacement", "pattern"].contains "description" = false := rfl
    obtain ⟨seen, hlast⟩ := fills_description w hnew none pattern replacement description
    exact ⟨seen, .member rfl rfl hpattern (.member rfl rfl hreplacement hlast)⟩
  | some id =>
    have hid := w.map (fun v => RuleRecord.mk v "" "" none) (w.optional id)
    have hnew : ["replacement", "pattern", "id"].contains "description" = false := rfl
    obtain ⟨seen, hlast⟩ := fills_description w hnew (some id) pattern replacement description
    exact ⟨seen, .member rfl rfl hid
      (.member rfl rfl hpattern (.member rfl rfl hreplacement hlast))⟩

end RuleRecord

/-! ## Rule sets -/

/-- **A rule set comes from its members** and its rules, whether it has a description or not. -/
theorem Config.fills (c : Config) {v : V}
    (hrules : w.Reads (FileFormat.list (FileFormat.record RuleRecord.form)) v c.rules) :
    ∃ seen, Fills w.Reads form [] {} (w.members c.members ++ [("rules", v)]) seen c := by
  obtain ⟨name, description, rules⟩ := c
  have hname := w.map (fun v => Config.mk v none []) (w.text name)
  have hlast := w.map (fun v => Config.mk name description v) hrules
  cases description with
  | none => exact ⟨_, .member rfl rfl hname (.member rfl rfl hlast (.nil _ _))⟩
  | some d =>
    have hd := w.map (fun v => Config.mk name v []) (w.optional d)
    exact ⟨_, .member rfl rfl hname (.member rfl rfl hd (.member rfl rfl hlast (.nil _ _)))⟩

end

end FirstClaim
