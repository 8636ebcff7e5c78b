import FirstClaim.Store

/-!
# What a store should hold

A history of a store is a list of operations. `Stands ops name config now` says in terms of the
history what is found under a name: what was saved under it last, unless it was removed since. The
same is a finite map that each operation changes in its turn (`contents`), and both agree
(`contents_eq_some_iff`).
-/

set_option autoImplicit false

namespace FirstClaim.Store

/-! ## Operations -/

/-- A call of a store. A rule set is saved at some time. -/
inductive Operation where
  | save (name : String) (config : Config) (now : Timestamp)
  | load (name : String)
  | remove (name : String)
  | list
deriving DecidableEq, Repr

def Operation.name? : Operation → Option String
  | save name _ _ | load name | remove name => some name
  | list => none

inductive Answer where
  | done
  | found (stored : Option StoredRuleSet)
  | names (names : List String)
deriving DecidableEq, Repr

/-- The answer and the tree that is left behind, where a tree may come out. -/
def changed (files : FileTree) : Except StoreError FileTree → Except StoreError Answer × FileTree
  | .ok files' => (.ok .done, files')
  | .error e => (.error e, files)

/-- What an operation answers, and the tree that it leaves behind. -/
def perform (s : Store) (files : FileTree) : Operation → Except StoreError Answer × FileTree
  | .save name config now => changed files (s.save files name config now)
  | .load name => ((s.load files name).map .found, files)
  | .remove name => changed files (s.remove files name)
  | .list => ((s.list files).map .names, files)

def run (s : Store) (files : FileTree) (ops : List Operation) : FileTree :=
  ops.foldl (fun files op => (s.perform files op).2) files

/-! ## Histories -/

/-- An operation that says what is found under a name from then on. -/
def Operation.Sets (op : Operation) (name : String) : Prop :=
  (∃ config now, op = .save name config now) ∨ op = .remove name

/-- A rule set was saved last under a name, at `now`, and the name was not removed since. -/
def Stands (ops : List Operation) (name : String) (config : Config) (now : Timestamp) : Prop :=
  ∃ earlier later, ops = earlier ++ .save name config now :: later ∧ ∀ op ∈ later, ¬ op.Sets name

/-- Rule sets with the times of their saving, under names. -/
abbrev Contents := String → Option (Config × Timestamp)

/-- What an operation makes of the contents. -/
def Operation.change : Operation → Contents → Contents
  | save name config now, c => fun other => if other = name then some (config, now) else c other
  | remove name, c => fun other => if other = name then none else c other
  | load _, c | list, c => c

/-- The contents after operations in turn, from nothing. -/
def contents (ops : List Operation) : Contents :=
  ops.foldl (fun c op => op.change c) fun _ => none

theorem Operation.change_eq_some {op : Operation} {c : Contents} {name : String} {config : Config}
    {now : Timestamp} : op.change c name = some (config, now) ↔
      op = .save name config now ∨ c name = some (config, now) ∧ ¬ op.Sets name := by
  cases op with
  | save other config' now' =>
    by_cases h : name = other
    · subst other
      simp [change, Sets]
    · have h' : ¬ other = name := fun heq => h heq.symm
      simp [change, Sets, h, h']
  | remove other =>
    by_cases h : name = other
    · subst other
      simp [change, Sets]
    · have h' : ¬ other = name := fun heq => h heq.symm
      simp [change, Sets, h, h']
  | load other => simp [change, Sets]
  | list => simp [change, Sets]

/-- A rule set stands since the first operation or since a later one. -/
theorem stands_cons {op : Operation} {ops : List Operation} {name : String} {config : Config}
    {now : Timestamp} : Stands (op :: ops) name config now ↔
      Stands ops name config now ∨ op = .save name config now ∧ ∀ op ∈ ops, ¬ op.Sets name := by
  constructor
  · rintro ⟨earlier, later, hops, hlater⟩
    cases earlier with
    | nil =>
      obtain ⟨rfl, rfl⟩ := List.cons.inj hops
      exact .inr ⟨rfl, hlater⟩
    | cons op' earlier =>
      obtain ⟨-, rfl⟩ := List.cons.inj hops
      exact .inl ⟨earlier, later, rfl, hlater⟩
  · rintro (⟨earlier, later, rfl, hlater⟩ | ⟨rfl, hlater⟩)
    · exact ⟨op :: earlier, later, rfl, hlater⟩
    · exact ⟨[], ops, rfl, hlater⟩

theorem foldl_change_eq_some {ops : List Operation} {c : Contents} {name : String}
    {config : Config} {now : Timestamp} :
    ops.foldl (fun c op => op.change c) c name = some (config, now) ↔
      Stands ops name config now ∨ c name = some (config, now) ∧ ∀ op ∈ ops, ¬ op.Sets name := by
  induction ops generalizing c with
  | nil => simp [Stands]
  | cons op ops ih =>
    rw [List.foldl_cons, ih, stands_cons, Operation.change_eq_some, List.forall_mem_cons]
    rw [or_and_right, and_assoc, or_assoc]

/-- **The map holds under a name what stands there in the history.** -/
theorem contents_eq_some_iff {ops : List Operation} {name : String} {config : Config}
    {now : Timestamp} :
    contents ops name = some (config, now) ↔ Stands ops name config now := by
  rw [contents, foldl_change_eq_some]
  simp

theorem contents_eq_none_iff {ops : List Operation} {name : String} :
    contents ops name = none ↔ ¬ ∃ config now, Stands ops name config now := by
  simp [← contents_eq_some_iff, Option.eq_none_iff_forall_ne_some]

theorem isSome_contents_iff {ops : List Operation} {name : String} :
    (contents ops name).isSome ↔ ∃ config now, Stands ops name config now := by
  simp [← contents_eq_some_iff, Option.isSome_iff_exists]

end FirstClaim.Store
