import FirstClaim.Config

/-!
# Editing rule sets

A `RuleSet` is an ordered list of rules that are told apart by their ids. A rule that comes without
an id gets a new one from a supply (`IdSupply`), so that every rule of a set has one. Rules are
found by their ids; an id that no rule has is refused and nothing changes.
-/

set_option autoImplicit false

namespace FirstClaim

/-! ## Ids -/

/-- An endless supply of numbers to make ids from. -/
structure IdSupply where
  number : Nat → BitVec 128
  /-- How many numbers have been used. -/
  used : Nat := 0

/-- The id made from a number: `id_` and 32 hexadecimal digits. -/
def idText (n : BitVec 128) : String :=
  let digits := Nat.toDigits 16 n.toNat
  "id_" ++ String.ofList (List.replicate (32 - digits.length) '0' ++ digits)

/-- Whether a text could be an id made from a number. -/
def isIdText (s : String) : Bool :=
  match s.toList with
  | 'i' :: 'd' :: '_' :: digits =>
    digits.length == 32 && digits.all fun c => c.isDigit || ('a' ≤ c && c ≤ 'f')
  | _ => false

/-- What may take ids from a supply. -/
abbrev WithIds := StateM IdSupply

def newId : WithIds String := do
  let supply ← get
  set { supply with used := supply.used + 1 }
  pure (idText (supply.number supply.used))

/-- The rule with an id: its own one, or else a new one. -/
def RuleRecord.identify (r : RuleRecord) : WithIds RuleRecord := do
  match r.id with
  | some _ => pure r
  | none => pure { r with id := some (← newId) }

/-! ## Rule sets -/

/-- A named list of rules; a rule goes before those behind it. -/
structure RuleSet where
  name : String
  records : List RuleRecord
deriving DecidableEq, Repr

/-- No rule has this id. -/
structure UnknownRule where
  id : String
deriving DecidableEq, Repr

def UnknownRule.message (e : UnknownRule) : String :=
  s!"unknown rule id: {e.id}"

namespace RuleSet

def empty (name : String) : RuleSet :=
  ⟨name, []⟩

def size (s : RuleSet) : Nat :=
  s.records.length

def isEmpty (s : RuleSet) : Bool :=
  s.records.isEmpty

/-- Gives an id to every rule that has none. -/
def ensureIds (s : RuleSet) : WithIds RuleSet := do
  pure { s with records := ← s.records.mapM (·.identify) }

def ofRecords (name : String) (records : List RuleRecord) : WithIds RuleSet :=
  ensureIds ⟨name, records⟩

/-- Takes the rules from a file's rule set. -/
def ofConfig (c : Config) : WithIds RuleSet :=
  ofRecords c.name c.rules

/-- The rule set as it stands in a file, without a description. -/
def toConfig (s : RuleSet) : Config :=
  { name := s.name, rules := s.records }

def toRules (s : RuleSet) : List Rule :=
  s.records.map (·.toRule)

/-! ## Finding rules -/

/-- The first rule with an id. -/
def get? (s : RuleSet) (id : String) : Option RuleRecord :=
  s.records.find? (·.id == some id)

def indexOf (s : RuleSet) (id : String) : Except UnknownRule Nat :=
  match s.records.findIdx? (·.id == some id) with
  | some i => .ok i
  | none => .error ⟨id⟩

/-! ## Changes -/

/-- Adds a rule behind the others and tells its id. -/
def add (s : RuleSet) (r : RuleRecord) : WithIds (String × RuleSet) := do
  let id ← match r.id with
    | some id => pure id
    | none => newId
  pure (id, { s with records := s.records ++ [{ r with id := some id }] })

/-- Adds a rule with neither a pattern nor a replacement and tells its id. -/
def addEmpty (s : RuleSet) : WithIds (String × RuleSet) :=
  s.add {}

/-- Puts a rule in the place of the one with an id. The id stays. -/
def edit (s : RuleSet) (id : String) (r : RuleRecord) : Except UnknownRule RuleSet := do
  let i ← s.indexOf id
  .ok { s with records := s.records.set i { r with id := some id } }

def delete (s : RuleSet) (id : String) : Except UnknownRule (RuleRecord × RuleSet) := do
  let i ← s.indexOf id
  match s.records[i]? with
  | some r => .ok (r, { s with records := s.records.eraseIdx i })
  | none => .error ⟨id⟩

/-- Moves a rule to where another one stands now. -/
def move (s : RuleSet) (source target : String) : Except UnknownRule RuleSet :=
  if source = target then .ok s
  else do
    let i ← s.indexOf source
    -- the index before anything is taken out: a rule that moves down comes behind the target
    let j ← s.indexOf target
    match s.records[i]? with
    | some r => .ok { s with records := (s.records.eraseIdx i).insertIdx j r }
    | none => .error ⟨source⟩

/-- Puts the built-in rules in the place of all rules, with new ids. -/
def reset (s : RuleSet) : WithIds RuleSet := do
  pure { s with records := ← builtinRules.mapM (·.identify) }

end RuleSet

end FirstClaim
