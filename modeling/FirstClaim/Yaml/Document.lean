import FirstClaim.Yaml.Event

/-!
# Documents

A `Document` is the content of a text as a list of items, where an alias points at the item that it
stands for. A text that turns out to be malformed gives the items before the error, with the error.
-/

set_option autoImplicit false

namespace FirstClaim.Yaml

/-- A part of a document. -/
inductive Item where
  /-- The only item of a text without a document. -/
  | nothing
  | scalar (text : String) (style : ScalarStyle) (tag : Option String)
  | sequenceStart
  | sequenceEnd
  | mappingStart
  | mappingEnd
  /-- The node that begins with the item of this number. -/
  | aliasOf (target : Nat)
deriving DecidableEq, Repr

/-- What a text holds. -/
structure Document where
  items : Array (Item × Mark)
  /-- The error that ended the reading. -/
  failure : Option Error

namespace Document

/-- Items with the anchors among them. An anchor has a number, which is that of the names known
before it; the item of a number is the last one that was given it. -/
structure Draft where
  /-- The items, the last one first; an alias holds the number of its anchor. -/
  items : List (Item × Mark) := []
  /-- The names of anchors with their numbers. -/
  names : List (String × Nat) := []
  /-- The numbers of anchors with the items that have them, the last one first. -/
  targets : List (Nat × Nat) := []

namespace Draft

/-- Adds an item that may have an anchor. -/
def add (d : Draft) (item : Item) (anchor : Option String) (m : Mark) : Draft :=
  let next := { d with items := (item, m) :: d.items }
  match anchor with
  | none => next
  | some name =>
    let number := d.names.length
    { next with
      names := (name, number) :: d.names.filter (·.1 ≠ name),
      targets := (number, d.items.length) :: d.targets }

/-- The document with its aliases pointing at items. -/
def finish (d : Draft) (failure : Option Error) : Document :=
  let point : Item × Mark → Item × Mark
    | (.aliasOf number, m) => (.aliasOf ((d.targets.lookup number).getD 0), m)
    | item => item
  ⟨(d.items.reverse.map point).toArray, failure⟩

end Draft

/-- Reads the first document of events that end with an error or without one, and whether the text
ends behind it. -/
def read (failure : Option Error) : Draft → List Event → Document × Bool
  | d, [] => (d.finish failure, true)
  | d, ⟨kind, m⟩ :: rest =>
    match kind with
    | .documentStart => read failure d rest
    | .documentEnd => (d.finish none, (rest.head?.map (·.kind)) == some .streamEnd)
    | .streamEnd => ((d.add .nothing none m).finish none, true)
    | .aliasOf name =>
      match d.names.lookup name with
      | none => (d.finish (some (.unknownAnchor m)), true)
      | some number => read failure (d.add (.aliasOf number) none m) rest
    | .scalar text style tag anchor => read failure (d.add (.scalar text style tag) anchor m) rest
    | .sequenceStart anchor => read failure (d.add .sequenceStart anchor m) rest
    | .sequenceEnd => read failure (d.add .sequenceEnd none m) rest
    | .mappingStart anchor => read failure (d.add .mappingStart anchor m) rest
    | .mappingEnd => read failure (d.add .mappingEnd none m) rest

/-- The first document of a text, and whether the text ends behind it. -/
def ofText (text : String) : Document × Bool :=
  let (es, failure) := events text
  read failure {} es

end Document

end FirstClaim.Yaml
