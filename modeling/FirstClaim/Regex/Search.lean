import FirstClaim.Regex.Place
import FirstClaim.Regex.Program

/-!
# Searching a text

`Program.explore` runs the threads of a program in order of preference, until one accepts. An
instruction that has been tried at a place is not tried there again: if it led to a match the
search would be over. `Program.search` tries all places from left to right, and
`Program.matches` repeats the search behind each match.
-/

set_option autoImplicit false

namespace FirstClaim.Regex

/-- The places noted on the way, the last one first. -/
abbrev Slots := List (Nat × Place)

/-- An instruction to try at a place. -/
structure Thread where
  pc : Nat
  place : Place
  slots : Slots
deriving Repr

/-- For each place from a first one on, the instructions tried there, as bits. -/
structure Tried where
  base : Nat
  masks : Array Nat

namespace Tried

/-- Nothing has been tried at or behind a place. -/
def none (p : Place) : Tried :=
  ⟨p.index, #[]⟩

/-- The instructions tried at a place. -/
def mask (t : Tried) (p : Place) : Nat :=
  t.masks.getD (p.index - t.base) 0

def has (t : Tried) (pc : Nat) (p : Place) : Bool :=
  (t.mask p).testBit pc

/-- Notes that an instruction is tried at a place. -/
def insert (t : Tried) (pc : Nat) (p : Place) : Tried :=
  let i := p.index - t.base
  let masks := t.masks ++ Array.replicate (i + 1 - t.masks.size) 0
  { t with masks := masks.modify i (· ||| 1 <<< pc) }

end Tried

/-- What an instruction does. -/
inductive Outcome where
  | accepted
  /-- Threads to run, the preferred one first. -/
  | continues (threads : List Thread)
deriving Repr

/-- The threads behind a character, if the next one satisfies `p`. -/
def Thread.read (t : Thread) (next : Nat) (p : Char → Bool) : Outcome :=
  match t.place.after with
  | [] => .continues []
  | c :: _ => .continues (if p c then [⟨next, t.place.advance, t.slots⟩] else [])

/-- Runs one instruction of a thread. -/
def Thread.step (t : Thread) : Instr → Outcome
  | .accept => .accepted
  | .set s next => t.read next s.contains
  | .char c next => t.read next (· == c)
  | .look l next => .continues (if l.holds t.place then [⟨next, t.place, t.slots⟩] else [])
  | .save slot next => .continues [⟨next, t.place, (slot, t.place) :: t.slots⟩]
  | .split first second => .continues [⟨first, t.place, t.slots⟩, ⟨second, t.place, t.slots⟩]
  | .fail => .continues []

namespace Program

/-- Runs threads in order until one accepts. The first argument bounds the number of steps. -/
def explore (p : Program) : Nat → List Thread → Tried → Option Thread × Tried
  | 0, _, tried => (none, tried)
  | _, [], tried => (none, tried)
  | fuel + 1, t :: todo, tried =>
    if tried.has t.pc t.place then explore p fuel todo tried
    else
      let tried := tried.insert t.pc t.place
      match t.step (p.code.getD t.pc .fail) with
      | .accepted => (some t, tried)
      | .continues threads => explore p fuel (threads ++ todo) tried

/-- A number of steps that is enough for a search of the rest of a text: each instruction is tried
once at each place and leaves at most two threads. -/
def stepBound (p : Program) (place : Place) : Nat :=
  2 * (p.code.size * (place.after.length + 1)) + 2

/-- The first place at or behind `place` where a match begins, and the thread that accepted. -/
def searchFrom (p : Program) (fuel : Nat) (place : Place) (tried : Tried) :
    Option (Place × Thread) :=
  match p.explore fuel [⟨p.start, place, []⟩] tried with
  | (some t, _) => some (place, t)
  | (none, tried) =>
    if h : place.after = [] then none
    else
      have := place.after_advance_lt h
      -- what was tried from earlier places has failed and need not be tried again
      searchFrom p fuel place.advance tried
termination_by place.after.length

/-- The leftmost match at or behind a place. -/
def search (p : Program) (place : Place) : Option (Place × Thread) :=
  p.searchFrom (p.stepBound place) place (.none place)

end Program

/-- A part of the text, as byte offsets and as text. -/
structure Capture where
  start : Nat
  stop : Nat
  text : String
deriving DecidableEq, Repr

/-- A match: the part matched as a whole and the part of each group that took part. -/
structure Match where
  whole : Capture
  groups : List (Option Capture)
deriving DecidableEq, Repr

/-- The part of the text between two places. -/
def Place.capture (p q : Place) : Capture :=
  ⟨p.offset, q.offset, p.textTo q⟩

def Slots.capture? (s : Slots) (index : Nat) : Option Capture :=
  match s.lookup (2 * index), s.lookup (2 * index + 1) with
  | some p, some q => some (p.capture q)
  | _, _ => none

/-- The match that a thread found from a place on. -/
def Thread.toMatch (groups : Nat) (start : Place) (t : Thread) : Match :=
  ⟨start.capture t.place, (List.range groups).map fun i => t.slots.capture? (i + 1)⟩

namespace Program

/-- All matches from a place on. An empty match right behind the match before it is passed over.
The first argument bounds the number of matches. -/
def matchesFrom (p : Program) (groups : Nat) : Nat → Place → Option Nat → List Match
  | 0, _, _ => []
  | n + 1, place, last =>
    let found := match p.search place with
      | some (start, t) =>
        if start.index = t.place.index && some start.index = last then
          -- a search one character further may still find a match
          if place.after.isEmpty then none else p.search place.advance
        else some (start, t)
      | none => none
    match found with
    | none => []
    | some (start, t) =>
      t.toMatch groups start :: matchesFrom p groups n t.place (some t.place.index)

def allMatches (p : Program) (groups : Nat) (text : String) : List Match :=
  let cs := text.toList
  p.matchesFrom groups (cs.length + 2) (.start cs) none

end Program

end FirstClaim.Regex
