import FirstClaim.Regex.Node

/-!
# Matching programs

A program is an array of instructions that refer to each other by index. `Node.compile` appends the
instructions of a pattern to a program, from the end of the pattern to its beginning, so that the
instruction that follows is known when another one refers to it. A choice lists the preferred
branch first.
-/

set_option autoImplicit false

namespace FirstClaim.Regex

/-- An instruction; `next` is the index of the one that follows. -/
inductive Instr where
  | accept
  /-- Reads one character of a set. -/
  | set (s : CharSet) (next : Nat)
  /-- Reads the character `c`. -/
  | char (c : Char) (next : Nat)
  | look (l : Look) (next : Nat)
  /-- Notes the place reached under a slot. -/
  | save (slot next : Nat)
  /-- Goes on with `first` and, if that fails, with `second`. -/
  | split (first second : Nat)
  /-- Matches nothing. -/
  | fail
deriving DecidableEq, Repr

/-- Instructions and the index of the one to begin with. -/
structure Program where
  code : Array Instr
  start : Nat
deriving DecidableEq, Repr

namespace Program

/-- Appends one instruction and begins with it. -/
def push (p : Program) (i : Instr) : Program :=
  ⟨p.code.push i, p.code.size⟩

def choice (greedy : Bool) (into out : Nat) : Instr :=
  if greedy then .split into out else .split out into

/-- Puts `n` copies of what `emit` puts in front of a program, one after the other. -/
def copies (emit : Program → Program) : Nat → Program → Program
  | 0, p => p
  | n + 1, p => copies emit n (emit p)

/-- Up to `n` copies, each of which may be the last; `out` is the index to leave to. -/
def optionalCopies (emit : Program → Program) (greedy : Bool) (out : Nat) :
    Nat → Program → Program
  | 0, p => p
  | n + 1, p =>
    let p := emit p
    optionalCopies emit greedy out n (p.push (choice greedy p.start out))

/-- One copy or more. -/
def loop (emit : Program → Program) (greedy : Bool) (p : Program) : Program :=
  let out := p.start
  let back := p.code.size
  -- the body has to know where it leads back to, so the choice there is put in last
  let body := emit (p.push .fail)
  ⟨body.code.setIfInBounds back (choice greedy body.start out), body.start⟩

def repeated (emit : Program → Program) (min : Nat) (max : Option Nat) (greedy : Bool)
    (p : Program) : Program :=
  match max with
  | some max => copies emit min (optionalCopies emit greedy p.start (max - min) p)
  | none =>
    let once := loop emit greedy p
    if min = 0 then once.push (choice greedy once.start p.start)
    else copies emit (min - 1) once

end Program

/-- Puts the instructions of a pattern in front of a program. -/
def Node.compile : Node → Program → Program
  | .empty, p => p
  | .literal cs, p => cs.foldr (fun c p => p.push (.char c p.start)) p
  | .set s, p => p.push (.set s p.start)
  | .look l, p => p.push (.look l p.start)
  | .group index sub, p =>
    let closed := p.push (.save (2 * index + 1) p.start)
    let body := sub.compile closed
    body.push (.save (2 * index) body.start)
  | .rep min max greedy sub, p => Program.repeated sub.compile min max greedy p
  | .cat a b, p => a.compile (b.compile p)
  | .alt a b, p =>
    let second := b.compile p
    -- both branches lead to what follows the choice
    let first := a.compile ⟨second.code, p.start⟩
    first.push (.split first.start second.start)

def Program.ofNode (n : Node) : Program :=
  n.compile ⟨#[.accept], 0⟩

end FirstClaim.Regex
