import FirstClaim.Proofs.Regex.Finds

/-!
# The end that a pattern prefers

`Node.Prefers` says which of the ends of a pattern comes first, and with it where the match at a
place ends. It has a rule for each way to put patterns together that leaves no choice: a sequence
goes on from the end preferred by its first part as long as the second part can go on at all
(`Prefers.cat`), and a greedy repetition of single characters takes the longest run of them
(`Prefers.star`, `Prefers.plus`).

`findAll_of_prefers`: a pattern that prefers an end at the beginning of a text has its first match
there.
-/

set_option autoImplicit false

namespace FirstClaim.Regex

/-! ## Runs of characters -/

/-- The place behind those of the next characters that satisfy `p` up to the first that does not. -/
def Place.passing (p : Char → Bool) : List Char → Place → Place
  | [], q => q
  | c :: cs, q => if p c then passing p cs q.advance else q

/-- The place behind the longest run of characters that satisfy `p`. -/
def Place.past (p : Char → Bool) (q : Place) : Place :=
  passing p q.after q

section Past

variable {p : Char → Bool} {q : Place} {c : Char} {cs : List Char}

theorem Place.after_advance (h : q.after = c :: cs) : q.advance.after = cs := by
  rw [advance, h]

theorem Place.past_of_nil (h : q.after = []) : q.past p = q := by
  rw [past, h, passing]

theorem Place.past_of_pos (h : q.after = c :: cs) (hc : p c = true) :
    q.past p = q.advance.past p := by
  rw [past, h, passing, if_pos hc, past, after_advance h]

theorem Place.past_of_neg (h : q.after = c :: cs) (hc : p c = false) : q.past p = q := by
  rw [past, h, passing, hc]
  rfl

/-- Behind the run the text goes on with what the run leaves. -/
theorem Place.after_past (p : Char → Bool) (q : Place) :
    (q.past p).after = q.after.dropWhile p := by
  generalize hafter : q.after = cs
  induction cs generalizing q with
  | nil => rw [past_of_nil hafter, hafter, List.dropWhile_nil]
  | cons c cs ih =>
    cases hc : p c with
    | true =>
      rw [past_of_pos hafter hc, List.dropWhile_cons_of_pos hc, ih _ (after_advance hafter)]
    | false => rw [past_of_neg hafter hc, hafter, List.dropWhile_cons_of_neg (by simp [hc])]

theorem Place.In.past {text : List Char} (h : q.In text) : (q.past p).In text := by
  generalize hafter : q.after = cs
  induction cs generalizing q with
  | nil => rwa [past_of_nil hafter]
  | cons c cs ih =>
    cases hc : p c with
    | true =>
      rw [past_of_pos hafter hc]
      exact ih h.advance (after_advance hafter)
    | false => rwa [past_of_neg hafter hc]

end Past

/-- What a match comes to behind the longest run of characters that satisfy `p`. -/
def End.past (p : Char → Bool) (e : End) : End :=
  (e.1.past p, e.2)

/-! ## The first end -/

/-- The first of the ends of a pattern. -/
def Node.Prefers (n : Node) (e e' : End) : Prop :=
  (n.ends e).head? = some e'

theorem head?_flatMap {f : End → List End} {es : List End} {e e' : End} (h : es.head? = some e)
    (h' : (f e).head? = some e') : (es.flatMap f).head? = some e' := by
  obtain ⟨more, rfl⟩ := List.head?_eq_some_iff.1 h
  rw [List.flatMap_cons, List.head?_append, h']
  rfl

/-- **Greedy repetition of single characters takes the longest run of them.** -/
theorem head?_anyNumber (p : Char → Bool) (e : End) :
    (anyNumber (End.read p) true e).head? = some (e.past p) := by
  generalize hafter : e.1.after = cs
  induction cs generalizing e with
  | nil =>
    rw [anyNumber, hafter, End.past, Place.past_of_nil hafter]
    rfl
  | cons c cs ih =>
    rw [anyNumber_eq_orStop (reading_read p), orStop, if_pos rfl, End.read, hafter, End.past]
    dsimp only
    cases hc : p c with
    | true =>
      rw [if_pos rfl, List.flatMap_singleton, List.head?_append,
        ih (e.1.advance, e.2) (Place.after_advance hafter), Place.past_of_pos hafter hc]
      rfl
    | false =>
      rw [Place.past_of_neg hafter hc]
      rfl

namespace Node

variable {a b sub : Node} {e e' e'' : End} {p : Char → Bool} {c : Char} {cs : List Char}

theorem ends_char (c : Char) : (literal [c]).ends = End.read (· == c) := by
  funext e
  rw [ends, End.readAll]
  exact List.flatMap_singleton' _

namespace Prefers

theorem cat (h : a.Prefers e e') (h' : b.Prefers e' e'') : (cat a b).Prefers e e'' :=
  head?_flatMap h h'

theorem look {l : Look} (h : l.holds e.1 = true) : (look l).Prefers e e := by
  rw [Prefers, ends, if_pos h]
  rfl

theorem group {index : Nat} (h : sub.Prefers (e.save (2 * index)) e') :
    (group index sub).Prefers e (e'.save (2 * index + 1)) := by
  rw [Prefers, ends, List.head?_map, h]
  rfl

theorem read (hsub : sub.ends = End.read p) (hafter : e.1.after = c :: cs) (hc : p c = true) :
    sub.Prefers e (e.1.advance, e.2) := by
  rw [Prefers, hsub, End.read, hafter]
  exact congrArg List.head? (if_pos hc)

theorem star (hsub : sub.ends = End.read p) : (rep 0 none true sub).Prefers e (e.past p) := by
  rw [Prefers, ends, hsub, times, List.flatMap_singleton]
  exact head?_anyNumber p e

theorem plus (hsub : sub.ends = End.read p) (hafter : e.1.after = c :: cs) (hc : p c = true) :
    (rep 1 none true sub).Prefers e (e.past p) := by
  have hone : (times (End.read p) 1 e).head? = some (e.1.advance, e.2) := by
    rw [times, times, List.flatMap_singleton, ← hsub]
    exact read hsub hafter hc
  rw [Prefers, ends, hsub, End.past, Place.past_of_pos hafter hc]
  exact head?_flatMap hone (head?_anyNumber p _)

end Prefers

theorem attempt_of_prefers {q : Place} (h : a.Prefers (q, []) e) :
    a.attempt q = some (e.thread 0) := by
  rw [attempt, h]
  rfl

end Node

/-! ## The first match -/

/-- **A pattern that prefers an end at the beginning of a text has its first match there.** -/
theorem findAll_of_prefers {r : Regex} (hproductive : r.node.productive = true)
    (hconsumes : r.node.consumes = true) {text : String} {e : End}
    (h : r.node.Prefers (.start text.toList, []) e) :
    (e.thread 0).toMatch r.groupBound (.start text.toList) ∈ r.findAll text := by
  obtain ⟨found, hfinds, hall⟩ := findAll_finds hproductive hconsumes text
  have hfirst : Program.firstFrom r.node.attempt (.start text.toList) =
      some (.start text.toList, e.thread 0) := by
    rw [Program.firstFrom.eq_def, Node.attempt_of_prefers h]
  rw [hall]
  cases hfinds with
  | none hnone => cases hnone.symm.trans hfirst
  | some hsome =>
    obtain ⟨rfl, rfl⟩ := Prod.mk.inj (Option.some.inj (hsome.symm.trans hfirst))
    exact .head _

end FirstClaim.Regex
