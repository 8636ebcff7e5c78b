import FirstClaim.Proofs.Regex.Backtrack

/-!
# What a pattern matches

`Node.ends` says where the text matched by a pattern can end, with the slots noted on the way, in
the order in which the pattern prefers it: the branches of a choice one after the other, a
repetition with the further repetitions in front (or, if it is lazy, behind). Programs do not occur
in it.

* `Emits`: instructions put in front of a program go on behind them with the ends of a pattern.
  There is one lemma for each way to put instructions together (`Emits.push`, `Emits.comp`,
  `Emits.alt`, `Emits.copies`, `Emits.optionalCopies`, `Emits.loop`), and `Node.emits_compile` puts
  these together.
* A repetition without a bound whose body may match the empty text would go on forever without the
  memory of the search. `Node.productive` excludes it.
-/

set_option autoImplicit false

namespace FirstClaim.Regex

/-! ## Ends -/

/-- A place that a match has come to, with the slots noted on the way. -/
abbrev End := Place × Slots

namespace End

def read (p : Char → Bool) (e : End) : List End :=
  match e.1.after with
  | [] => []
  | c :: _ => if p c then [(e.1.advance, e.2)] else []

def readAll : List Char → End → List End
  | [], e => [e]
  | c :: cs, e => (e.read (· == c)).flatMap (readAll cs)

/-- Notes the place under a slot. -/
def save (slot : Nat) (e : End) : End :=
  (e.1, (slot, e.1) :: e.2)

/-- The thread that goes on from here. -/
def thread (pc : Nat) (e : End) : Thread :=
  ⟨pc, e.1, e.2⟩

end End

section Repetition

variable (step : End → List End)

def times : Nat → End → List End
  | 0, e => [e]
  | n + 1, e => (times n e).flatMap step

/-- What going on gives, and the end as it is: behind all that if `greedy`, else before it. -/
def orStop (greedy : Bool) (e : End) (more : List End) : List End :=
  if greedy then more ++ [e] else e :: more

/-- At most so many repetitions. -/
def upTo (greedy : Bool) : Nat → End → List End
  | 0, e => [e]
  | n + 1, e => orStop greedy e ((step e).flatMap (upTo greedy n))

/-- Any number of repetitions, if each one reads something. -/
def anyNumber (greedy : Bool) (e : End) : List End :=
  upTo step greedy e.1.after.length e

end Repetition

/-- Where the text that a pattern matches can end, the preferred end first. -/
def Node.ends : Node → End → List End
  | .empty, e => [e]
  | .literal cs, e => e.readAll cs
  | .set s, e => e.read s.contains
  | .look l, e => if l.holds e.1 then [e] else []
  | .group index sub, e => (sub.ends (e.save (2 * index))).map (End.save (2 * index + 1))
  | .rep min (some max) greedy sub, e =>
    (times sub.ends min e).flatMap (upTo sub.ends greedy (max - min))
  | .rep min none greedy sub, e => (times sub.ends min e).flatMap (anyNumber sub.ends greedy)
  | .cat a b, e => (a.ends e).flatMap b.ends
  | .alt a b, e => a.ends e ++ b.ends e

/-- A character that may be read by a match. -/
def Node.reads (c : Char) : Node → Bool
  | .empty => false
  | .literal cs => cs.contains c
  | .set s => s.contains c
  | .look _ => false
  | .group _ sub => sub.reads c
  | .rep _ _ _ sub => sub.reads c
  | .cat a b => a.reads c || b.reads c
  | .alt a b => a.reads c || b.reads c

/-- Each match reads something. -/
def Node.consumes : Node → Bool
  | .empty => false
  | .literal cs => !cs.isEmpty
  | .set _ => true
  | .look _ => false
  | .group _ sub => sub.consumes
  | .rep min _ _ sub => 0 < min && sub.consumes
  | .cat a b => a.consumes || b.consumes
  | .alt a b => a.consumes && b.consumes

/-- What is repeated without a bound reads something each time. -/
def Node.productive : Node → Bool
  | .group _ sub => sub.productive
  | .rep _ max _ sub => (max.isSome || sub.consumes) && sub.productive
  | .cat a b => a.productive && b.productive
  | .alt a b => a.productive && b.productive
  | _ => true

/-! ## What all ends have in common -/

section Invariants

variable {step : End → List End} {P : End → Prop}

theorem mem_read {p : Char → Bool} {e e' : End} (h : e' ∈ e.read p) :
    e' = (e.1.advance, e.2) ∧ ∃ c cs, e.1.after = c :: cs ∧ p c = true := by
  unfold End.read at h
  split at h
  · cases h
  · rename_i c cs hafter
    split at h
    · exact ⟨List.mem_singleton.1 h, c, cs, hafter, ‹_›⟩
    · cases h

theorem mem_readAll {cs : List Char} {e e' : End} (h : e' ∈ e.readAll cs) :
    e.1.after = cs ++ e'.1.after ∧ e'.2 = e.2 := by
  induction cs generalizing e with
  | nil =>
    rw [List.mem_singleton.1 h]
    exact ⟨rfl, rfl⟩
  | cons c cs ih =>
    obtain ⟨e₁, he₁, h⟩ := List.mem_flatMap.1 h
    obtain ⟨rfl, d, ds, hafter, hd⟩ := mem_read he₁
    obtain ⟨hrest, hslots⟩ := ih h
    obtain rfl := beq_iff_eq.1 hd
    refine ⟨?_, hslots⟩
    rw [hafter, List.cons_append, ← hrest]
    simp [Place.advance, hafter]

theorem readAll_ne_nil {cs : List Char} {e : End} (h : cs <+: e.1.after) : e.readAll cs ≠ [] := by
  induction cs generalizing e with
  | nil => exact List.cons_ne_nil e []
  | cons c cs ih =>
    obtain ⟨rest, hrest⟩ := h
    have hread : e.read (· == c) = [(e.1.advance, e.2)] := by
      simp [End.read, ← hrest]
    have hmore : cs <+: (e.1.advance, e.2).1.after := ⟨rest, by simp [Place.advance, ← hrest]⟩
    rw [End.readAll, hread, List.flatMap_singleton]
    exact ih hmore

theorem times_inv (hstep : ∀ e, P e → ∀ e' ∈ step e, P e') {n : Nat} {e e' : End} (he : P e)
    (h : e' ∈ times step n e) : P e' := by
  induction n generalizing e' with
  | zero =>
    rw [List.mem_singleton.1 h]
    exact he
  | succ n ih =>
    obtain ⟨e₁, he₁, h⟩ := List.mem_flatMap.1 h
    exact hstep e₁ (ih he₁) e' h

theorem mem_orStop {greedy : Bool} {e e' : End} {more : List End} :
    e' ∈ orStop greedy e more ↔ e' = e ∨ e' ∈ more := by
  unfold orStop
  split
  · rw [List.mem_append, List.mem_singleton, or_comm]
  · exact List.mem_cons

theorem upTo_inv (hstep : ∀ e, P e → ∀ e' ∈ step e, P e') {greedy : Bool} {n : Nat} {e e' : End}
    (he : P e) (h : e' ∈ upTo step greedy n e) : P e' := by
  induction n generalizing e with
  | zero =>
    rw [List.mem_singleton.1 h]
    exact he
  | succ n ih =>
    rcases mem_orStop.1 h with rfl | h
    · exact he
    · obtain ⟨e₁, he₁, h⟩ := List.mem_flatMap.1 h
      exact ih (hstep e he e₁ he₁) h

end Invariants

theorem Node.mem_ends_rep {min : Nat} {max : Option Nat} {greedy : Bool} {sub : Node} {e e' : End}
    (h : e' ∈ (rep min max greedy sub).ends e) :
    ∃ e₁ ∈ times sub.ends min e, ∃ n, e' ∈ upTo sub.ends greedy n e₁ := by
  cases max with
  | none =>
    obtain ⟨e₁, he₁, h⟩ := List.mem_flatMap.1 h
    exact ⟨e₁, he₁, _, h⟩
  | some max =>
    obtain ⟨e₁, he₁, h⟩ := List.mem_flatMap.1 h
    exact ⟨e₁, he₁, _, h⟩

/-- What reading a character and noting a place keep holds at all ends. -/
theorem Node.ends_inv {P : End → Prop} (n : Node)
    (hread : ∀ (e : End) c cs, P e → e.1.after = c :: cs → n.reads c = true →
      P (e.1.advance, e.2))
    (hsave : ∀ (e : End) slot, P e → P (e.save slot)) :
    ∀ e, P e → ∀ e' ∈ n.ends e, P e' := by
  induction n with
  | empty =>
    intro e he e' h
    rw [List.mem_singleton.1 h]
    exact he
  | literal cs =>
    induction cs with
    | nil =>
      intro e he e' h
      rw [List.mem_singleton.1 h]
      exact he
    | cons c cs ih =>
      intro e he e' h
      obtain ⟨e₁, he₁, h⟩ := List.mem_flatMap.1 h
      obtain ⟨rfl, d, ds, hafter, hd⟩ := mem_read he₁
      have hreads : (literal (c :: cs)).reads d = true := by
        rw [reads, beq_iff_eq.1 hd, List.contains_cons, beq_self_eq_true, Bool.true_or]
      refine ih (fun e d ds he hafter hd => hread e d ds he hafter ?_) _
        (hread e d ds he hafter hreads) e' h
      rw [reads, List.contains_cons, Bool.or_eq_true]
      exact .inr hd
  | set s =>
    intro e he e' h
    obtain ⟨rfl, c, cs, hafter, hc⟩ := mem_read h
    exact hread e c cs he hafter hc
  | look l =>
    intro e he e' h
    rw [ends] at h
    split at h
    · rw [List.mem_singleton.1 h]
      exact he
    · cases h
  | group index sub ih =>
    intro e he e' h
    obtain ⟨e₁, he₁, rfl⟩ := List.mem_map.1 h
    exact hsave _ _ (ih hread _ (hsave _ _ he) e₁ he₁)
  | rep min max greedy sub ih =>
    intro e he e' h
    obtain ⟨e₁, he₁, n, h⟩ := mem_ends_rep h
    exact upTo_inv (ih hread) (times_inv (ih hread) he he₁) h
  | cat a b iha ihb =>
    intro e he e' h
    obtain ⟨e₁, he₁, h⟩ := List.mem_flatMap.1 h
    -- each part reads no other characters than the whole
    have ha := iha fun e c cs he hafter hc =>
      hread e c cs he hafter (Bool.or_eq_true_iff.2 (.inl hc))
    have hb := ihb fun e c cs he hafter hc =>
      hread e c cs he hafter (Bool.or_eq_true_iff.2 (.inr hc))
    exact hb e₁ (ha e he e₁ he₁) e' h
  | alt a b iha ihb =>
    intro e he e' h
    have ha := iha fun e c cs he hafter hc =>
      hread e c cs he hafter (Bool.or_eq_true_iff.2 (.inl hc))
    have hb := ihb fun e c cs he hafter hc =>
      hread e c cs he hafter (Bool.or_eq_true_iff.2 (.inr hc))
    rcases List.mem_append.1 h with h | h
    · exact ha e he e' h
    · exact hb e he e' h

theorem Place.after_advance_le (q : Place) : q.advance.after.length ≤ q.after.length := by
  unfold advance
  split
  · exact Nat.le_refl _
  · rename_i hafter
    rw [hafter]
    exact Nat.le_succ _

theorem Node.after_le_of_mem_ends {n : Node} {e e' : End} (h : e' ∈ n.ends e) :
    e'.1.after.length ≤ e.1.after.length :=
  n.ends_inv (P := fun e' => e'.1.after.length ≤ e.1.after.length)
    (fun e' _ _ he' _ _ => e'.1.after_advance_le.trans he') (fun _ _ => id) e (Nat.le_refl _) e' h

/-- Each of the ends lies behind the place where the match began. -/
def Reading (step : End → List End) : Prop :=
  ∀ e, ∀ e' ∈ step e, e'.1.after.length < e.1.after.length

theorem reading_read (p : Char → Bool) : Reading (End.read p) := by
  intro e e' h
  obtain ⟨rfl, c, cs, hafter, -⟩ := mem_read h
  exact e.1.after_advance_lt (hafter ▸ List.cons_ne_nil c cs)

theorem Node.reading_ends {n : Node} (h : n.consumes = true) : Reading n.ends := by
  induction n with
  | empty => cases h
  | literal cs =>
    intro e e' he'
    cases cs with
    | nil => cases h
    | cons c cs =>
      obtain ⟨e₁, he₁, he'⟩ := List.mem_flatMap.1 he'
      have hle : e'.1.after.length ≤ e₁.1.after.length :=
        after_le_of_mem_ends (n := .literal cs) he'
      exact hle.trans_lt (reading_read _ e e₁ he₁)
  | set s => exact reading_read _
  | look l => cases h
  | group index sub ih =>
    intro e e' he'
    obtain ⟨e₁, he₁, rfl⟩ := List.mem_map.1 he'
    exact ih h (e.save (2 * index)) e₁ he₁
  | rep min max greedy sub ih =>
    intro e e' he'
    simp only [consumes, Bool.and_eq_true, decide_eq_true_eq] at h
    obtain ⟨k, rfl⟩ := Nat.exists_eq_add_one.2 h.1
    have hstep : ∀ (e₀ e₁ : End), e₁.1.after.length ≤ e₀.1.after.length →
        ∀ e₂ ∈ sub.ends e₁, e₂.1.after.length ≤ e₀.1.after.length :=
      fun e₀ e₁ he₁ e₂ he₂ => (after_le_of_mem_ends he₂).trans he₁
    -- the last of the repetitions that are required
    obtain ⟨e₂, he₂, n, he'⟩ := mem_ends_rep he'
    obtain ⟨e₁, he₁, he₂⟩ := List.mem_flatMap.1 he₂
    calc e'.1.after.length
        ≤ e₂.1.after.length := upTo_inv (hstep e₂) (Nat.le_refl _) he'
      _ < e₁.1.after.length := ih h.2 e₁ e₂ he₂
      _ ≤ e.1.after.length := times_inv (hstep e) (Nat.le_refl _) he₁
  | cat a b iha ihb =>
    intro e e' he'
    rw [consumes, Bool.or_eq_true] at h
    obtain ⟨e₁, he₁, he'⟩ := List.mem_flatMap.1 he'
    rcases h with h | h
    · exact (after_le_of_mem_ends he').trans_lt (iha h e e₁ he₁)
    · exact (ihb h e₁ e' he').trans_le (after_le_of_mem_ends he₁)
  | alt a b iha ihb =>
    intro e e' he'
    rw [consumes, Bool.and_eq_true] at h
    rcases List.mem_append.1 he' with he' | he'
    · exact iha h.1 e e' he'
    · exact ihb h.2 e e' he'

/-- As many repetitions as there are characters are enough if each one reads something. -/
theorem upTo_eq_anyNumber {step : End → List End} {greedy : Bool} (hstep : Reading step) {n : Nat}
    {e : End} (hn : e.1.after.length ≤ n) : upTo step greedy n e = anyNumber step greedy e := by
  induction n using Nat.strong_induction_on generalizing e with
  | _ n ih =>
    unfold anyNumber
    cases hlength : e.1.after.length with
    | zero =>
      have hnone : step e = [] := List.eq_nil_iff_forall_not_mem.2 fun e' he' => by
        have hlt := hstep e e' he'
        omega
      cases n with
      | zero => rfl
      | succ n => cases greedy <;> simp [upTo, orStop, hnone]
    | succ k =>
      obtain ⟨n, rfl⟩ := Nat.exists_eq_add_one.2 (show 0 < n by omega)
      have hmore : (step e).flatMap (upTo step greedy n) =
          (step e).flatMap (upTo step greedy k) := by
        refine List.flatMap_congr fun e' he' => ?_
        have hlt := hstep e e' he'
        rw [ih n (by omega) (by omega), ih k (by omega) (by omega)]
      rw [upTo, upTo, hmore]

theorem anyNumber_eq_orStop {step : End → List End} {greedy : Bool} (hstep : Reading step)
    (e : End) :
    anyNumber step greedy e = orStop greedy e ((step e).flatMap (anyNumber step greedy)) := by
  rw [← upTo_eq_anyNumber hstep (Nat.le_succ _), upTo]
  congr 1
  refine List.flatMap_congr fun e' he' => upTo_eq_anyNumber hstep ?_
  exact (hstep e e' he').le

namespace Program

/-! ## Threads that come to the same -/

/-- Two lists of threads find the same, whatever stands behind them. -/
def Same (p : Program) (ts us : List Thread) : Prop :=
  ∀ todo r, (∃ n, Runs p n (ts ++ todo) r) ↔ ∃ n, Runs p n (us ++ todo) r

namespace Same

variable {p : Program} {ts ts' us us' vs : List Thread}

theorem refl (p : Program) (ts : List Thread) : Same p ts ts := fun _ _ => Iff.rfl

theorem trans (h : Same p ts us) (h' : Same p us vs) : Same p ts vs := fun todo r =>
  (h todo r).trans (h' todo r)

theorem append (h : Same p ts us) (h' : Same p ts' us') : Same p (ts ++ ts') (us ++ us') := by
  intro todo r
  -- what follows the first threads is exchanged behind them, then the first threads
  have hbehind : (∃ n, Runs p n (us ++ (ts' ++ todo)) r) ↔
      ∃ n, Runs p n (us ++ (us' ++ todo)) r := by
    have hexchange : ∀ {vs vs' : List Thread},
        (∀ r, (∃ n, Runs p n (vs ++ todo) r) → ∃ n, Runs p n (vs' ++ todo) r) →
        (∃ n, Runs p n (us ++ (vs ++ todo)) r) → ∃ n, Runs p n (us ++ (vs' ++ todo)) r := by
      rintro vs vs' hvs ⟨n, hrun⟩
      obtain ⟨t, rfl, hus⟩ | ⟨k, m, rfl, hus, hrest⟩ := hrun.of_append
      · exact ⟨n, hus.append_some _⟩
      · obtain ⟨m', hm'⟩ := hvs r ⟨m, hrest⟩
        exact ⟨k + m', hus.append_none hm'⟩
    exact ⟨hexchange fun r => (h' todo r).1, hexchange fun r => (h' todo r).2⟩
  rw [List.append_assoc, List.append_assoc]
  exact (h (ts' ++ todo) r).trans hbehind

theorem cons {t : Thread} (h : Same p [t] us) (h' : Same p ts' us') :
    Same p (t :: ts') (us ++ us') :=
  append h h'

/-- A thread is the same as those that its next step leaves. -/
theorem step {t : Thread} {threads : List Thread}
    (h : t.step (p.instr t.pc) = .continues threads) : Same p [t] threads := by
  refine fun todo r => ⟨fun ⟨n, hrun⟩ => ?_, fun ⟨n, hrun⟩ => ⟨n + 1, .step h hrun⟩⟩
  cases hrun with
  | accept h' =>
    rw [h] at h'
    cases h'
  | step h' hrest =>
    rw [h] at h'
    cases h'
    exact ⟨_, hrest⟩

/-- Threads at one instruction, each of which goes on with ends at another one. -/
theorem flatMap {ends : End → List End} {pc pc' : Nat} {es : List End}
    (h : ∀ e ∈ es, Same p [e.thread pc] ((ends e).map (End.thread pc'))) :
    Same p (es.map (End.thread pc)) ((es.flatMap ends).map (End.thread pc')) := by
  induction es with
  | nil => exact .refl p []
  | cons e es ih =>
    rw [List.flatMap_cons, List.map_append]
    exact append (h e (.head _)) (ih fun e' he' => h e' (.tail _ he'))

end Same

/-! ## Instructions in front of a program -/

/-- Between two indices the programs have the same instructions. -/
def Agree (p q : Program) (lo hi : Nat) : Prop :=
  ∀ pc, lo ≤ pc → pc < hi → p.instr pc = q.instr pc

theorem Agree.mono {p q : Program} {lo hi lo' hi' : Nat} (h : Agree p q lo hi) (hlo : lo ≤ lo')
    (hhi : hi' ≤ hi) : Agree p q lo' hi' := fun pc hle hlt => h pc (by omega) (by omega)

theorem Agree.trans {p q q' : Program} {lo hi : Nat} (h : Agree p q lo hi)
    (h' : Agree q q' lo hi) : Agree p q' lo hi := fun pc hle hlt =>
  (h pc hle hlt).trans (h' pc hle hlt)

/-- The code of one program begins with that of another one. -/
structure Grows (p q : Program) : Prop where
  size : p.code.size ≤ q.code.size
  instr : Agree q p 0 p.code.size

theorem Grows.refl (p : Program) : Grows p p :=
  ⟨Nat.le_refl _, fun _ _ _ => rfl⟩

theorem Grows.trans {p q q' : Program} (h : Grows p q) (h' : Grows q q') : Grows p q' :=
  ⟨h.size.trans h'.size, (h'.instr.mono (Nat.le_refl _) h.size).trans h.instr⟩

theorem instr_push_size (p : Program) (i : Instr) : (p.push i).instr p.code.size = i := by
  simp [push, Program.instr]

theorem size_push (p : Program) (i : Instr) : (p.push i).code.size = p.code.size + 1 :=
  Array.size_push _

theorem grows_push (p : Program) (i : Instr) : Grows p (p.push i) := by
  refine ⟨by rw [size_push]; exact Nat.le_succ _, fun pc _ hlt => ?_⟩
  simp [push, Program.instr, Array.getElem?_push, Nat.ne_of_lt hlt]

/-- The instructions that `emit` puts in front of a program go on behind them with `ends`. -/
structure Emits (emit : Program → Program) (ends : End → List End) : Prop where
  grows : ∀ p, Grows p (emit p)
  same : ∀ p final, Agree final (emit p) p.code.size (emit p).code.size → ∀ e : End,
    Same final [e.thread (emit p).start] ((ends e).map (End.thread p.start))

namespace Emits

variable {emit emit' : Program → Program} {ends ends' : End → List End}

theorem nothing : Emits id fun e => [e] :=
  ⟨Grows.refl, fun _ _ _ _ => .refl _ _⟩

theorem push {i : Nat → Instr}
    (h : ∀ next (e : End) pc, (e.thread pc).step (i next) =
      .continues ((ends e).map (End.thread next))) :
    Emits (fun p => p.push (i p.start)) ends := by
  refine ⟨fun p => grows_push p _, fun p final hagree e => .step ?_⟩
  have hinstr : final.instr p.code.size = i p.start := by
    rw [hagree _ (Nat.le_refl _) (by rw [size_push]; exact Nat.lt_succ_self _), instr_push_size]
  exact (congrArg _ hinstr).trans (h p.start e p.code.size)

theorem comp (h : Emits emit ends) (h' : Emits emit' ends') :
    Emits (fun p => emit (emit' p)) fun e => (ends e).flatMap ends' := by
  refine ⟨fun p => (h'.grows p).trans (h.grows _), fun p final hagree e => ?_⟩
  have hfront : Agree final (emit (emit' p)) (emit' p).code.size (emit (emit' p)).code.size :=
    hagree.mono (h'.grows p).size (Nat.le_refl _)
  have hback : Agree final (emit' p) p.code.size (emit' p).code.size :=
    (hagree.mono (Nat.le_refl _) (h.grows _).size).trans
      ((h.grows _).instr.mono (Nat.zero_le _) (Nat.le_refl _))
  exact (h.same _ final hfront e).trans (.flatMap fun e' _ => h'.same p final hback e')

theorem alt (h : Emits emit ends) (h' : Emits emit' ends') :
    Emits (fun p =>
      let first := emit ⟨(emit' p).code, p.start⟩
      first.push (.split first.start (emit' p).start)) fun e => ends e ++ ends' e := by
  refine ⟨fun p => ?_, fun p final hagree e => ?_⟩
  · have hfirst := h.grows ⟨(emit' p).code, p.start⟩
    exact ((h'.grows p).trans ⟨hfirst.size, hfirst.instr⟩).trans (grows_push _ _)
  · have hfirst := h.grows ⟨(emit' p).code, p.start⟩
    generalize hemit : emit ⟨(emit' p).code, p.start⟩ = first at hagree hfirst ⊢
    have hgrows := grows_push first (.split first.start (emit' p).start)
    have hsplit : final.instr first.code.size = .split first.start (emit' p).start := by
      rw [hagree _ ((h'.grows p).size.trans hfirst.size)
        (by rw [size_push]; exact Nat.lt_succ_self _), instr_push_size]
    have hagree' : Agree final first p.code.size first.code.size :=
      (hagree.mono (Nat.le_refl _) hgrows.size).trans
        (hgrows.instr.mono (Nat.zero_le _) (Nat.le_refl _))
    have hchoice : Same final [e.thread first.code.size]
        [e.thread first.start, e.thread (emit' p).start] := by
      refine .step ?_
      rw [End.thread, hsplit]
      rfl
    rw [List.map_append]
    refine hchoice.trans (.cons ?_ ?_)
    · subst hemit
      exact h.same ⟨(emit' p).code, p.start⟩ final
        (hagree'.mono (h'.grows p).size (Nat.le_refl _)) e
    · refine h'.same p final ((hagree'.mono (Nat.le_refl _) hfirst.size).trans ?_) e
      exact hfirst.instr.mono (Nat.zero_le _) (Nat.le_refl _)

/-! ### Repetitions -/

theorem copies (h : Emits emit ends) (n : Nat) : Emits (Program.copies emit n) (times ends n) := by
  induction n with
  | zero => exact nothing
  | succ n ih => exact ih.comp h

/-- A choice between going on at `into` and leaving to `out`. -/
theorem same_choice {final : Program} {greedy : Bool} {pc into out : Nat} {e : End}
    {es : List End} (hinstr : final.instr pc = choice greedy into out)
    (hinto : Same final [e.thread into] (es.map (End.thread out))) :
    Same final [e.thread pc] ((orStop greedy e es).map (End.thread out)) := by
  cases greedy with
  | true =>
    have hstep : Same final [e.thread pc] [e.thread into, e.thread out] := by
      refine .step ?_
      rw [End.thread, hinstr]
      rfl
    rw [orStop, if_pos rfl, List.map_append]
    exact hstep.trans (.cons hinto (.refl _ _))
  | false =>
    have hstep : Same final [e.thread pc] [e.thread out, e.thread into] := by
      refine .step ?_
      rw [End.thread, hinstr]
      rfl
    rw [orStop, if_neg Bool.false_ne_true, List.map_cons]
    exact hstep.trans (.cons (.refl _ [e.thread out]) hinto)

/-- The pieces in front of a program that leaves to `out` after at most `k` repetitions. -/
theorem same_optionalCopies (h : Emits emit ends) (greedy : Bool) (out n k : Nat)
    (p : Program) :
    Grows p (Program.optionalCopies emit greedy out n p) ∧
    ∀ final, Agree final (Program.optionalCopies emit greedy out n p) p.code.size
        (Program.optionalCopies emit greedy out n p).code.size →
      (∀ e : End, Same final [e.thread p.start] ((upTo ends greedy k e).map (End.thread out))) →
      ∀ e : End, Same final [e.thread (Program.optionalCopies emit greedy out n p).start]
        ((upTo ends greedy (k + n) e).map (End.thread out)) := by
  induction n generalizing p k with
  | zero => exact ⟨.refl p, fun final _ hp => hp⟩
  | succ n ih =>
    have hpush := grows_push (emit p) (choice greedy (emit p).start out)
    have hgrows := (h.grows p).trans hpush
    obtain ⟨hmore, hsame⟩ := ih (k + 1) ((emit p).push (choice greedy (emit p).start out))
    refine ⟨hgrows.trans hmore, fun final hagree hp => ?_⟩
    rw [show k + (n + 1) = k + 1 + n by omega]
    refine hsame final (hagree.mono hgrows.size (Nat.le_refl _)) fun e => ?_
    have hagree' : Agree final ((emit p).push (choice greedy (emit p).start out)) p.code.size
        ((emit p).push (choice greedy (emit p).start out)).code.size :=
      (hagree.mono (Nat.le_refl _) hmore.size).trans
        (hmore.instr.mono (Nat.zero_le _) (Nat.le_refl _))
    have hchoice : final.instr (emit p).code.size = choice greedy (emit p).start out :=
      (hagree' _ (h.grows p).size (by rw [size_push]; exact Nat.lt_succ_self _)).trans
        (instr_push_size _ _)
    refine same_choice hchoice ((h.same p final ?_ e).trans (.flatMap fun e' _ => hp e'))
    exact (hagree'.mono (Nat.le_refl _) hpush.size).trans
      (hpush.instr.mono (Nat.zero_le _) (Nat.le_refl _))

theorem optionalCopies (h : Emits emit ends) (greedy : Bool) (n : Nat) :
    Emits (fun p => Program.optionalCopies emit greedy p.start n p) (upTo ends greedy n) := by
  refine ⟨fun p => (h.same_optionalCopies greedy p.start n 0 p).1, fun p final hagree e => ?_⟩
  have hsame := (h.same_optionalCopies greedy p.start n 0 p).2 final hagree
    (fun e => .refl _ _) e
  rw [Nat.zero_add] at hsame
  exact hsame

/-- **A loop whose body reads something** goes on behind one repetition or more. -/
theorem loop (h : Emits emit ends) (hreading : Reading ends) (greedy : Bool) :
    Emits (Program.loop emit greedy) fun e => (ends e).flatMap (anyNumber ends greedy) := by
  have hsize : ∀ p : Program,
      (Program.loop emit greedy p).code.size = (emit (p.push .fail)).code.size :=
    fun p => Array.size_setIfInBounds
  have hlt : ∀ p : Program, p.code.size < (emit (p.push .fail)).code.size := fun p => by
    have hle := (h.grows (p.push .fail)).size
    rw [size_push] at hle
    exact hle
  have hback : ∀ p : Program, (Program.loop emit greedy p).instr p.code.size =
      choice greedy (emit (p.push .fail)).start p.start := by
    intro p
    simp [Program.loop, Program.instr, hlt p]
  have hbody : ∀ (p : Program) pc, pc ≠ p.code.size →
      (Program.loop emit greedy p).instr pc = (emit (p.push .fail)).instr pc := by
    intro p pc hne
    simp [Program.loop, Program.instr, Array.getElem?_setIfInBounds_ne hne.symm]
  refine ⟨fun p => ⟨?_, fun pc _ hpc => ?_⟩, fun p final hagree e => ?_⟩
  · rw [hsize]
    exact (hlt p).le
  · rw [hbody p pc hpc.ne]
    exact ((grows_push p .fail).trans (h.grows _)).instr pc (Nat.zero_le _) hpc
  · have hemit : Agree final (emit (p.push .fail)) (p.push .fail).code.size
        (emit (p.push .fail)).code.size := by
      intro pc hle hpc
      rw [size_push] at hle
      rw [← hbody p pc (by omega)]
      exact hagree pc (by omega) (by rw [hsize]; exact hpc)
    have hchoice : final.instr p.code.size = choice greedy (emit (p.push .fail)).start p.start :=
      (hagree _ (Nat.le_refl _) (by rw [hsize]; exact hlt p)).trans (hback p)
    have hsame := fun e => h.same (p.push .fail) final hemit e
    -- the induction is on the characters left, of which each repetition reads some
    have hloop : ∀ n (e : End), e.1.after.length < n →
        Same final [e.thread p.code.size] ((anyNumber ends greedy e).map (End.thread p.start)) := by
      intro n
      induction n with
      | zero => exact fun e hn => absurd hn (Nat.not_lt_zero _)
      | succ n ih =>
        intro e hn
        rw [anyNumber_eq_orStop hreading]
        refine same_choice hchoice ((hsame e).trans (.flatMap fun e' he' => ih e' ?_))
        have hless := hreading e e' he'
        omega
    exact (hsame e).trans (.flatMap fun e' _ => hloop _ e' (Nat.lt_succ_self _))

theorem repeated_some (h : Emits emit ends) (min max : Nat) (greedy : Bool) :
    Emits (Program.repeated emit min (some max) greedy)
      fun e => (times ends min e).flatMap (upTo ends greedy (max - min)) :=
  (h.copies min).comp (h.optionalCopies greedy (max - min))

theorem repeated_none (h : Emits emit ends) (hreading : Reading ends) (min : Nat)
    (greedy : Bool) :
    Emits (Program.repeated emit min none greedy)
      fun e => (times ends min e).flatMap (anyNumber ends greedy) := by
  have hloop := h.loop hreading greedy
  cases min with
  | zero =>
    -- one more choice, in front of the loop
    refine ⟨fun p => (hloop.grows p).trans (grows_push _ _), fun p final hagree e => ?_⟩
    have hpush := grows_push (Program.loop emit greedy p)
      (choice greedy (Program.loop emit greedy p).start p.start)
    have hlast : (Program.loop emit greedy p).code.size <
        (Program.repeated emit 0 none greedy p).code.size :=
      (Nat.lt_succ_self _).trans_eq (size_push _ _).symm
    have hinstr : final.instr (Program.loop emit greedy p).code.size =
        choice greedy (Program.loop emit greedy p).start p.start :=
      (hagree _ (hloop.grows p).size hlast).trans (instr_push_size _ _)
    have hagree' : Agree final (Program.loop emit greedy p) p.code.size
        (Program.loop emit greedy p).code.size :=
      (hagree.mono (Nat.le_refl _) hpush.size).trans
        (hpush.instr.mono (Nat.zero_le _) (Nat.le_refl _))
    have hends : (times ends 0 e).flatMap (anyNumber ends greedy) =
        orStop greedy e ((ends e).flatMap (anyNumber ends greedy)) := by
      rw [times, List.flatMap_singleton, anyNumber_eq_orStop hreading]
    rw [hends]
    exact same_choice hinstr (hloop.same p final hagree' e)
  | succ min =>
    have hcopies := (h.copies min).comp hloop
    have hassoc : ∀ e, (times ends (min + 1) e).flatMap (anyNumber ends greedy) =
        (times ends min e).flatMap fun e' => (ends e').flatMap (anyNumber ends greedy) :=
      fun e => List.flatMap_assoc
    rw [funext hassoc]
    exact hcopies

end Emits

theorem step_read (p : Char → Bool) (next : Nat) (e : End) (pc : Nat) :
    (e.thread pc).read next p = .continues ((e.read p).map (End.thread next)) := by
  unfold Thread.read End.read
  simp only [End.thread]
  cases e.1.after with
  | nil => rfl
  | cons c cs =>
    dsimp only
    split <;> rfl

theorem emits_read (p : Char → Bool) {i : Nat → Instr}
    (hi : ∀ (t : Thread) next, t.step (i next) = t.read next p) :
    Emits (fun prog => prog.push (i prog.start)) (End.read p) :=
  .push fun next e pc => (hi _ next).trans (step_read p next e pc)

theorem emits_save (slot : Nat) :
    Emits (fun p => p.push (.save slot p.start)) fun e => [e.save slot] :=
  .push fun _ _ _ => rfl

/-- **The instructions of a pattern go on behind them with its ends**, in order of preference. -/
theorem emits_compile {n : Node} (h : n.productive = true) : Emits n.compile n.ends := by
  induction n with
  | empty => exact .nothing
  | literal cs =>
    induction cs with
    | nil => exact .nothing
    | cons c cs ih => exact (emits_read (· == c) fun _ _ => rfl).comp (ih h)
  | set s => exact emits_read s.contains fun _ _ => rfl
  | look l =>
    refine .push fun next e pc => congrArg Outcome.continues ?_
    rw [Node.ends, apply_ite (List.map (End.thread next))]
    rfl
  | group index sub ih =>
    have hends : (Node.group index sub).ends = fun e => [e.save (2 * index)].flatMap fun e =>
        (sub.ends e).flatMap fun e => [e.save (2 * index + 1)] := by
      funext e
      rw [List.flatMap_singleton, ← List.map_eq_flatMap]
      rfl
    rw [hends]
    exact (emits_save _).comp ((ih h).comp (emits_save _))
  | rep min max greedy sub ih =>
    simp only [Node.productive, Bool.and_eq_true, Bool.or_eq_true] at h
    cases max with
    | some max => exact (ih h.2).repeated_some min max greedy
    | none =>
      -- a loop without a bound would not end if its body read nothing
      have hconsumes : sub.consumes = true := h.1.resolve_left Bool.false_ne_true
      exact (ih h.2).repeated_none (Node.reading_ends hconsumes) min greedy
  | cat a b iha ihb =>
    rw [Node.productive, Bool.and_eq_true] at h
    exact (iha h.1).comp (ihb h.2)
  | alt a b iha ihb =>
    rw [Node.productive, Bool.and_eq_true] at h
    exact (iha h.1).alt (ihb h.2)

end Program

end FirstClaim.Regex
