import FirstClaim.Proofs.Regex.Spans
import Mathlib.Data.Finset.Card
import Mathlib.Data.Finset.Prod

/-!
# Searching without a memory

`Program.explore` notes which instructions it has tried at which places, and counts its steps. Both
only save time: what it finds is what plain backtracking finds (`Runs`), wherever that comes to an
end.

* `Runs.unique`, `Runs.append_none`, `Runs.append_some`, `Runs.of_append`: plain backtracking has
  one outcome, and threads run one after the other.
* `Runs.forget`: the outcome does not depend on the slots, so an instruction that has failed at a
  place fails there again (`Fails`).
* `Explores`: the exploration with its memory but without its count of steps; `explores_explore`
  says that the count is large enough.
* `Runs.explores_none`, `Runs.explores_some`: what is noted either fails or takes more steps than
  are left, so no thread is skipped that could accept.

`search_eq_firstFrom`: a search finds the first place where plain backtracking accepts.
-/

set_option autoImplicit false

namespace FirstClaim.Regex

/-! ## Steps of a thread -/

/-- Where a thread stands, without the slots. -/
def Thread.state (t : Thread) : Nat × Place :=
  (t.pc, t.place)

theorem Thread.step_eq_accepted_iff {t : Thread} {i : Instr} :
    t.step i = .accepted ↔ i = .accept := by
  cases i with
  | set s next =>
    simp only [step, read]
    split <;> simp
  | char c next =>
    simp only [step, read]
    split <;> simp
  | _ => simp [step]

theorem Thread.length_step_le {t : Thread} {i : Instr} {threads : List Thread}
    (h : t.step i = .continues threads) : threads.length ≤ 2 := by
  have hread : ∀ next P, t.read next P = .continues threads → threads.length ≤ 2 := by
    intro next P hread
    unfold Thread.read at hread
    split at hread
    · cases hread
      exact Nat.zero_le _
    · cases hread
      split <;> simp
  cases i with
  | accept => cases h
  | set s next => exact hread _ _ h
  | char c next => exact hread _ _ h
  | look l next =>
    cases h
    split <;> simp
  | save slot next =>
    cases h
    exact Nat.le_succ 1
  | split first second =>
    cases h
    exact Nat.le_refl 2
  | fail =>
    cases h
    exact Nat.zero_le _

theorem Thread.step_forget {t t' : Thread} {i : Instr} {threads : List Thread}
    (hstate : t.state = t'.state) (h : t.step i = .continues threads) :
    ∃ threads', t'.step i = .continues threads' ∧
      threads'.map Thread.state = threads.map Thread.state := by
  obtain ⟨pc, place, slots⟩ := t
  obtain ⟨pc', place', slots'⟩ := t'
  obtain ⟨rfl, rfl⟩ := Prod.mk.inj hstate
  have hread : ∀ next P, Thread.read ⟨pc, place, slots⟩ next P = .continues threads →
      ∃ threads', Thread.read ⟨pc, place, slots'⟩ next P = .continues threads' ∧
        threads'.map Thread.state = threads.map Thread.state := by
    intro next P hread
    unfold Thread.read at hread ⊢
    cases hafter : place.after with
    | nil =>
      simp only [hafter] at hread ⊢
      exact ⟨_, rfl, by cases hread; rfl⟩
    | cons c cs =>
      simp only [hafter] at hread ⊢
      cases hread
      refine ⟨_, rfl, ?_⟩
      split <;> rfl
  cases i with
  | accept => cases h
  | set s next => exact hread _ _ h
  | char c next => exact hread _ _ h
  | look l next =>
    cases h
    refine ⟨_, rfl, ?_⟩
    dsimp only
    split <;> rfl
  | save slot next =>
    cases h
    exact ⟨_, rfl, rfl⟩
  | split first second =>
    cases h
    exact ⟨_, rfl, rfl⟩
  | fail =>
    cases h
    exact ⟨_, rfl, rfl⟩

namespace Program

/-! ## Plain backtracking -/

/-- The instruction at an index; there is none to go on with behind the last one. -/
def instr (p : Program) (pc : Nat) : Instr :=
  p.code.getD pc .fail

/-- Threads run in order, without a memory, until one accepts or none is left, in `n` steps. -/
inductive Runs (p : Program) : Nat → List Thread → Option Thread → Prop
  | nil : Runs p 0 [] none
  | accept {t : Thread} {todo : List Thread} :
      t.step (p.instr t.pc) = .accepted → Runs p 1 (t :: todo) (some t)
  | step {n : Nat} {t : Thread} {threads todo : List Thread} {r : Option Thread} :
      t.step (p.instr t.pc) = .continues threads → Runs p n (threads ++ todo) r →
      Runs p (n + 1) (t :: todo) r

namespace Runs

variable {p : Program} {n m : Nat} {ts us todo : List Thread} {t : Thread} {r r' : Option Thread}

/-- **There is one outcome**, after one number of steps. -/
theorem unique (h : Runs p n ts r) (h' : Runs p m ts r') : n = m ∧ r = r' := by
  induction h generalizing m with
  | nil =>
    cases h'
    exact ⟨rfl, rfl⟩
  | accept ht =>
    cases h' with
    | accept => exact ⟨rfl, rfl⟩
    | step ht' =>
      rw [ht] at ht'
      cases ht'
  | step ht _ ih =>
    cases h' with
    | accept ht' =>
      rw [ht] at ht'
      cases ht'
    | step ht' hrest =>
      rw [ht] at ht'
      cases ht'
      obtain ⟨rfl, rfl⟩ := ih hrest
      exact ⟨rfl, rfl⟩

/-- Threads behind others that all fail decide. -/
theorem append_none (h : Runs p n ts none) (h' : Runs p m us r) : Runs p (n + m) (ts ++ us) r := by
  generalize hnone : (none : Option Thread) = r' at h
  induction h with
  | nil => simpa using h'
  | accept => cases hnone
  | @step n t threads todo r' ht _ ih =>
    have hrun := ih hnone
    rw [List.append_assoc] at hrun
    rw [Nat.add_right_comm]
    exact .step ht hrun

/-- Threads behind one that accepts are not run. -/
theorem append_some (h : Runs p n ts (some t)) (us : List Thread) :
    Runs p n (ts ++ us) (some t) := by
  generalize hsome : some t = r' at h
  induction h with
  | nil => cases hsome
  | accept ht =>
    cases hsome
    exact .accept ht
  | @step n t threads todo r' ht _ ih =>
    have hrun := ih hsome
    rw [List.append_assoc] at hrun
    exact .step ht hrun

/-- **Either the first threads accept, or they all fail and the others decide.** -/
theorem of_append (h : Runs p n (ts ++ us) r) :
    (∃ t, r = some t ∧ Runs p n ts (some t)) ∨
      ∃ k m, k + m = n ∧ Runs p k ts none ∧ Runs p m us r := by
  generalize hall : ts ++ us = all at h
  induction h generalizing ts with
  | nil =>
    obtain ⟨rfl, rfl⟩ := List.append_eq_nil_iff.1 hall
    exact .inr ⟨0, 0, rfl, .nil, .nil⟩
  | @accept t todo ht =>
    cases ts with
    | nil => exact .inr ⟨0, 1, rfl, .nil, by rw [List.nil_append] at hall; exact hall ▸ .accept ht⟩
    | cons s ts =>
      obtain ⟨rfl, -⟩ := List.cons.inj hall
      exact .inl ⟨_, rfl, .accept ht⟩
  | @step n t threads todo r ht hrun ih =>
    cases ts with
    | nil =>
      rw [List.nil_append] at hall
      exact .inr ⟨0, n + 1, by omega, .nil, hall ▸ .step ht hrun⟩
    | cons s ts =>
      obtain ⟨rfl, rfl⟩ := List.cons.inj hall
      rcases ih (List.append_assoc threads ts us) with
        ⟨u, rfl, hu⟩ | ⟨k, m, rfl, hk, hm⟩
      · exact .inl ⟨u, rfl, .step ht hu⟩
      · exact .inr ⟨k + 1, m, by omega, .step ht hk, hm⟩

end Runs

/-! ## Slots -/

/-- **The number of steps and whether a thread accepts do not depend on the slots.** -/
theorem Runs.forget {p : Program} {n : Nat} {ts : List Thread} {r : Option Thread}
    (h : Runs p n ts r) (ts' : List Thread) (hstate : ts'.map Thread.state = ts.map Thread.state) :
    ∃ r', Runs p n ts' r' ∧ (r' = none ↔ r = none) := by
  induction h generalizing ts' with
  | nil =>
    rw [List.map_nil, List.map_eq_nil_iff] at hstate
    subst hstate
    exact ⟨none, .nil, Iff.rfl⟩
  | @accept t todo ht =>
    obtain ⟨t', todo', rfl, halike, -⟩ := List.map_eq_cons_iff.1 hstate
    have hpc : t'.pc = t.pc := congrArg Prod.fst halike
    refine ⟨some t', .accept ?_, by simp⟩
    rw [Thread.step_eq_accepted_iff] at ht ⊢
    rw [hpc]
    exact ht
  | @step n t threads todo r ht _ ih =>
    obtain ⟨t', todo', rfl, halike, htodo⟩ := List.map_eq_cons_iff.1 hstate
    have hpc : t'.pc = t.pc := congrArg Prod.fst halike
    obtain ⟨threads', hstep, hthreads⟩ := Thread.step_forget halike.symm ht
    obtain ⟨r', hrun, hnone⟩ := ih (threads' ++ todo') (by
      rw [List.map_append, List.map_append, hthreads, htodo])
    refine ⟨r', .step ?_ hrun, hnone⟩
    rw [hpc]
    exact hstep

/-- An instruction fails at a place, whatever the slots. -/
def Fails (p : Program) (pc : Nat) (q : Place) : Prop :=
  ∀ slots, ∃ n, Runs p n [⟨pc, q, slots⟩] none

/-- An instruction takes more than `n` steps at a place, whatever the slots. -/
def Slow (p : Program) (n : Nat) (pc : Nat) (q : Place) : Prop :=
  ∀ slots k r, Runs p k [⟨pc, q, slots⟩] r → n < k

theorem Runs.fails {p : Program} {n : Nat} {t : Thread} (h : Runs p n [t] none) :
    p.Fails t.pc t.place := by
  intro slots
  obtain ⟨r', hrun, hnone⟩ := h.forget [⟨t.pc, t.place, slots⟩] rfl
  rw [hnone.2 rfl] at hrun
  exact ⟨n, hrun⟩

theorem Runs.slow {p : Program} {n m : Nat} {t : Thread} {r : Option Thread}
    (h : Runs p n [t] r) (hlt : m < n) : p.Slow m t.pc t.place := by
  intro slots k r' hk
  obtain ⟨r'', hrun, -⟩ := h.forget [⟨t.pc, t.place, slots⟩] rfl
  rw [(hk.unique hrun).1]
  exact hlt

end Program

/-! ## The memory -/

theorem Place.In.ext {text : List Char} {p q : Place} (hp : p.In text) (hq : q.In text)
    (h : p.index = q.index) : p = q := by
  obtain ⟨before, htext, hindex, hoffset, hbefore⟩ := hp
  obtain ⟨before', htext', hindex', hoffset', hbefore'⟩ := hq
  obtain ⟨rfl, hafter⟩ := List.append_inj (htext.symm.trans htext') (by omega)
  cases p
  cases q
  simp_all

theorem Place.In.index_add {text : List Char} {p : Place} (h : p.In text) :
    p.index + p.after.length = text.length := by
  obtain ⟨before, rfl, hindex, -⟩ := h
  rw [List.length_append, hindex]

namespace Tried

variable {t : Tried} {pc pc' k : Nat} {q q' : Place}

/-- The instruction has been tried `k` characters behind the first place. -/
def noted (t : Tried) (pc k : Nat) : Bool :=
  (t.masks.getD k 0).testBit pc

theorem noted_none (p : Place) : (none p).noted pc k = false := by
  simp [noted, none]

theorem base_insert : (t.insert pc q).base = t.base := rfl

theorem noted_insert : (t.insert pc q).noted pc' k = true ↔
    t.noted pc' k = true ∨ pc = pc' ∧ q.index - t.base = k := by
  have hmask : (t.insert pc q).masks.getD k 0 =
      if q.index - t.base = k then t.masks.getD k 0 ||| 1 <<< pc else t.masks.getD k 0 := by
    simp only [insert, Array.getD_eq_getD_getElem?, Array.getElem?_modify,
      Array.getElem?_append, Array.getElem?_replicate]
    grind
  unfold noted
  rw [hmask]
  split
  · rename_i h
    rw [Nat.testBit_or, Bool.or_eq_true, Nat.one_shiftLeft, Nat.testBit_two_pow,
      decide_eq_true_eq, and_iff_left h]
  · rename_i h
    exact (or_iff_left fun h' => h h'.2).symm

end Tried

namespace Program

variable {p : Program} {text : List Char} {start : Place}

/-- The exploration without its count of steps. -/
inductive Explores (p : Program) : List Thread → Tried → Option Thread → Tried → Prop
  | nil {tried : Tried} : Explores p [] tried none tried
  | skip {t : Thread} {todo : List Thread} {tried out : Tried} {r : Option Thread} :
      tried.has t.pc t.place = true → Explores p todo tried r out →
      Explores p (t :: todo) tried r out
  | accept {t : Thread} {todo : List Thread} {tried : Tried} :
      tried.has t.pc t.place = false → t.step (p.instr t.pc) = .accepted →
      Explores p (t :: todo) tried (some t) (tried.insert t.pc t.place)
  | step {t : Thread} {threads todo : List Thread} {tried out : Tried} {r : Option Thread} :
      tried.has t.pc t.place = false → t.step (p.instr t.pc) = .continues threads →
      Explores p (threads ++ todo) (tried.insert t.pc t.place) r out →
      Explores p (t :: todo) tried r out

theorem Explores.unique {todo : List Thread} {tried out out' : Tried} {r r' : Option Thread}
    (h : Explores p todo tried r out) (h' : Explores p todo tried r' out') :
    r = r' ∧ out = out' := by
  induction h with
  | nil =>
    cases h'
    exact ⟨rfl, rfl⟩
  | skip _ _ ih =>
    cases h' with
    | skip _ hrest => exact ih hrest
    | accept => simp_all
    | step => simp_all
  | accept =>
    cases h' with
    | skip => simp_all
    | accept => exact ⟨rfl, rfl⟩
    | step => simp_all
  | step hhas ht _ ih =>
    cases h' with
    | skip => simp_all
    | accept => simp_all
    | step _ ht' hrest =>
      rw [ht] at ht'
      cases ht'
      exact ih hrest

/-! ### The count of steps -/

/-- The instructions that can still be tried, each at each of `places` places. -/
def untried (p : Program) (places : Nat) (tried : Tried) : Finset (Nat × Nat) :=
  (Finset.range p.code.size ×ˢ Finset.range places).filter fun x => tried.noted x.1 x.2 = false

theorem card_untried_le (p : Program) (places : Nat) (tried : Tried) :
    (p.untried places tried).card ≤ p.code.size * places := by
  refine (Finset.card_filter_le _ _).trans (Nat.le_of_eq ?_)
  rw [Finset.card_product, Finset.card_range, Finset.card_range]

theorem untried_insert_subset (places : Nat) (tried : Tried) (pc : Nat) (q : Place) :
    p.untried places (tried.insert pc q) ⊆ p.untried places tried := by
  intro x hx
  simp only [untried, Finset.mem_filter, Bool.eq_false_iff, ne_eq, Tried.noted_insert,
    not_or] at hx ⊢
  exact ⟨hx.1, hx.2.1⟩

/-- Trying an instruction for the first time leaves less to try. -/
theorem card_untried_insert_lt {places pc : Nat} {tried : Tried} {q : Place}
    (hpc : pc < p.code.size) (hq : q.index - tried.base < places)
    (hnew : tried.has pc q = false) :
    (p.untried places (tried.insert pc q)).card < (p.untried places tried).card := by
  refine Finset.card_lt_card (Finset.ssubset_iff_subset_ne.2
    ⟨untried_insert_subset places tried pc q, fun heq => ?_⟩)
  have hmem : (pc, q.index - tried.base) ∈ p.untried places tried := by
    rw [untried, Finset.mem_filter, Finset.mem_product]
    exact ⟨⟨Finset.mem_range.2 hpc, Finset.mem_range.2 hq⟩, hnew⟩
  rw [← heq, untried, Finset.mem_filter] at hmem
  have hnoted : (tried.insert pc q).noted pc (q.index - tried.base) = true :=
    Tried.noted_insert.2 (.inr ⟨rfl, rfl⟩)
  rw [hmem.2] at hnoted
  cases hnoted

theorem step_instr_of_le {t : Thread} {threads : List Thread} (hpc : p.code.size ≤ t.pc)
    (h : t.step (p.instr t.pc) = .continues threads) : threads = [] := by
  have hfail : p.instr t.pc = .fail := by
    simp [instr, hpc]
  rw [hfail] at h
  cases h
  rfl

/-- **The count of steps is large enough.** -/
theorem explores_explore {fuel : Nat} {todo : List Thread} {tried : Tried}
    (hstart : start.In text) (hbase : tried.base = start.index)
    (htodo : ∀ t ∈ todo, t.Behind text start)
    (hfuel : 2 * (p.untried (start.after.length + 1) tried).card + todo.length ≤ fuel) :
    Explores p todo tried (p.explore fuel todo tried).1 (p.explore fuel todo tried).2 := by
  fun_induction explore p fuel todo tried with
  | case1 todo tried =>
    obtain rfl : todo = [] := List.eq_nil_of_length_eq_zero (by omega)
    exact .nil
  | case2 => exact .nil
  | case3 fuel t todo tried hhas ih =>
    refine .skip hhas (ih hbase (fun u hu => htodo u (.tail _ hu)) ?_)
    rw [List.length_cons] at hfuel
    omega
  | case4 fuel t todo tried hhas _ ht => exact .accept (Bool.eq_false_iff.2 hhas) ht
  | case5 fuel t todo tried hhas tried' threads ht ih =>
    have hnew : tried.has t.pc t.place = false := Bool.eq_false_iff.2 hhas
    have ht' : t.step (p.instr t.pc) = .continues threads := ht
    have hbehind := htodo t (.head _)
    refine .step hnew ht' (ih hbase (fun u hu => ?_) ?_)
    · rcases List.mem_append.1 hu with hu | hu
      · exact hbehind.step ht hu
      · exact htodo u (.tail _ hu)
    -- a step leaves two threads at most, which one instruction less to try pays for
    · rw [List.length_append]
      rw [List.length_cons] at hfuel
      by_cases hpc : t.pc < p.code.size
      · have hplace : t.place.index - tried.base < start.after.length + 1 := by
          have := hstart.index_add
          have := hbehind.1.index_add
          omega
        have hless : (p.untried (start.after.length + 1) tried').card <
            (p.untried (start.after.length + 1) tried).card :=
          card_untried_insert_lt hpc hplace hnew
        have hlength := Thread.length_step_le ht
        omega
      · have hle : (p.untried (start.after.length + 1) tried').card ≤
            (p.untried (start.after.length + 1) tried).card :=
          Finset.card_le_card (untried_insert_subset _ tried t.pc t.place)
        rw [step_instr_of_le (Nat.le_of_not_lt hpc) ht']
        simp only [List.length_nil]
        omega

/-! ### The memory is sound -/

/-- The memory begins at a place, and what it has noted behind that has a property. -/
structure Notes (text : List Char) (start : Place) (P : Nat → Place → Prop) (tried : Tried) :
    Prop where
  base : tried.base = start.index
  noted : ∀ pc q, q.In text → start.index ≤ q.index → tried.has pc q = true → P pc q

theorem Notes.mono {P Q : Nat → Place → Prop} {tried : Tried} (h : Notes text start P tried)
    (hPQ : ∀ pc q, P pc q → Q pc q) : Notes text start Q tried :=
  ⟨h.base, fun pc q hq hle hhas => hPQ pc q (h.noted pc q hq hle hhas)⟩

theorem Notes.insert {P : Nat → Place → Prop} {tried : Tried} {t : Thread}
    (h : Notes text start P tried) (ht : t.Behind text start) (hP : P t.pc t.place) :
    Notes text start P (tried.insert t.pc t.place) := by
  refine ⟨h.base, fun pc q hq hle hhas => ?_⟩
  rcases Tried.noted_insert.1 hhas with hhas | ⟨rfl, hindex⟩
  · exact h.noted pc q hq hle hhas
  · have hbase := h.base
    have hle' := ht.2
    rw [Tried.base_insert] at hindex
    obtain rfl := ht.1.ext hq (by omega)
    exact hP

/-- **Threads that all fail change only what is noted**, and what they note fails. -/
theorem Runs.explores_none {n : Nat} {ts : List Thread} {tried : Tried} {P : Nat → Place → Prop}
    (h : Runs p n ts none) (hts : ∀ t ∈ ts, t.Behind text start)
    (hnotes : Notes text start P tried) (hfails : ∀ pc q, p.Fails pc q → P pc q) :
    ∃ tried', Notes text start P tried' ∧
      ∀ todo r out, Explores p todo tried' r out → Explores p (ts ++ todo) tried r out := by
  induction n using Nat.strong_induction_on generalizing ts tried with
  | _ n ih =>
    cases h with
    | nil => exact ⟨tried, hnotes, fun _ _ _ h => h⟩
    | @step n t threads rest _ ht hrun =>
      have hbehind := hts t (.head _)
      have hrest : ∀ u ∈ rest, u.Behind text start := fun u hu => hts u (.tail _ hu)
      obtain ⟨u, hu, -⟩ | ⟨k, m, rfl, hk, hm⟩ := hrun.of_append
      · cases hu
      -- what has been tried is passed over, and it would have failed again
      cases hhas : tried.has t.pc t.place with
      | true =>
        obtain ⟨tried', hnotes', hgo⟩ := ih m (by omega) hm hrest hnotes
        exact ⟨tried', hnotes', fun todo r out h => .skip hhas (hgo todo r out h)⟩
      | false =>
        have hfail : p.Fails t.pc t.place :=
          Runs.fails (.step ht (by rw [List.append_nil]; exact hk))
        obtain ⟨tried₁, hnotes₁, hgo₁⟩ :=
          ih k (by omega) hk (fun u hu => hbehind.step ht hu)
            (hnotes.insert hbehind (hfails _ _ hfail))
        obtain ⟨tried₂, hnotes₂, hgo₂⟩ := ih m (by omega) hm hrest hnotes₁
        exact ⟨tried₂, hnotes₂, fun todo r out h =>
          .step hhas ht (hgo₁ _ _ _ (hgo₂ todo r out h))⟩

/-- **A thread that accepts is not skipped**, as long as what is noted fails or takes longer. -/
theorem Runs.explores_some {n : Nat} {ts : List Thread} {u : Thread} {tried : Tried}
    (h : Runs p n ts (some u)) (todo : List Thread) (hts : ∀ t ∈ ts, t.Behind text start)
    (hnotes : Notes text start (fun pc q => p.Fails pc q ∨ p.Slow n pc q) tried) :
    ∃ out, Explores p (ts ++ todo) tried (some u) out := by
  induction n using Nat.strong_induction_on generalizing ts todo tried with
  | _ n ih =>
    -- a thread that accepts by itself has not been tried
    have hnew : ∀ t ∈ ts, Runs p n [t] (some u) → tried.has t.pc t.place = false := by
      intro t ht hrun
      rw [Bool.eq_false_iff]
      intro hhas
      rcases hnotes.noted t.pc t.place (hts t ht).1 (hts t ht).2 hhas with hfails | hslow
      · obtain ⟨k, hk⟩ := hfails t.slots
        cases (hk.unique hrun).2
      · exact Nat.lt_irrefl n (hslow t.slots n _ hrun)
    have hslower : ∀ m ≤ n, Notes text start (fun pc q => p.Fails pc q ∨ p.Slow m pc q) tried :=
      fun m hm => hnotes.mono fun pc q => Or.imp_right fun hslow slots k r hk =>
        Nat.lt_of_le_of_lt hm (hslow slots k r hk)
    cases h with
    | accept ht => exact ⟨_, .accept (hnew _ (.head _) (.accept ht)) ht⟩
    | @step n t threads rest _ ht hrun =>
      have hbehind := hts t (.head _)
      have hthreads : ∀ v ∈ threads, v.Behind text start := fun v hv => hbehind.step ht hv
      have hrest : ∀ v ∈ rest, v.Behind text start := fun v hv => hts v (.tail _ hv)
      obtain ⟨v, hv, hrun⟩ | ⟨k, m, rfl, hk, hm⟩ := hrun.of_append
      · cases hv
        have halone : Runs p (n + 1) [t] (some u) :=
          .step ht (by rw [List.append_nil]; exact hrun)
        obtain ⟨out, hout⟩ := ih n (Nat.lt_succ_self n) hrun (rest ++ todo) hthreads
          ((hslower n (Nat.le_succ n)).insert hbehind (.inr (halone.slow (Nat.lt_succ_self n))))
        exact ⟨out, .step (hnew t (.head _) halone) ht hout⟩
      cases hhas : tried.has t.pc t.place with
      | true =>
        obtain ⟨out, hout⟩ := ih m (by omega) hm todo hrest (hslower m (by omega))
        exact ⟨out, .skip hhas hout⟩
      | false =>
        have hfail : p.Fails t.pc t.place :=
          Runs.fails (.step ht (by rw [List.append_nil]; exact hk))
        obtain ⟨tried', hnotes', hgo⟩ := hk.explores_none hthreads
          ((hslower m (by omega)).insert hbehind (.inl hfail)) fun _ _ => .inl
        obtain ⟨out, hout⟩ := ih m (by omega) hm todo hrest hnotes'
        exact ⟨out, .step hhas ht (hgo _ _ _ hout)⟩

/-! ## Searching -/

/-- The first place at or behind `q` where an attempt finds something, and what it finds. -/
def firstFrom (attempt : Place → Option Thread) (q : Place) : Option (Place × Thread) :=
  match attempt q with
  | some t => some (q, t)
  | none =>
    if h : q.after = [] then none
    else
      have := q.after_advance_lt h
      firstFrom attempt q.advance
termination_by q.after.length

/-- What plain backtracking finds from each place of a text on. -/
def Attempts (p : Program) (text : List Char) (attempt : Place → Option Thread) : Prop :=
  ∀ q, q.In text → ∃ n, Runs p n [⟨p.start, q, []⟩] (attempt q)

/-- Exploring from a place finds what plain backtracking finds there, and notes only failures if
that is nothing. -/
theorem explore_eq_attempt {attempt : Place → Option Thread} {fuel : Nat} {q : Place}
    {tried : Tried} (h : p.Attempts text attempt) (hstart : start.In text) (hq : q.In text)
    (hle : start.index ≤ q.index) (hfuel : p.stepBound start ≤ fuel)
    (hnotes : Notes text start p.Fails tried) :
    (p.explore fuel [⟨p.start, q, []⟩] tried).1 = attempt q ∧
      (attempt q = none →
        Notes text start p.Fails (p.explore fuel [⟨p.start, q, []⟩] tried).2) := by
  have hts : ∀ t ∈ [Thread.mk p.start q []], t.Behind text start := by
    intro t ht
    rw [List.mem_singleton.1 ht]
    exact ⟨hq, hle⟩
  have hcard := p.card_untried_le (start.after.length + 1) tried
  have henough : 2 * (p.untried (start.after.length + 1) tried).card + 1 ≤ fuel := by
    rw [stepBound] at hfuel
    omega
  have hexplores := explores_explore hstart hnotes.base hts henough
  obtain ⟨n, hrun⟩ := h q hq
  -- the run of the attempt gives an exploration, and there is only one
  cases hattempt : attempt q with
  | none =>
    rw [hattempt] at hrun
    obtain ⟨tried', hnotes', hgo⟩ := hrun.explores_none hts hnotes fun _ _ => id
    obtain ⟨hr, hout⟩ := (hgo [] none tried' .nil).unique hexplores
    exact ⟨hr.symm, fun _ => hout ▸ hnotes'⟩
  | some t =>
    rw [hattempt] at hrun
    obtain ⟨out, hgo⟩ := hrun.explores_some [] hts (hnotes.mono fun _ _ => .inl)
    exact ⟨(hgo.unique hexplores).1.symm, fun hnone => by cases hnone⟩

theorem searchFrom_eq_firstFrom {attempt : Place → Option Thread} {fuel : Nat} {q : Place}
    {tried : Tried} (h : p.Attempts text attempt) (hstart : start.In text) (hq : q.In text)
    (hle : start.index ≤ q.index) (hfuel : p.stepBound start ≤ fuel)
    (hnotes : Notes text start p.Fails tried) :
    p.searchFrom fuel q tried = firstFrom attempt q := by
  fun_induction searchFrom p fuel q tried with
  | case1 q tried t out hexplore =>
    obtain ⟨hattempt, -⟩ := explore_eq_attempt h hstart hq hle hfuel hnotes
    rw [hexplore] at hattempt
    rw [firstFrom.eq_def, ← hattempt]
  | case2 q tried out hexplore hafter =>
    obtain ⟨hattempt, -⟩ := explore_eq_attempt h hstart hq hle hfuel hnotes
    rw [hexplore] at hattempt
    rw [firstFrom.eq_def]
    simp only [← hattempt, dif_pos hafter]
  | case3 q tried out hexplore hafter hlt ih =>
    obtain ⟨hattempt, hfails⟩ := explore_eq_attempt h hstart hq hle hfuel hnotes
    rw [hexplore] at hattempt hfails
    rw [ih hq.advance (hle.trans q.index_le_advance) (hfails hattempt.symm),
      firstFrom.eq_def _ q]
    simp only [← hattempt, dif_neg hafter]

/-- **A search finds the first place where plain backtracking accepts.** -/
theorem search_eq_firstFrom {attempt : Place → Option Thread} {q : Place}
    (h : p.Attempts text attempt) (hq : q.In text) : p.search q = firstFrom attempt q :=
  searchFrom_eq_firstFrom h hq hq (Nat.le_refl _) (Nat.le_refl _)
    ⟨rfl, fun pc q' _ _ hhas => by
      rw [Tried.has, Tried.mask] at hhas
      cases (Tried.noted_none q).symm.trans hhas⟩

end Program

end FirstClaim.Regex
