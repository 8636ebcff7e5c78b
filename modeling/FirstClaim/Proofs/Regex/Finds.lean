import FirstClaim.Proofs.Regex.Ends

/-!
# All matches of a pattern

For a pattern that reads something in each match, the matches in a text in terms of its ends:

* `ofNode_attempts`: the program of a pattern finds the first of the ends from each place on.
* `Finds`: the matches from a place on, one after the other.

`findAll_finds`: these are the matches in a text; so each match comes from an attempt
(`exists_attempt_of_mem_findAll`) and is not empty (`nonempty_of_mem_findAll`).
-/

set_option autoImplicit false

namespace FirstClaim.Regex

/-! ## The match at a place -/

/-- The thread that stands at the first of the ends, if there is one. -/
def Node.attempt (n : Node) (q : Place) : Option Thread :=
  (n.ends (q, [])).head?.map (End.thread 0)

/-- **From each place on, the program of a pattern finds the first of its ends.** -/
theorem Program.ofNode_attempts {n : Node} (h : n.productive = true) (text : List Char) :
    (ofNode n).Attempts text n.attempt := by
  intro q _
  have hemits := emits_compile h
  have hsame := hemits.same ⟨#[.accept], 0⟩ (ofNode n) (fun _ _ _ => rfl) (q, [])
  have haccept : (ofNode n).instr 0 = .accept :=
    (hemits.grows ⟨#[.accept], 0⟩).instr 0 (Nat.le_refl _) Nat.zero_lt_one
  refine (hsame [] _).2 ?_
  unfold Node.attempt
  cases n.ends (q, []) with
  | nil => exact ⟨0, .nil⟩
  | cons e es => exact ⟨1, .accept (Thread.step_eq_accepted_iff.2 haccept)⟩


def End.In (text : List Char) (e : End) : Prop :=
  e.1.In text ∧ ∀ x ∈ e.2, x.2.In text

theorem End.In.mem_ends {text : List Char} {n : Node} {e e' : End} (he : e.In text)
    (h : e' ∈ n.ends e) : e'.In text := by
  refine n.ends_inv (P := End.In text) (fun e _ _ he _ _ => ⟨he.1.advance, he.2⟩)
    (fun e slot he => ⟨he.1, fun x hx => ?_⟩) e he e' h
  rcases List.mem_cons.1 hx with rfl | hx
  · exact he.1
  · exact he.2 x hx

def Thread.In (text : List Char) (t : Thread) : Prop :=
  t.place.In text ∧ ∀ x ∈ t.slots, x.2.In text

section First

variable {text : List Char} {n : Node} {q s : Place} {t : Thread}

theorem Node.mem_ends_of_attempt (h : n.attempt q = some t) :
    ∃ e ∈ n.ends (q, []), t = e.thread 0 := by
  obtain ⟨e, he, rfl⟩ := Option.map_eq_some_iff.1 h
  exact ⟨e, List.mem_of_mem_head? he, rfl⟩

theorem Node.in_of_attempt (hq : q.In text) (h : n.attempt q = some t) : t.In text := by
  obtain ⟨e, he, rfl⟩ := mem_ends_of_attempt h
  exact End.In.mem_ends (e := (q, [])) ⟨hq, fun _ hx => absurd hx List.not_mem_nil⟩ he

theorem Node.after_lt_of_attempt (hconsumes : n.consumes = true) (h : n.attempt q = some t) :
    t.place.after.length < q.after.length := by
  obtain ⟨e, he, rfl⟩ := mem_ends_of_attempt h
  exact reading_ends hconsumes (q, []) e he

/-! ## The first match -/

theorem Program.firstFrom_spec {attempt : Place → Option Thread} (hq : q.In text)
    (h : firstFrom attempt q = some (s, t)) :
    s.In text ∧ q.index ≤ s.index ∧ attempt s = some t := by
  fun_induction firstFrom attempt q with
  | case1 q t' hattempt =>
    obtain ⟨rfl, rfl⟩ := Prod.mk.inj (Option.some.inj h)
    exact ⟨hq, Nat.le_refl _, hattempt⟩
  | case2 => cases h
  | case3 q _ _ _ ih =>
    obtain ⟨hs, hle, ht⟩ := ih hq.advance h
    exact ⟨hs, q.index_le_advance.trans hle, ht⟩

end First

/-! ## All matches -/

/-- The matches from a place on, each with the place where it begins, are these. -/
inductive Node.Finds (n : Node) : Place → List (Place × Thread) → Prop
  | none {q : Place} : Program.firstFrom n.attempt q = none → Finds n q []
  | some {q s : Place} {t : Thread} {found : List (Place × Thread)} :
      Program.firstFrom n.attempt q = some (s, t) → Finds n t.place found →
      Finds n q ((s, t) :: found)

namespace Node.Finds

variable {n : Node} {q : Place} {found found' : List (Place × Thread)}

theorem unique (h : n.Finds q found) (h' : n.Finds q found') : found = found' := by
  induction h generalizing found' with
  | none hnone =>
    cases h' with
    | none => rfl
    | some hsome => cases hnone.symm.trans hsome
  | some hsome _ ih =>
    cases h' with
    | none hnone => cases hnone.symm.trans hsome
    | some hsome' hrest =>
      obtain ⟨rfl, rfl⟩ := Prod.mk.inj (Option.some.inj (hsome.symm.trans hsome'))
      rw [ih hrest]

theorem congr {q' : Place} (h : n.Finds q found)
    (heq : Program.firstFrom n.attempt q = Program.firstFrom n.attempt q') :
    n.Finds q' found := by
  cases h with
  | none hnone => exact .none (heq.symm.trans hnone)
  | some hsome hrest => exact .some (heq.symm.trans hsome) hrest

end Node.Finds

/-- **The matches from a place on are those found one after the other.** -/
theorem Program.matchesFrom_finds {text : List Char} {n : Node} (hproductive : n.productive = true)
    (hconsumes : n.consumes = true) {groups fuel : Nat} {q : Place}
    (last : Option Nat) (hq : q.In text) (hfuel : q.after.length < fuel) :
    ∃ found, n.Finds q found ∧
      (ofNode n).matchesFrom groups fuel q last = found.map fun x => x.2.toMatch groups x.1 := by
  induction fuel generalizing q last with
  | zero => exact absurd hfuel (Nat.not_lt_zero _)
  | succ fuel ih =>
    have hsearch := search_eq_firstFrom (ofNode_attempts hproductive text) hq
    simp only [matchesFrom]
    rw [hsearch]
    cases hfirst : firstFrom n.attempt q with
    | none => exact ⟨[], .none hfirst, rfl⟩
    | some x =>
      obtain ⟨s, t⟩ := x
      obtain ⟨hs, hle, ht⟩ := firstFrom_spec hq hfirst
      have hless := Node.after_lt_of_attempt hconsumes ht
      have htin := Node.in_of_attempt hs ht
      have hqs := hq.index_add
      have hss := hs.index_add
      have hts := htin.1.index_add
      -- the match is not empty, so it is not passed over
      have hne : s.index ≠ t.place.index := by omega
      obtain ⟨found, hfinds, hfound⟩ := ih (some t.place.index) htin.1 (by omega)
      refine ⟨(s, t) :: found, .some hfirst hfinds, ?_⟩
      simp [hne, hfound]

/-- What is found from a place on are attempts at places of the text that succeed. -/
theorem Node.Finds.attempted {text : List Char} {n : Node} {q : Place}
    {found : List (Place × Thread)} (h : n.Finds q found) (hq : q.In text) :
    ∀ x ∈ found, x.1.In text ∧ x.2.In text ∧ n.attempt x.1 = Option.some x.2 := by
  induction h with
  | none => simp
  | some hsome _ ih =>
    obtain ⟨hs, -, ht⟩ := Program.firstFrom_spec hq hsome
    have htin := in_of_attempt hs ht
    exact List.forall_mem_cons.2 ⟨⟨hs, htin, ht⟩, ih htin.1⟩

/-- **The matches in a text are those found from its beginning on.** -/
theorem findAll_finds {r : Regex} (hproductive : r.node.productive = true)
    (hconsumes : r.node.consumes = true) (text : String) :
    ∃ found, r.node.Finds (.start text.toList) found ∧
      r.findAll text = found.map fun x => x.2.toMatch r.groupBound x.1 := by
  refine Program.matchesFrom_finds hproductive hconsumes none (.start _) ?_
  exact Nat.lt_add_of_pos_right Nat.two_pos

theorem exists_attempt_of_mem_findAll {r : Regex} (hproductive : r.node.productive = true)
    (hconsumes : r.node.consumes = true) {text : String} {m : Match} (hm : m ∈ r.findAll text) :
    ∃ s t, s.In text.toList ∧ t.In text.toList ∧ r.node.attempt s = some t ∧
      m = t.toMatch r.groupBound s := by
  obtain ⟨found, hfinds, hall⟩ := findAll_finds hproductive hconsumes text
  rw [hall] at hm
  obtain ⟨x, hx, rfl⟩ := List.mem_map.1 hm
  obtain ⟨hs, htin, ht⟩ := hfinds.attempted (.start _) x hx
  exact ⟨x.1, x.2, hs, htin, ht, rfl⟩

/-- What stands between two places of a text, read off from what stands behind them. -/
theorem Place.In.passed {text m : List Char} {p q : Place} (hp : p.In text) (hq : q.In text)
    (h : p.after = m ++ q.after) :
    p.offset + String.utf8Len m = q.offset ∧
      p.capture q = ⟨p.offset, q.offset, String.ofList m⟩ := by
  have hindex := hp.index_add
  have hindex' := hq.index_add
  have hlength := congrArg List.length h
  rw [List.length_append] at hlength
  obtain ⟨-, m', -, hm, -, hoffset, htaken⟩ := hp.exists_between hq (by omega)
  obtain rfl := List.append_cancel_right (h.symm.trans hm)
  refine ⟨hoffset, ?_⟩
  rw [Place.capture, textTo, ← htaken, h, List.take_left]

/-- Of two places of a text the one with fewer characters behind it has more bytes before it. -/
theorem Place.In.offset_lt {text : List Char} {p q : Place} (hp : p.In text) (hq : q.In text)
    (h : q.after.length < p.after.length) : p.offset < q.offset := by
  have hindex := hp.index_add
  have hindex' := hq.index_add
  obtain ⟨-, m, -, -, -, hoffset, hlength⟩ := hp.exists_between hq (by omega)
  have hne : m ≠ [] := List.ne_nil_of_length_pos (by omega)
  have hpos : 0 < String.utf8Len m := Nat.pos_of_ne_zero fun hzero =>
    hne (String.utf8Len_eq_zero.1 hzero)
  omega

theorem nonempty_of_mem_findAll {r : Regex} (hproductive : r.node.productive = true)
    (hconsumes : r.node.consumes = true) {text : String} {m : Match} (hm : m ∈ r.findAll text) :
    m.whole.start < m.whole.stop := by
  obtain ⟨s, t, hs, htin, ht, rfl⟩ := exists_attempt_of_mem_findAll hproductive hconsumes hm
  exact hs.offset_lt htin.1 (Node.after_lt_of_attempt hconsumes ht)

end FirstClaim.Regex
