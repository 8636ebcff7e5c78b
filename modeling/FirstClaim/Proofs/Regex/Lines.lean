import FirstClaim.Proofs.Regex.Finds

/-!
# Matching line by line

A pattern that reads no character of a line end, and asserts nothing but line starts and line ends,
cannot tell whether the lines it is matched against are a text of their own or stand in a larger
one.

* `Lines`: a part of a text that consists of whole lines.
* `Look.holds_within`, `read_within`: at a place of such a part an assertion and a step forward
  give the same in the part and in the text; from these `Node.ends_within` by induction on the
  pattern.
* `firstFrom_within`: the first match in the text is the first one in the part, if there is one.
* `Finds.within`: so the matches in the part are found first.

`findAll_lines`: the matches in two texts with a line end between them are the matches in the first
and those in the second one.
-/

set_option autoImplicit false

namespace FirstClaim.Regex

open String (utf8Len)

/-! ## A part of a text -/

/-- A place in a part of a text, as a place in the whole text. -/
def Place.within (pre tail : List Char) (q : Place) : Place :=
  ⟨q.before.or pre.getLast?, q.after ++ tail, q.index + pre.length, q.offset + utf8Len pre⟩

def Place.stop (text : List Char) : Place :=
  ⟨text.getLast?, [], text.length, utf8Len text⟩

/-- `part` is whole lines of the text `pre ++ part ++ tail`. -/
structure Lines (pre part tail : List Char) : Prop where
  starts : (Look.lineStart true).holds ((Place.start part).within pre tail) = true
  stops : (Look.lineEnd true).holds ((Place.stop part).within pre tail) = true

/-- One of the characters that end a line. -/
def isLineEnd (c : Char) : Bool :=
  c == '\n' || c == '\r'

/-- All assertions of a pattern are of a kind. -/
def Node.looksOnly (p : Look → Bool) : Node → Bool
  | .look l => p l
  | .group _ sub => sub.looksOnly p
  | .rep _ _ _ sub => sub.looksOnly p
  | .cat a b => a.looksOnly p && b.looksOnly p
  | .alt a b => a.looksOnly p && b.looksOnly p
  | _ => true

/-- The assertion looks for the start or the end of a line. -/
def Look.linewise : Look → Bool
  | .lineStart crlf => crlf
  | .lineEnd crlf => crlf
  | _ => false

/-- The pattern looks for nothing but line starts and line ends and reads none of their
characters. -/
structure Node.Linewise (n : Node) : Prop where
  reads : ∀ c, isLineEnd c = true → n.reads c = false
  looks : n.looksOnly Look.linewise = true

instance (n : Node) : Decidable n.Linewise :=
  decidable_of_iff (n.reads '\n' = false ∧ n.reads '\r' = false ∧ n.looksOnly Look.linewise = true)
    ⟨fun ⟨hlf, hcr, hlooks⟩ => ⟨fun c hc => by
      rcases Bool.or_eq_true_iff.1 hc with hc | hc
      · exact beq_iff_eq.1 hc ▸ hlf
      · exact beq_iff_eq.1 hc ▸ hcr, hlooks⟩,
    fun h => ⟨h.reads '\n' rfl, h.reads '\r' rfl, h.looks⟩⟩

namespace Place

variable {pre part tail : List Char} {q : Place}

theorem In.stop (text : List Char) : (Place.stop text).In text :=
  ⟨text, by simp [Place.stop], rfl, rfl, rfl⟩

theorem In.eq_stop (h : q.In part) (hafter : q.after = []) : q = Place.stop part := by
  refine h.ext (.stop part) ?_
  have hindex := h.index_add
  rw [hafter] at hindex
  exact hindex

theorem In.within (h : q.In part) : (q.within pre tail).In (pre ++ part ++ tail) := by
  obtain ⟨before, rfl, hindex, hoffset, hbefore⟩ := h
  refine ⟨pre ++ before, ?_, ?_, ?_, ?_⟩
  · simp [Place.within, List.append_assoc]
  · simp [Place.within, hindex, Nat.add_comm]
  · simp [Place.within, hoffset, Nat.add_comm]
  · rw [List.getLast?_append, hbefore]
    rfl

theorem advance_within (h : q.after ≠ []) :
    (q.within pre tail).advance = q.advance.within pre tail := by
  obtain ⟨before, after, index, offset⟩ := q
  cases after with
  | nil => exact absurd rfl h
  | cons c cs => simp [advance, within, Nat.add_right_comm]

end Place

namespace Lines

variable {pre part tail : List Char}

theorem tail_cons (h : Lines pre part tail) {c : Char} {cs : List Char} (htail : tail = c :: cs) :
    isLineEnd c = true := by
  have hstops := h.stops
  subst htail
  simp only [Look.holds, Place.within, Place.stop, List.nil_append, List.isEmpty_cons,
    List.head?_cons, Bool.false_or, Bool.true_and] at hstops
  simp only [isLineEnd, Bool.or_eq_true, beq_iff_eq]
  grind

/-- **An assertion about lines holds in the part where it holds in the text.** -/
theorem holds_within (h : Lines pre part tail) {l : Look} (hl : l.linewise = true) {q : Place}
    (hq : q.In part) : l.holds (q.within pre tail) = l.holds q := by
  have hstarts := h.starts
  have hstops := h.stops
  obtain ⟨before, rfl, -, -, hbefore⟩ := hq
  -- only the ends of the part have other neighbours in the text
  rcases List.eq_nil_or_concat before with rfl | ⟨front, c, rfl⟩
  · cases hafter : q.after <;> cases l <;>
      simp_all [Look.linewise, Look.holds, Place.within, Place.start, Place.stop] <;> grind
  · cases hafter : q.after <;> cases l <;>
      simp_all [Look.linewise, Look.holds, Place.within, Place.start, Place.stop] <;> grind

end Lines

/-! ## Ends in a part of a text -/

/-- Slots in a part of a text, as slots in the whole text. -/
def Slots.within (pre tail : List Char) (s : Slots) : Slots :=
  s.map fun x => (x.1, x.2.within pre tail)

namespace End

/-- What a match has come to in a part of a text, as what it has come to in the whole text. -/
def within (pre tail : List Char) (e : End) : End :=
  (e.1.within pre tail, Slots.within pre tail e.2)

end End

section Within

variable {pre part tail : List Char} {step : End → List End}

/-- From each place of a part on, `step` gives in the text what it gives in the part. -/
def Alike (pre part tail : List Char) (step : End → List End) : Prop :=
  ∀ e, e.In part → step (e.within pre tail) = (step e).map (End.within pre tail)

/-- `step` does not leave a part. -/
def Stays (part : List Char) (step : End → List End) : Prop :=
  ∀ e, e.In part → ∀ e' ∈ step e, e'.In part

theorem Alike.flatMap (h : Alike pre part tail step) {es : List End} (hes : ∀ e ∈ es, e.In part) :
    (es.map (End.within pre tail)).flatMap step = (es.flatMap step).map (End.within pre tail) := by
  rw [List.flatMap_map, List.map_flatMap]
  exact List.flatMap_congr fun e he => h e (hes e he)

theorem Alike.comp {step' : End → List End} (h : Alike pre part tail step)
    (hstays : Stays part step)
    (h' : Alike pre part tail step') : Alike pre part tail fun e => (step e).flatMap step' := by
  intro e he
  dsimp only
  rw [h e he]
  exact h'.flatMap (hstays e he)

theorem alike_orStop (greedy : Bool) (e : End) (more : List End) :
    orStop greedy (e.within pre tail) (more.map (End.within pre tail)) =
      (orStop greedy e more).map (End.within pre tail) := by
  unfold orStop
  split
  · rw [List.map_append]
    rfl
  · rfl

theorem Stays.times (h : Stays part step) (n : Nat) : Stays part (times step n) :=
  fun _ he _ he' => times_inv h he he'

theorem Alike.times (h : Alike pre part tail step) (hstays : Stays part step) (n : Nat) :
    Alike pre part tail (times step n) := by
  induction n with
  | zero => exact fun _ _ => rfl
  | succ n ih => exact ih.comp (hstays.times n) h

theorem Alike.upTo (h : Alike pre part tail step) (hstays : Stays part step) (greedy : Bool)
    (n : Nat) : Alike pre part tail (upTo step greedy n) := by
  induction n with
  | zero => exact fun _ _ => rfl
  | succ n ih =>
    intro e he
    have hmore := h.comp hstays ih e he
    dsimp only at hmore
    rw [Regex.upTo, hmore, alike_orStop, Regex.upTo]

theorem Alike.anyNumber (h : Alike pre part tail step) (hstays : Stays part step)
    (hreading : Reading step) (greedy : Bool) : Alike pre part tail (anyNumber step greedy) := by
  intro e he
  have hle : e.1.after.length ≤ (e.within pre tail).1.after.length := by
    simp [End.within, Place.within]
  rw [Regex.anyNumber, h.upTo hstays greedy _ e he, upTo_eq_anyNumber hreading hle]

theorem Lines.alike_read (h : Lines pre part tail) {p : Char → Bool}
    (hp : ∀ c, isLineEnd c = true → p c = false) : Alike pre part tail (End.read p) := by
  intro e he
  have hafter : (e.within pre tail).1.after = e.1.after ++ tail := rfl
  unfold End.read
  rw [hafter]
  cases hc : e.1.after with
  | cons c cs =>
    have hadvance : (e.within pre tail).1.advance = e.1.advance.within pre tail :=
      Place.advance_within (hc ▸ List.cons_ne_nil c cs)
    dsimp only [List.cons_append]
    rw [hadvance, apply_ite (List.map (End.within pre tail))]
    rfl
  | nil =>
    cases htail : tail with
    | nil => rfl
    | cons c cs =>
      dsimp only [List.nil_append]
      rw [hp c (h.tail_cons htail)]
      rfl

theorem Node.Linewise.cat {a b : Node} (h : (Node.cat a b).Linewise) :
    a.Linewise ∧ b.Linewise := by
  have hlooks := Bool.and_eq_true_iff.1 h.looks
  have hreads := fun c hc => Bool.or_eq_false_iff.1 (h.reads c hc)
  exact ⟨⟨fun c hc => (hreads c hc).1, hlooks.1⟩, ⟨fun c hc => (hreads c hc).2, hlooks.2⟩⟩

/-- **In a part that is whole lines, a pattern that works line by line has the ends that it has in
the text.** -/
theorem Node.ends_within (h : Lines pre part tail) {n : Node} (hn : n.Linewise)
    (hproductive : n.productive = true) : Alike pre part tail n.ends := by
  have hstays : ∀ n : Node, Stays part n.ends := fun n e he e' he' => he.mem_ends he'
  induction n with
  | empty => exact fun _ _ => rfl
  | literal cs =>
    have hreads : ∀ c ∈ cs, ∀ d, isLineEnd d = true → (d == c) = false := by
      intro c hc d hd
      refine Bool.eq_false_iff.2 fun hdc => ?_
      have hnone := hn.reads d hd
      rw [reads, beq_iff_eq.1 hdc, List.contains_iff_mem.2 hc] at hnone
      cases hnone
    -- both are about all of the literal, and the induction goes over its characters
    clear hn hproductive
    induction cs with
    | nil => exact fun _ _ => rfl
    | cons c cs ih =>
      refine Alike.comp (h.alike_read (hreads c (.head _))) (fun e he e' he' => ?_)
        (ih fun d hd => hreads d (.tail _ hd))
      exact hstays (.literal [c]) e he e' (List.mem_flatMap.2 ⟨e', he', List.mem_singleton_self _⟩)
  | set s => exact h.alike_read hn.reads
  | look l =>
    intro e he
    have hholds : l.holds (e.within pre tail).1 = l.holds e.1 := h.holds_within hn.looks he.1
    rw [ends, ends, hholds, apply_ite (List.map (End.within pre tail))]
    rfl
  | group index sub ih =>
    intro e he
    have hopened : (e.save (2 * index)).In part := ⟨he.1, fun x hx => by
      rcases List.mem_cons.1 hx with rfl | hx
      · exact he.1
      · exact he.2 x hx⟩
    have hsub := ih ⟨hn.reads, hn.looks⟩ hproductive (e.save (2 * index)) hopened
    have hsave : (e.within pre tail).save (2 * index) = (e.save (2 * index)).within pre tail := rfl
    rw [ends, ends, hsave, hsub, List.map_map, List.map_map]
    rfl
  | rep min max greedy sub ih =>
    simp only [productive, Bool.and_eq_true, Bool.or_eq_true] at hproductive
    have hsub := ih ⟨hn.reads, hn.looks⟩ hproductive.2
    have htimes := hsub.times (hstays sub) min
    cases max with
    | some max => exact htimes.comp ((hstays sub).times min) (hsub.upTo (hstays sub) greedy _)
    | none =>
      have hreading := reading_ends (hproductive.1.resolve_left Bool.false_ne_true)
      exact htimes.comp ((hstays sub).times min) (hsub.anyNumber (hstays sub) hreading greedy)
  | cat a b iha ihb =>
    obtain ⟨ha, hb⟩ := hn.cat
    rw [productive, Bool.and_eq_true] at hproductive
    exact (iha ha hproductive.1).comp (hstays a) (ihb hb hproductive.2)
  | alt a b iha ihb =>
    intro e he
    obtain ⟨ha, hb⟩ := Linewise.cat (a := a) (b := b) ⟨hn.reads, hn.looks⟩
    rw [productive, Bool.and_eq_true] at hproductive
    rw [ends, ends, iha ha hproductive.1 e he, ihb hb hproductive.2 e he, List.map_append]

end Within

/-! ## The first match -/

def Thread.within (pre tail : List Char) (t : Thread) : Thread :=
  ⟨t.pc, t.place.within pre tail, t.slots.within pre tail⟩

section First

variable {pre part tail text : List Char} {n : Node} {q : Place}

open Program

theorem Node.attempt_within (h : Lines pre part tail) (hn : n.Linewise)
    (hproductive : n.productive = true) (hq : q.In part) :
    n.attempt (q.within pre tail) = (n.attempt q).map (Thread.within pre tail) := by
  have hends : n.ends (q.within pre tail, []) = (n.ends (q, [])).map (End.within pre tail) :=
    ends_within h hn hproductive (q, []) ⟨hq, fun _ hx => absurd hx List.not_mem_nil⟩
  unfold attempt
  rw [hends, List.head?_map, Option.map_map, Option.map_map]
  rfl

/-- **The first match in the text is the first one in the part**, or else the first one behind. -/
theorem firstFrom_within (h : Lines pre part tail) (hn : n.Linewise)
    (hproductive : n.productive = true) (hq : q.In part) :
    firstFrom n.attempt (q.within pre tail) =
      ((firstFrom n.attempt q).map fun x => (x.1.within pre tail, x.2.within pre tail)).or
        (firstFrom n.attempt ((Place.stop part).within pre tail)) := by
  fun_induction firstFrom n.attempt q with
  | case1 q t hattempt =>
    rw [firstFrom.eq_def, Node.attempt_within h hn hproductive hq, hattempt]
    rfl
  | case2 q hattempt hafter =>
    rw [hq.eq_stop hafter]
    rfl
  | case3 q hattempt hafter _ ih =>
    have hmore : (q.within pre tail).after ≠ [] := List.append_ne_nil_of_left_ne_nil hafter tail
    rw [firstFrom.eq_def, Node.attempt_within h hn hproductive hq, hattempt, ← ih hq.advance,
      ← Place.advance_within hafter]
    exact dif_neg hmore

/-- At a line end a pattern that reads something cannot begin. -/
theorem attempt_eq_none (hn : n.Linewise) (hconsumes : n.consumes = true)
    (hafter : ∀ c cs, q.after = c :: cs → isLineEnd c = true) : n.attempt q = none := by
  have hstays : ∀ e ∈ n.ends (q, []), e.1 = q :=
    n.ends_inv (P := fun e => e.1 = q) (fun e c cs he hc hreads => by
      have hend := hn.reads c (hafter c cs (he ▸ hc))
      rw [hend] at hreads
      cases hreads) (fun _ _ => id) (q, []) rfl
  have hnone : n.ends (q, []) = [] := List.eq_nil_iff_forall_not_mem.2 fun e he => by
    have hlt := Node.reading_ends hconsumes (q, []) e he
    rw [hstays e he] at hlt
    exact Nat.lt_irrefl _ hlt
  unfold Node.attempt
  rw [hnone]
  rfl

/-- Characters that end lines are passed over. -/
theorem firstFrom_lineEnds (hn : n.Linewise) (hconsumes : n.consumes = true)
    {z rest : List Char} (hz : ∀ c ∈ z, isLineEnd c = true) {q q' : Place} (hq : q.In text)
    (hq' : q'.In text) (hafter : q.after = z ++ rest) (hafter' : q'.after = rest) :
    firstFrom n.attempt q = firstFrom n.attempt q' := by
  induction z generalizing q with
  | nil =>
    have hindex := hq.index_add
    have hindex' := hq'.index_add
    rw [hafter] at hindex
    rw [hafter'] at hindex'
    obtain rfl := hq.ext hq' (Nat.add_right_cancel (hindex.trans hindex'.symm))
    rfl
  | cons c z ih =>
    have hnone : n.attempt q = none := attempt_eq_none hn hconsumes fun d ds hd => by
      obtain ⟨rfl, -⟩ := List.cons.inj (hafter.symm.trans hd)
      exact hz c (.head _)
    have hadvance : q.advance.after = z ++ rest := by
      simp [Place.advance, hafter]
    rw [← ih (fun d hd => hz d (.tail _ hd)) hq.advance hadvance, firstFrom.eq_def, hnone]
    exact dif_neg (hafter ▸ List.cons_ne_nil _ _)

end First

/-! ## All matches -/

/-- **The matches in the part come first**, and then those behind it. -/
theorem Node.Finds.within {pre part tail : List Char} {n : Node} {q : Place}
    {found behind : List (Place × Thread)} (h : Lines pre part tail) (hn : n.Linewise)
    (hproductive : n.productive = true) (hq : q.In part) (hfound : n.Finds q found)
    (hbehind : n.Finds ((Place.stop part).within pre tail) behind) :
    n.Finds (q.within pre tail)
      (found.map (fun x => (x.1.within pre tail, x.2.within pre tail)) ++ behind) := by
  induction hfound with
  | none hnone =>
    have hfirst := firstFrom_within h hn hproductive hq
    rw [hnone, Option.map_none, Option.none_or] at hfirst
    exact hbehind.congr hfirst.symm
  | some hsome _ ih =>
    have hfirst := firstFrom_within h hn hproductive hq
    rw [hsome] at hfirst
    obtain ⟨hs, -, ht⟩ := Program.firstFrom_spec hq hsome
    exact .some hfirst (ih (Node.in_of_attempt hs ht).1)

/-- The part of a text `k` bytes further. -/
def Capture.shift (k : Nat) (c : Capture) : Capture :=
  ⟨c.start + k, c.stop + k, c.text⟩

def Match.shift (k : Nat) (m : Match) : Match :=
  ⟨m.whole.shift k, m.groups.map (·.map (Capture.shift k))⟩

theorem Match.shift_zero (m : Match) : m.shift 0 = m := by
  obtain ⟨whole, groups⟩ := m
  have hgroups : groups.map (·.map (Capture.shift 0)) = groups :=
    List.map_id'' (fun g => by cases g <;> rfl) groups
  exact congrArg (Match.mk whole) hgroups

section Capture

variable {pre part tail : List Char}

theorem Place.capture_within {p q : Place} (hp : p.In part) (hq : q.In part) :
    (p.within pre tail).capture (q.within pre tail) = (p.capture q).shift (utf8Len pre) := by
  have hpart := hp.index_add
  have hpart' := hq.index_add
  have hindex : q.index + pre.length - (p.index + pre.length) = q.index - p.index :=
    Nat.add_sub_add_right _ _ _
  have htext : (p.within pre tail).textTo (q.within pre tail) = p.textTo q := by
    simp only [textTo, within]
    rw [hindex, List.take_append_of_le_length (by omega)]
  simp only [capture, htext]
  rfl

theorem Slots.lookup_within (slots : Slots) (slot : Nat) :
    (slots.within pre tail).lookup slot = (slots.lookup slot).map (Place.within pre tail) := by
  induction slots with
  | nil => rfl
  | cons x slots ih =>
    rw [within, List.map_cons, List.lookup_cons, List.lookup_cons]
    split
    · rfl
    · exact ih

theorem Slots.mem_of_lookup {slots : Slots} {slot : Nat} {q : Place}
    (h : slots.lookup slot = some q) : (slot, q) ∈ slots := by
  obtain ⟨before, behind, rfl, -⟩ := List.lookup_eq_some_iff.1 h
  exact List.mem_append_right _ (.head _)

theorem Slots.capture?_within {slots : Slots} (hslots : ∀ x ∈ slots, x.2.In part) (index : Nat) :
    (slots.within pre tail).capture? index =
      (slots.capture? index).map (Capture.shift (utf8Len pre)) := by
  unfold capture?
  rw [lookup_within, lookup_within]
  cases hp : slots.lookup (2 * index) with
  | none => rfl
  | some p =>
    cases hq : slots.lookup (2 * index + 1) with
    | none => rfl
    | some q =>
      exact congrArg some
        (Place.capture_within (hslots _ (mem_of_lookup hp)) (hslots _ (mem_of_lookup hq)))

theorem Thread.toMatch_within {q : Place} {t : Thread} (hq : q.In part) (ht : t.In part)
    (groups : Nat) : (t.within pre tail).toMatch groups (q.within pre tail) =
      (t.toMatch groups q).shift (utf8Len pre) := by
  unfold toMatch Match.shift
  rw [List.map_map]
  congr 1
  · exact Place.capture_within hq ht.1
  · exact List.map_congr_left fun i _ => Slots.capture?_within ht.2 (i + 1)

theorem map_toMatch_within {n : Node} {found : List (Place × Thread)}
    (h : ∀ x ∈ found, x.1.In part ∧ x.2.In part ∧ n.attempt x.1 = some x.2) (groups : Nat) :
    (found.map fun x => (x.1.within pre tail, x.2.within pre tail)).map
        (fun x => x.2.toMatch groups x.1) =
      (found.map fun x => x.2.toMatch groups x.1).map (Match.shift (utf8Len pre)) := by
  rw [List.map_map, List.map_map]
  exact List.map_congr_left fun x hx => Thread.toMatch_within (h x hx).1 (h x hx).2.1 groups

end Capture

/-! ## Line ends -/

/-- A line end that stands between two texts as a whole: a carriage return and a line feed behind
it are one line end. -/
inductive LineEnd (a b : String) : String → Prop
  | lf : a.toList.getLast? ≠ some '\r' → LineEnd a b "\n"
  | crlf : LineEnd a b "\r\n"
  | cr : b.toList.head? ≠ some '\n' → LineEnd a b "\r"

namespace LineEnd

variable {a b z : String}

theorem chars (h : LineEnd a b z) : ∀ c ∈ z.toList, isLineEnd c = true := by
  have hall : z.toList.all isLineEnd = true := by cases h <;> rfl
  exact List.all_eq_true.1 hall

theorem front (h : LineEnd a b z) : Lines [] a.toList (z.toList ++ b.toList) := by
  refine ⟨rfl, ?_⟩
  cases h <;> simp_all [Look.holds, Place.within, Place.stop]

theorem back (h : LineEnd a b z) : Lines (a.toList ++ z.toList) b.toList [] := by
  refine ⟨?_, rfl⟩
  cases h <;> simp_all [Look.holds, Place.within, Place.start]

theorem of_append {c : String} (h : LineEnd (a ++ b) c z) : LineEnd b c z := by
  cases h with
  | lf hlast =>
    refine .lf fun hcr => hlast ?_
    rw [String.toList_append, List.getLast?_append, hcr]
    rfl
  | crlf => exact .crlf
  | cr hhead => exact .cr hhead

theorem last (h : LineEnd a b z) : LineEnd a "" z := by
  cases h with
  | lf hlast => exact .lf hlast
  | crlf => exact .crlf
  | cr => exact .cr nofun

end LineEnd

/-- **The matches in two texts with a line end between them** are the matches in the first and those
in the second one. -/
theorem findAll_lines {r : Regex} (hn : r.node.Linewise) (hproductive : r.node.productive = true)
    (hconsumes : r.node.consumes = true) {a b z : String} (h : LineEnd a b z) :
    r.findAll (a ++ z ++ b) =
      r.findAll a ++ (r.findAll b).map (Match.shift (a ++ z).utf8ByteSize) := by
  obtain ⟨foundA, hfindsA, hA⟩ := findAll_finds hproductive hconsumes a
  obtain ⟨foundB, hfindsB, hB⟩ := findAll_finds hproductive hconsumes b
  obtain ⟨found, hfinds, hall⟩ := findAll_finds hproductive hconsumes (a ++ z ++ b)
  have htext : (a ++ z ++ b).toList = a.toList ++ (z.toList ++ b.toList) := by
    rw [String.toList_append, String.toList_append, List.append_assoc]
  have hbehind : r.node.Finds ((Place.stop b.toList).within (a.toList ++ z.toList) []) [] := by
    refine .none ?_
    rw [Program.firstFrom.eq_def, attempt_eq_none hn hconsumes fun c cs hafter => by cases hafter]
    rfl
  have hback := hfindsB.within h.back hn hproductive (.start _) hbehind
  have hmiddle : Program.firstFrom r.node.attempt
      ((Place.start b.toList).within (a.toList ++ z.toList) []) =
      Program.firstFrom r.node.attempt
        ((Place.stop a.toList).within [] (z.toList ++ b.toList)) := by
    have hstop : ((Place.stop a.toList).within [] (z.toList ++ b.toList)).In
        ([] ++ a.toList ++ (z.toList ++ b.toList)) := (Place.In.stop a.toList).within
    have hstart : ((Place.start b.toList).within (a.toList ++ z.toList) []).In
        (a.toList ++ z.toList ++ b.toList ++ []) := (Place.In.start b.toList).within
    rw [List.nil_append, ← List.append_assoc] at hstop
    rw [List.append_nil] at hstart
    exact (firstFrom_lineEnds hn hconsumes h.chars hstop hstart rfl (List.append_nil _)).symm
  have hfront := hfindsA.within h.front hn hproductive (.start _) (hback.congr hmiddle)
  rw [htext] at hfinds
  rw [hall, hfinds.unique hfront, List.map_append, List.map_append,
    map_toMatch_within (hfindsA.attempted (.start _)),
    map_toMatch_within (hfindsB.attempted (.start _)),
    ← hA, ← hB, ← String.toList_append, String.utf8Len_toList, List.map_nil, List.append_nil]
  exact congrArg (· ++ _) (List.map_id'' Match.shift_zero (r.findAll a))

end FirstClaim.Regex
