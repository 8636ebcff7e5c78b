import FirstClaim.Proofs.Text

/-!
# The spans of matches

Whatever the pattern, a search only ever visits places of the text, and only forwards:

* `Place.In`: a place in a text; kept by every step of a thread (`Thread.mem_step`), so by every
  exploration (`explore_inv`) and search (`search_spec`).
* `Match.In`: a match is a part of the text: its offsets are in range, in order and on character
  boundaries, and its text is what stands between them.
* `findAll_ordered`: so is every match in a text; the matches do not overlap and come from left to
  right (`Ordered`).
-/

set_option autoImplicit false

namespace FirstClaim.Regex

open String (utf8Len)

/-! ## Places -/

/-- `p` is a place in `text`. -/
def Place.In (text : List Char) (p : Place) : Prop :=
  ∃ before, text = before ++ p.after ∧ before.length = p.index ∧ utf8Len before = p.offset ∧
    before.getLast? = p.before

namespace Place.In

variable {text : List Char} {p q : Place}

theorem start (text : List Char) : (Place.start text).In text :=
  ⟨[], rfl, rfl, rfl, rfl⟩

theorem advance (h : p.In text) : p.advance.In text := by
  unfold Place.advance
  split
  · exact h
  · rename_i c cs hp
    obtain ⟨before, htext, hindex, hoffset, -⟩ := h
    refine ⟨before ++ [c], ?_, ?_, ?_, by simp⟩
    · rw [htext, hp, List.append_assoc, List.singleton_append]
    · simp [hindex]
    · simp [hoffset]

theorem exists_between (hp : p.In text) (hq : q.In text) (hle : p.index ≤ q.index) :
    ∃ before m, text = before ++ m ++ q.after ∧ p.after = m ++ q.after ∧
      utf8Len before = p.offset ∧ p.offset + utf8Len m = q.offset ∧
      m.length = q.index - p.index := by
  obtain ⟨b, htext, hb, hbs, -⟩ := hp
  obtain ⟨b', htext', hb', hbs', -⟩ := hq
  obtain ⟨m, rfl, hm⟩ := exists_append_of_length_le (htext.symm.trans htext') (by omega)
  rw [String.utf8Len_append] at hbs'
  rw [List.length_append] at hb'
  exact ⟨b, m, htext', hm, hbs, by omega, by omega⟩

theorem offset_le (hp : p.In text) (hq : q.In text) (hle : p.index ≤ q.index) :
    p.offset ≤ q.offset := by
  obtain ⟨_, _, _, _, _, h, _⟩ := hp.exists_between hq hle
  omega

theorem capture (hp : p.In text) (hq : q.In text) (hle : p.index ≤ q.index) :
    IsPart text (p.capture q).start (p.capture q).stop (p.capture q).text.toList := by
  obtain ⟨before, m, htext, hafter, hb, hm, hlen⟩ := hp.exists_between hq hle
  have hcaptured : (p.capture q).text.toList = m := by
    rw [Place.capture, Place.textTo, String.toList_ofList, ← hlen, hafter, List.take_left]
  rw [hcaptured]
  exact ⟨before, q.after, htext, hb, hm⟩

end Place.In

theorem Place.index_le_advance (p : Place) : p.index ≤ p.advance.index := by
  unfold Place.advance
  split
  · exact Nat.le_refl _
  · exact Nat.le_succ _

/-! ## Threads -/

/-- The threads that a step leaves stand where the thread stood or one character further. -/
theorem Thread.mem_step {t t' : Thread} {i : Instr} {threads : List Thread}
    (h : t.step i = .continues threads) (ht' : t' ∈ threads) :
    t'.place = t.place ∨ t'.place = t.place.advance := by
  have hread : ∀ next p, t.read next p = .continues threads →
      t'.place = t.place ∨ t'.place = t.place.advance := by
    intro next p hread
    unfold Thread.read at hread
    split at hread
    · cases hread
      cases ht'
    · cases hread
      split at ht'
      · exact .inr (by rw [List.mem_singleton.1 ht'])
      · cases ht'
  cases i with
  | accept => cases h
  | set s next => exact hread _ _ h
  | char c next => exact hread _ _ h
  | look l next =>
    cases h
    split at ht'
    · exact .inl (by rw [List.mem_singleton.1 ht'])
    · cases ht'
  | save slot next =>
    cases h
    exact .inl (by rw [List.mem_singleton.1 ht'])
  | split first second =>
    cases h
    simp only [List.mem_cons, List.not_mem_nil, or_false] at ht'
    rcases ht' with rfl | rfl <;> exact .inl rfl
  | fail =>
    cases h
    cases ht'

/-- The thread stands at a place of the text, at `p` or behind it. -/
def Thread.Behind (text : List Char) (p : Place) (t : Thread) : Prop :=
  t.place.In text ∧ p.index ≤ t.place.index

theorem Thread.Behind.step {text : List Char} {p : Place} {t t' : Thread} {i : Instr}
    {threads : List Thread} (ht : t.Behind text p) (h : t.step i = .continues threads)
    (ht' : t' ∈ threads) : t'.Behind text p := by
  rcases Thread.mem_step h ht' with hplace | hplace
  · exact ⟨hplace ▸ ht.1, hplace ▸ ht.2⟩
  · exact ⟨hplace ▸ ht.1.advance, hplace ▸ Nat.le_trans ht.2 t.place.index_le_advance⟩

/-! ## Searches -/

namespace Program

/-- What every step keeps holds of the thread that accepts. -/
theorem explore_inv {p : Program} {P : Thread → Prop}
    (hstep : ∀ t i threads, P t → t.step i = .continues threads → ∀ t' ∈ threads, P t')
    {fuel : Nat} {todo : List Thread} {tried : Tried} {t : Thread} (htodo : ∀ t ∈ todo, P t)
    (h : (p.explore fuel todo tried).1 = some t) : P t := by
  fun_induction explore p fuel todo tried with
  | case1 => cases h
  | case2 => cases h
  | case3 fuel s todo tried _ ih => exact ih (fun t ht => htodo t (.tail _ ht)) h
  | case4 fuel s todo tried =>
    obtain rfl : s = t := Option.some.inj h
    exact htodo _ (.head _)
  | case5 fuel s todo tried _ _ threads hs ih =>
    refine ih (fun t ht => ?_) h
    rcases List.mem_append.1 ht with ht | ht
    · exact hstep s _ threads (htodo s (.head _)) hs t ht
    · exact htodo t (.tail _ ht)

/-- A match that is found from a place on begins there or later and ends no earlier. -/
theorem searchFrom_spec {p : Program} {text : List Char} {fuel : Nat} {place q : Place}
    {tried : Tried} {t : Thread} (hplace : place.In text)
    (h : p.searchFrom fuel place tried = some (q, t)) :
    q.In text ∧ place.index ≤ q.index ∧ t.Behind text q := by
  fun_induction searchFrom p fuel place tried with
  | case1 place tried s _ hs =>
    simp only [Option.some.injEq, Prod.mk.injEq] at h
    obtain ⟨rfl, rfl⟩ := h
    refine ⟨hplace, Nat.le_refl _, explore_inv (fun s i threads hs h t' => hs.step h)
      (fun s hs => ?_) (congrArg Prod.fst ‹_›)⟩
    rw [List.mem_singleton.1 hs]
    exact ⟨hplace, Nat.le_refl _⟩
  | case2 => cases h
  | case3 place tried _ _ _ _ ih =>
    obtain ⟨hq, hle, ht⟩ := ih hplace.advance h
    exact ⟨hq, Nat.le_trans place.index_le_advance hle, ht⟩

theorem search_spec {p : Program} {text : List Char} {place q : Place} {t : Thread}
    (hplace : place.In text) (h : p.search place = some (q, t)) :
    q.In text ∧ place.index ≤ q.index ∧ t.Behind text q :=
  searchFrom_spec hplace h

end Program

/-! ## All matches -/

/-- The match is a part of the text. -/
def Match.In (text : List Char) (m : Match) : Prop :=
  IsPart text m.whole.start m.whole.stop m.whole.text.toList

/-- Matches that lie in a text behind a byte and come from left to right. -/
structure Ordered (text : List Char) (position : Nat) (ms : List Match) : Prop where
  parts : ∀ m ∈ ms, m.In text
  behind : ∀ m ∈ ms, position ≤ m.whole.start
  apart : ms.Pairwise fun m n => m.whole.stop ≤ n.whole.start

theorem Ordered.nil (text : List Char) (position : Nat) : Ordered text position [] :=
  ⟨by simp, by simp, .nil⟩

theorem Ordered.cons {text : List Char} {position : Nat} {m : Match} {ms : List Match}
    (hm : m.In text) (hle : position ≤ m.whole.start) (h : Ordered text m.whole.stop ms) :
    Ordered text position (m :: ms) where
  parts := by simpa [hm] using h.parts
  behind := by
    have hstop : position ≤ m.whole.stop := Nat.le_trans hle (IsPart.start_le hm)
    simpa [hle] using fun n hn => Nat.le_trans hstop (h.behind n hn)
  apart := List.pairwise_cons.2 ⟨h.behind, h.apart⟩

theorem Ordered.tail {text : List Char} {position : Nat} {m : Match} {ms : List Match}
    (h : Ordered text position (m :: ms)) : Ordered text m.whole.stop ms where
  parts n hn := h.parts n (.tail _ hn)
  behind := (List.pairwise_cons.1 h.apart).1
  apart := (List.pairwise_cons.1 h.apart).2

theorem Ordered.rest {text : List Char} {position : Nat} {m : Match} {ms : List Match}
    (h : Ordered text position (m :: ms)) : Ordered text position ms :=
  ⟨h.tail.parts, fun n hn => h.behind n (.tail _ hn), h.tail.apart⟩

namespace Program

theorem matchesFrom_ordered {p : Program} {text : List Char} {groups : Nat} :
    ∀ {n : Nat} {place : Place} {last : Option Nat}, place.In text →
      Ordered text place.offset (p.matchesFrom groups n place last)
  | 0, _, _, _ => .nil _ _
  | n + 1, place, last, hplace => by
    simp only [matchesFrom]
    split
    · exact .nil _ _
    · rename_i q t h
      -- the second search, behind an empty match, begins one character further
      have hfound : q.In text ∧ place.index ≤ q.index ∧ t.Behind text q := by
        split at h
        · rename_i hs
          split at h
          · split at h
            · cases h
            · obtain ⟨hq, hle, ht⟩ := search_spec hplace.advance h
              exact ⟨hq, Nat.le_trans place.index_le_advance hle, ht⟩
          · cases h
            exact search_spec hplace hs
        · cases h
      obtain ⟨hq, hle, ht, hqt⟩ := hfound
      exact .cons (hq.capture ht hqt) (hplace.offset_le hq hle) (matchesFrom_ordered ht)

end Program

/-- **The matches in a text are parts of it and come from left to right.** -/
theorem findAll_ordered (r : Regex) (text : String) : Ordered text.toList 0 (r.findAll text) :=
  Program.matchesFrom_ordered (.start _)

end FirstClaim.Regex
