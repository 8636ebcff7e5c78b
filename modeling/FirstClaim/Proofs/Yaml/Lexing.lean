import FirstClaim.Yaml.Lexer
import FirstClaim.Proofs.Yaml.PlainScalars

/-!
# Tokens given out

`Lexer.Gives s kinds s'`: from the state `s` on, tokens of these kinds are given out, and then the
state is `s'`. Tokens wait in the queue only until no key can begin with the first of them; then the
whole queue is given out (`Lexer.readAll_queue`). The steps taken are paid for by the characters
passed over, eight for each.

`Lexer.Before` describes the states between two lines: all blocks are known, and the next token
stands in a known column.
-/

set_option autoImplicit false

namespace FirstClaim.Yaml

namespace Lexer

/-! ## Giving out tokens -/

/-- Tokens of these kinds are given out between two states, in no more steps than the characters
passed over pay for. -/
def Gives (s : Lexer) (kinds : List TokenKind) (s' : Lexer) : Prop :=
  ∃ (ts : List Token) (n : Nat), ts.map (·.kind) = kinds ∧
    n + 8 * s'.cursor.rest.length ≤ 8 * s.cursor.rest.length ∧
    ∀ fuel before, readAll (fuel + n) before s = readAll fuel (ts.reverse ++ before) s'

/-- Tokens of these kinds are given out up to the end of the text. -/
def Ends (s : Lexer) (kinds : List TokenKind) : Prop :=
  ∃ (ts : List Token) (n : Nat), ts.map (·.kind) = kinds ∧
    n ≤ 8 * s.cursor.rest.length + 8 ∧
    ∀ fuel before, readAll (fuel + n) before s = (before.reverse ++ ts, none)

theorem Gives.refl (s : Lexer) : Gives s [] s :=
  ⟨[], 0, rfl, Nat.le_of_eq (Nat.zero_add _), fun _ _ => rfl⟩

theorem Gives.trans {s₁ s₂ s₃ : Lexer} {kinds kinds' : List TokenKind} (h : Gives s₁ kinds s₂)
    (h' : Gives s₂ kinds' s₃) : Gives s₁ (kinds ++ kinds') s₃ := by
  obtain ⟨ts, n, rfl, hcost, hread⟩ := h
  obtain ⟨ts', n', rfl, hcost', hread'⟩ := h'
  refine ⟨ts ++ ts', n' + n, List.map_append, by omega, fun fuel before => ?_⟩
  rw [← Nat.add_assoc, hread, hread', List.reverse_append, List.append_assoc]

theorem Gives.ends {s s' : Lexer} {kinds kinds' : List TokenKind} (h : Gives s kinds s')
    (h' : Ends s' kinds') : Ends s (kinds ++ kinds') := by
  obtain ⟨ts, n, rfl, hcost, hread⟩ := h
  obtain ⟨ts', n', rfl, hcost', hread'⟩ := h'
  refine ⟨ts ++ ts', n' + n, List.map_append, by omega, fun fuel before => ?_⟩
  rw [← Nat.add_assoc, hread, hread', List.reverse_append, List.reverse_reverse, List.append_assoc]

/-! ## Keys -/

theorem dropStaleKeys_eq {s : Lexer} (h : ∀ key ∈ s.keys, s.dropIfStale key = .ok key) :
    s.dropStaleKeys = .ok s := by
  have hkeep : ∀ keys : List (Option SimpleKey), (∀ key ∈ keys, s.dropIfStale key = .ok key) →
      keys.mapM s.dropIfStale = .ok keys := by
    intro keys hkeys
    induction keys with
    | nil => rfl
    | cons key keys ih =>
      rw [List.mapM_cons, hkeys key (.head _), ih fun other hother => hkeys other (.tail _ hother)]
      rfl
  have hreverse := hkeep s.keys.reverse fun key hkey => h key (List.mem_reverse.1 hkey)
  rw [dropStaleKeys, hreverse]
  simp [bind, Except.bind]

/-- No key has begun. -/
def Keyless (s : Lexer) : Prop :=
  ∀ key ∈ s.keys, key = none

theorem keyless_of_keys {s : Lexer} (h : s.keys = [none]) : s.Keyless := by
  intro key hkey
  rw [h] at hkey
  exact List.mem_singleton.1 hkey

theorem Keyless.dropStaleKeys {s : Lexer} (h : s.Keyless) : s.dropStaleKeys = .ok s :=
  dropStaleKeys_eq fun key hkey => by rw [h key hkey, dropIfStale]

theorem Keyless.isPending {s : Lexer} (h : s.Keyless) : s.isPending = s.queue.isEmpty := by
  have hkeys : (s.keys.any fun key => (key.map fun k => k.token == s.given).getD false) =
      false := by
    rw [List.any_eq_false]
    intro key hkey
    simp [h key hkey]
  rw [Lexer.isPending, hkeys, Bool.or_false]

/-! ## Single steps -/

theorem readAll_pending {s s' : Lexer} (hchecked : s.queue = [] ∨ s.dropStaleKeys = .ok s)
    (hpending : s.isPending = true) (hread : s.readNext = .ok s') (fuel : Nat)
    (before : List Token) : readAll (fuel + 1) before s = readAll fuel before s' := by
  have hchecked : (if s.queue.isEmpty then .ok s else s.dropStaleKeys) = .ok s := by
    rcases hchecked with hqueue | hkeys
    · rw [hqueue]
      rfl
    · rw [hkeys, ite_self]
  rw [readAll, hchecked]
  dsimp only
  rw [if_pos hpending, hread]

/-- Where no key has begun, the queue is given out up to the end of the text. -/
theorem readAll_queue {s : Lexer} (hkeys : s.Keyless) {ts : List Token}
    (hend : ∀ t ∈ ts, t.kind ≠ .streamEnd) (behind : List Token) (hqueue : s.queue = ts ++ behind)
    (fuel : Nat) (before : List Token) :
    readAll (fuel + ts.length) before s = readAll fuel (ts.reverse ++ before)
      { s with queue := behind, given := s.given + ts.length } := by
  obtain ⟨cursor, indent, indents, allowed, keys, queue, given⟩ := s
  obtain rfl : queue = ts ++ behind := hqueue
  induction ts generalizing before given with
  | nil => rfl
  | cons t ts ih =>
    have hkeep := hkeys.dropStaleKeys
    have hpending := hkeys.isPending
    dsimp only [List.cons_append] at hkeep hpending ⊢
    rw [List.length_cons, ← Nat.add_assoc, readAll]
    dsimp only [List.isEmpty_cons]
    rw [if_neg Bool.false_ne_true, hkeep]
    dsimp only
    rw [hpending]
    dsimp only [List.isEmpty_cons]
    rw [if_neg Bool.false_ne_true, if_neg (hend t (.head _))]
    have hrest := ih (fun u hu => hend u (.tail _ hu)) (t :: before) (given + 1) hkeys
    rw [hrest, List.reverse_cons, List.append_assoc, Nat.add_assoc, Nat.add_comm 1]
    rfl

/-- A read after which no key has begun gives out what was read. -/
theorem Gives.of_readNext {s s' : Lexer} (hqueue : s.queue = []) (hread : s.readNext = .ok s')
    (hkeys : s'.Keyless) (hend : ∀ t ∈ s'.queue, t.kind ≠ .streamEnd)
    (hcost : 1 + s'.queue.length + 8 * s'.cursor.rest.length ≤ 8 * s.cursor.rest.length) :
    Gives s (s'.queue.map (·.kind))
      { s' with queue := [], given := s'.given + s'.queue.length } := by
  refine ⟨s'.queue, s'.queue.length + 1, rfl, by dsimp only; omega, fun fuel before => ?_⟩
  have hpending : s.isPending = true := by simp [isPending, hqueue]
  rw [← Nat.add_assoc, readAll_pending (.inl hqueue) hpending hread,
    readAll_queue hkeys hend [] (List.append_nil _).symm]

/-- A read after which a key may have begun is followed by another one. -/
theorem Gives.of_readNext₂ {s s₁ s' : Lexer} (hqueue : s.queue = []) (hread : s.readNext = .ok s₁)
    (hkept : s₁.dropStaleKeys = .ok s₁) (hpending : s₁.isPending = true)
    (hread₁ : s₁.readNext = .ok s') (hkeys : s'.Keyless)
    (hend : ∀ t ∈ s'.queue, t.kind ≠ .streamEnd)
    (hcost : 2 + s'.queue.length + 8 * s'.cursor.rest.length ≤ 8 * s.cursor.rest.length) :
    Gives s (s'.queue.map (·.kind))
      { s' with queue := [], given := s'.given + s'.queue.length } := by
  refine ⟨s'.queue, s'.queue.length + 1 + 1, rfl, by dsimp only; omega, fun fuel before => ?_⟩
  have hfirst : s.isPending = true := by simp [isPending, hqueue]
  rw [← Nat.add_assoc, readAll_pending (.inl hqueue) hfirst hread, ← Nat.add_assoc,
    readAll_pending (.inr hkept) hpending hread₁,
    readAll_queue hkeys hend [] (List.append_nil _).symm]

theorem Ends.of_readNext {s s' : Lexer} (hqueue : s.queue = []) (hread : s.readNext = .ok s')
    (hkeys : s'.Keyless) {ts : List Token} (hend : ∀ t ∈ ts, t.kind ≠ .streamEnd) {last : Token}
    (hlast : last.kind = .streamEnd) (hread' : s'.queue = ts ++ [last])
    (hcost : ts.length ≤ 6) : Ends s (ts.map (·.kind) ++ [.streamEnd]) := by
  refine ⟨ts ++ [last], 1 + ts.length + 1, by simp [hlast], by omega, fun fuel before => ?_⟩
  have hpending : s.isPending = true := by simp [isPending, hqueue]
  rw [← Nat.add_assoc, readAll_pending (.inl hqueue) hpending hread, ← Nat.add_assoc,
    readAll_queue hkeys hend [last] hread', readAll]
  have hlastKeys : Keyless { s' with queue := [last], given := s'.given + ts.length } := hkeys
  dsimp only [List.isEmpty_cons]
  rw [if_neg Bool.false_ne_true, hlastKeys.dropStaleKeys]
  dsimp only
  rw [hlastKeys.isPending]
  simp [hlast]

/-! ## Passing to the next token -/

/-- A token may begin with the character, which is not passed over. -/
def beginsToken : List Char → Bool
  | [] => true
  | c :: _ => isVisible c && c ≠ '#' && c ≠ '\ufeff'

theorem startsVisible_of_beginsToken {rest : List Char} (h : beginsToken rest = true) :
    startsVisible rest = true := by
  cases rest with
  | nil => rfl
  | cons c rest =>
    simp only [beginsToken, Bool.and_eq_true] at h
    exact h.1.1

theorem skipToToken_spaces {rest : List Char} (h : beginsToken rest = true) (flow allowed : Bool)
    (n fuel : Nat) (m : Mark) :
    skipToToken flow (fuel + 1) allowed ⟨spaces n ++ rest, m⟩ = (allowed, ⟨rest, m.forward n⟩) := by
  have hmark : (spaces n ++ rest).head? ≠ some '\ufeff' := by
    cases n with
    | zero =>
      cases rest with
      | nil => simp [spaces]
      | cons c rest =>
        simp only [beginsToken, Bool.and_eq_true, decide_eq_true_eq] at h
        simpa [spaces] using h.2
    | succ n => simp [spaces_succ]
  have hstop : rest.head?.all
      (fun c => !(decide (c = ' ') || ((flow || !allowed) && decide (c = '\t')))) = true := by
    cases rest with
    | nil => rfl
    | cons c rest =>
      simp only [beginsToken, Bool.and_eq_true, isVisible_iff] at h
      have hblank : isBlank c = false := h.1.1.1
      simp only [isBlank, Bool.or_eq_false_iff] at hblank
      simp [hblank]
  have hspaces : ∀ c ∈ spaces n,
      (decide (c = ' ') || ((flow || !allowed) && decide (c = '\t'))) = true := fun c hc => by
    simp [List.eq_of_mem_replicate hc]
  have hskip := Cursor.skipWhile_append m hspaces hstop
  rw [length_spaces] at hskip
  rw [skipToToken]
  simp only [Cursor.head?, hmark, and_false, if_false, Cursor.dropWhile, Bool.and_eq_true,
    decide_eq_true_eq]
  rw [hskip]
  cases rest with
  | nil => rfl
  | cons c rest =>
    simp only [beginsToken, Bool.and_eq_true, decide_eq_true_eq, isVisible_iff] at h
    simp [h]

theorem skipToToken_newLine {rest : List Char} (h : beginsToken rest = true) (allowed : Bool)
    (n fuel : Nat) (m : Mark) :
    skipToToken false (fuel + 2) allowed ⟨'\n' :: (spaces n ++ rest), m⟩ =
      (true, ⟨rest, (m.nextLine 1).forward n⟩) := by
  have hline := skipToToken_spaces h false true n fuel (m.nextLine 1)
  rw [skipToToken]
  simpa [Cursor.head?, Cursor.dropWhile, Cursor.skipWhile, isBreak,
    Cursor.takeBreak_eq (c := '\n') rfl rfl] using hline

/-! ## States between two tokens -/

/-- Outside of brackets, what was read was given out and no key has begun. -/
def resting (indent : Int) (indents : List Int) (allowed : Bool) (c : Cursor) (given : Nat) :
    Lexer :=
  { cursor := c, indent, indents, keyAllowed := allowed, given }

/-- A state between two tokens, of which the next one stands in the column `k` and a key may begin
with it. -/
def Before (indent : Int) (indents : List Int) (k : Nat) (rest : List Char) (s : Lexer) : Prop :=
  ∃ allowed c given m, s = resting indent indents allowed c given ∧
    rest.length ≤ c.rest.length ∧ m.column = k ∧
    skipToToken false (c.rest.length + 1) allowed c = (true, ⟨rest, m⟩)

section

variable {indent : Int} {indents : List Int} {k : Nat} {rest : List Char}

/-- A read outside of brackets after which no key has begun gives out what was read. -/
theorem gives_resting {s : Lexer} {allowed : Bool} {c : Cursor} {given : Nat} {ts : List Token}
    (hqueue : s.queue = [])
    (hread : s.readNext = .ok { resting indent indents allowed c given with queue := ts })
    (hend : ∀ t ∈ ts, t.kind ≠ .streamEnd)
    (hcost : 1 + ts.length + 8 * c.rest.length ≤ 8 * s.cursor.rest.length) :
    Gives s (ts.map (·.kind)) (resting indent indents allowed c (given + ts.length)) :=
  Gives.of_readNext hqueue hread (keyless_of_keys rfl) hend hcost

theorem before_spaces (indent : Int) (indents : List Int) (h : beginsToken rest = true) {m : Mark}
    {n : Nat} (hk : m.column + n = k) (given : Nat) :
    Before indent indents k rest (resting indent indents true ⟨spaces n ++ rest, m⟩ given) := by
  refine ⟨_, _, _, m.forward n, rfl, by simp, hk, ?_⟩
  exact skipToToken_spaces h false true n _ m

theorem before_newLine (indent : Int) (indents : List Int) (h : beginsToken rest = true) (m : Mark)
    (allowed : Bool) (k given : Nat) : Before indent indents k rest
      (resting indent indents allowed ⟨'\n' :: (spaces k ++ rest), m⟩ given) := by
  refine ⟨_, _, _, (m.nextLine 1).forward k, rfl, by simp; omega, Nat.zero_add k, ?_⟩
  exact skipToToken_newLine h allowed k _ m

/-- Passing to a token keeps what is known of keys, and blocks behind its column are closed. -/
theorem readNext_eq {s : Lexer} {allowed : Bool} {c : Cursor}
    (hskip : skipToToken s.inFlow (s.cursor.rest.length + 1) s.keyAllowed s.cursor = (allowed, c))
    (hkeys : { s with keyAllowed := allowed, cursor := c }.dropStaleKeys =
      .ok { s with keyAllowed := allowed, cursor := c }) :
    s.readNext = match c.rest with
      | [] => ({ s with keyAllowed := allowed, cursor := c }.closeBlocks c.column).readEnd
      | x :: rest =>
        ({ s with keyAllowed := allowed, cursor := c }.closeBlocks c.column).readToken x rest := by
  rw [readNext, hskip]
  dsimp only [bind, Except.bind]
  rw [hkeys]
  rfl

theorem closeBlocks_eq {s : Lexer} {column : Int} (h : s.indent ≤ column) :
    s.closeBlocks column = s := by
  have hstay : ∀ indents, s.closeBlocksIn column indents = s := by
    intro indents
    cases indents with
    | nil => rfl
    | cons outer indents => exact if_neg (Int.not_lt.2 h)
  unfold closeBlocks
  rw [hstay, ite_self]

/-- The read of a token between two lines. -/
theorem Before.readNext {x : Char} {s : Lexer} (h : Before indent indents k (x :: rest) s) :
    ∃ m given, m.column = k ∧ (x :: rest).length ≤ s.cursor.rest.length ∧ s.queue = [] ∧
      s.readNext =
        ((resting indent indents true ⟨x :: rest, m⟩ given).closeBlocks k).readToken x rest := by
  obtain ⟨allowed, c, given, m, rfl, hlength, rfl, hskip⟩ := h
  refine ⟨m, given, rfl, hlength, rfl, ?_⟩
  exact readNext_eq (s := resting indent indents allowed c given) hskip
    (keyless_of_keys rfl).dropStaleKeys

end

/-! ## Names -/

theorem startsWithIndicator_eq_false {c d : Char} (h : c ≠ d) (rest : List Char) :
    startsWithIndicator d (c :: rest) = false := by
  rcases rest with - | ⟨y, - | ⟨z, rest⟩⟩ <;> simp [startsWithIndicator, h]

theorem beginsPlain_eq {c : Char} {rest : List Char} (hvisible : isVisible c = true)
    (hindicator : isIndicator c = false)
    (hword : c = '-' ∨ c = '?' ∨ c = ':' → startsBlank rest = false) :
    beginsPlain false c rest = true := by
  unfold beginsPlain
  split
  · have hrest := hword (.inl ‹_›)
    cases rest with
    | nil => rfl
    | cons d rest =>
      simp only [startsBlank, Bool.or_eq_false_iff] at hrest
      simp [hrest]
  · split
    · rename_i _ hc
      simp [hword (.inr (by simpa using hc))]
    · simpa [isVisible, hindicator] using hvisible

theorem readToken_plain {s : Lexer} {c : Char} {rest : List Char} (hflow : s.inFlow = false)
    (hvisible : isVisible c = true) (hindicator : isIndicator c = false)
    (hword : c = '-' ∨ c = '?' ∨ c = ':' → startsBlank rest = false)
    (hdocument : s.mark.column ≠ 0 ∨ c ≠ '-' ∧ c ≠ '.') : s.readToken c rest = s.readPlain := by
  have hne : ∀ d, isIndicator d = true → c ≠ d := by
    rintro d hd rfl
    rw [hd] at hindicator
    cases hindicator
  have hborder : ∀ d, d = '-' ∨ d = '.' →
      (decide (s.mark.column = 0) && startsWithIndicator d (c :: rest)) = false := by
    intro d hd
    rcases hdocument with hcolumn | ⟨hhyphen, hpoint⟩
    · simp [hcolumn]
    · rcases hd with rfl | rfl
      · simp [startsWithIndicator_eq_false hhyphen]
      · simp [startsWithIndicator_eq_false hpoint]
  have hblank : ∀ d, d = '-' ∨ d = '?' ∨ d = ':' →
      (decide (c = d) && startsBlank rest) = false := by
    intro d hd
    by_cases hc : c = d
    · subst hc
      simp [hword hd]
    · simp [hc]
  unfold readToken
  simp only [hflow, Bool.false_or, hborder _ (.inl rfl), hborder _ (.inr rfl), hblank _ (.inl rfl),
    hblank _ (.inr (.inl rfl)), hblank _ (.inr (.inr rfl)), hne '%' rfl, hne '[' rfl, hne '{' rfl,
    hne ']' rfl, hne '}' rfl, hne ',' rfl, hne '*' rfl, hne '&' rfl, hne '!' rfl, hne '|' rfl,
    hne '>' rfl, hne '\'' rfl, hne '"' rfl, beginsPlain_eq hvisible hindicator hword,
    decide_false, Bool.and_false, Bool.false_and, Bool.false_eq_true, if_false, if_true]

theorem isIndicator_eq_false {c : Char} (h : c.isLower = true) : isIndicator c = false := by
  have hflow : isFlowIndicator c = false := by
    simp [isFlowIndicator, ne_of_isLower h (d := ',') rfl, ne_of_isLower h (d := '[') rfl,
      ne_of_isLower h (d := ']') rfl, ne_of_isLower h (d := '{') rfl,
      ne_of_isLower h (d := '}') rfl]
  unfold isIndicator
  rw [hflow, Bool.false_or, List.contains_eq_mem, decide_eq_false_iff_not]
  intro hmem
  have hlower := List.all_eq_true.1 (show List.all _ (!·.isLower) = true by decide) c hmem
  simp [h] at hlower

theorem readPlain_eq {s s' : Lexer} {scalar : Scalar} {c : Cursor} (hnote : s.noteKey = .ok s')
    (hread : Yaml.readPlain s'.inFlow (s'.indent + 1).toNat s'.cursor = .ok (scalar, c)) :
    s.readPlain = .ok { s'.push (.scalar scalar.text .plain) s'.mark scalar.stop with
      keyAllowed := scalar.broken, cursor := c } := by
  rw [readPlain, hnote]
  dsimp only [bind, Except.bind]
  rw [hread]

/-- A name at the mark `m` was read, and a key may have begun with it. -/
def named (indent : Int) (indents : List Int) (name rest : List Char) (m : Mark) (given : Nat) :
    Lexer :=
  { resting indent indents false ⟨':' :: rest, m.forward name.length⟩ given with
    keys := [some ⟨indent == m.column, given, m⟩],
    queue := [⟨.scalar (String.ofList name) .plain, m, m.forward name.length⟩] }

section Names

variable {indent : Int} {indents : List Int} {name rest : List Char} {m : Mark} {given : Nat}

theorem readToken_name {x : Char} {w : List Char} (hname : isName (x :: w) = true)
    (hrest : startsBlank rest = true) (hindent : indent ≤ m.column) (indents : List Int)
    (given : Nat) :
    (resting indent indents true ⟨x :: (w ++ ':' :: rest), m⟩ given).readToken x
        (w ++ ':' :: rest) =
      .ok (named indent indents (x :: w) rest m given) := by
  have hx : x.isLower = true := by
    simp [isName] at hname
    exact hname.1.1
  have hword : x = '-' ∨ x = '?' ∨ x = ':' → startsBlank (w ++ ':' :: rest) = false := by
    rintro (rfl | rfl | rfl) <;> cases hx
  have hcolumn : (indent + 1).toNat ≤ m.column + 1 := by omega
  have hread := readPlain_name (m := m) hname hrest hcolumn
  rw [readToken_plain rfl (isVisible_of_isLower hx) (isIndicator_eq_false hx) hword
    (.inr ⟨ne_of_isLower hx rfl, ne_of_isLower hx rfl⟩)]
  have hnote : (resting indent indents true ⟨x :: (w ++ ':' :: rest), m⟩ given).noteKey =
      .ok ((resting indent indents true ⟨x :: (w ++ ':' :: rest), m⟩ given).setKey
        (some ⟨indent == m.column, given, m⟩)) := rfl
  exact readPlain_eq hnote hread

/-- A key that has begun with a name is not given up before the colon. -/
theorem named_dropStaleKeys (hname : isName name = true) :
    (named indent indents name rest m given).dropStaleKeys =
      .ok (named indent indents name rest m given) := by
  have hlength : name.length ≤ 1024 := by
    simp [isName] at hname
    exact hname.2
  refine dropStaleKeys_eq fun key hkey => ?_
  obtain rfl := List.mem_singleton.1 hkey
  have hfresh : (named indent indents name rest m given).isStale
      ⟨indent == m.column, given, m⟩ = false := by
    simp [isStale, named, resting, mark, Mark.forward]
    omega
  simp [dropIfStale, hfresh]

theorem isPending_named : (named indent indents name rest m given).isPending = true := by
  simp [isPending, named, resting]

/-- The blocks that are open where a mapping has a name in the column `k`. -/
def opened (indent : Int) (indents : List Int) (k : Nat) : List Int :=
  if indent < k then indent :: indents else indents

/-- The token that opens the mapping before its first name. -/
def opening (indent : Int) (k : Nat) : List TokenKind :=
  if indent < k then [.blockMappingStart] else []

/-- The tokens up to the colon behind a name. -/
def nameTokens (indent : Int) (name : List Char) (m : Mark) : List Token :=
  (opening indent m.column).map (fun kind => ⟨kind, m, m⟩) ++ [⟨.key, m, m⟩,
    ⟨.scalar (String.ofList name) .plain, m, m.forward name.length⟩,
    ⟨.value, m.forward name.length, (m.forward name.length).next⟩]

theorem kinds_nameTokens (indent : Int) (name : List Char) (m : Mark) :
    (nameTokens indent name m).map (·.kind) =
      opening indent m.column ++ [.key, .scalar (String.ofList name) .plain, .value] := by
  simp [nameTokens, Function.comp_def]

/-- A name is a key when the colon is found behind it. -/
theorem named_readNext (hname : isName name = true) (hrest : startsBlank rest = true)
    (hindent : indent ≤ m.column) : (named indent indents name rest m given).readNext =
      .ok { resting m.column (opened indent indents m.column) false
              ⟨rest, (m.forward name.length).next⟩ given with
            queue := nameTokens indent name m } := by
  have hbegins : beginsToken (':' :: rest) = true := rfl
  have hskip := skipToToken_spaces hbegins false false 0 (rest.length + 1) (m.forward name.length)
  have hread := readNext_eq (s := named indent indents name rest m given) hskip
    (named_dropStaleKeys hname)
  have hcolumn : indent ≤ (m.forward name.length).column := by
    simp
    omega
  have hcolon : ∀ s : Lexer, s.readToken ':' rest = s.readColon := by
    intro s
    simp [readToken, startsWithIndicator_eq_false, hrest]
  rw [hread]
  dsimp only [Mark.forward_zero]
  rw [closeBlocks_eq hcolumn, hcolon]
  by_cases hopen : indent < m.column
  · have hbehind : ¬ (m.column : Int) ≤ indent := Int.not_le.2 hopen
    simp [readColon, currentKey?, named, resting, insert, openMappingAt, indented, inFlow, take,
      push, setKey, mark, hopen, hbehind, opened, opening, nameTokens, Cursor.advanceBy,
      Cursor.advance]
  · obtain rfl : indent = m.column := by omega
    simp [readColon, currentKey?, named, resting, insert, openMappingAt, indented, inFlow, take,
      push, setKey, mark, opened, opening, nameTokens, Cursor.advanceBy, Cursor.advance]

/-- **The name of a member is given out as a key**, and the state is then behind its colon. -/
theorem Before.gives_name {k : Nat} {s : Lexer}
    (h : Before indent indents k (name ++ ':' :: rest) s) (hname : isName name = true)
    (hrest : startsBlank rest = true) (hindent : indent ≤ k) :
    ∃ m given, k < m.column ∧ Gives s (opening indent k ++
        [.key, .scalar (String.ofList name) .plain, .value])
      (resting k (opened indent indents k) false ⟨rest, m⟩ given) := by
  obtain ⟨x, w, rfl⟩ : ∃ x w, name = x :: w :=
    List.exists_cons_of_ne_nil (by rintro rfl; cases hname)
  rw [List.cons_append] at h
  obtain ⟨m, given, rfl, hlength, hqueue, hread⟩ := h.readNext
  have hfirst :
      (resting indent indents true ⟨x :: (w ++ ':' :: rest), m⟩ given).indent ≤ m.column :=
    hindent
  rw [closeBlocks_eq hfirst, readToken_name hname hrest hindent] at hread
  have hend : ∀ t ∈ nameTokens indent (x :: w) m, t.kind ≠ .streamEnd := by
    intro t ht hkind
    have hmem := List.mem_map_of_mem (f := (·.kind)) ht
    rw [kinds_nameTokens, hkind, opening] at hmem
    split at hmem <;> simp at hmem
  have hcost : 2 + (nameTokens indent (x :: w) m).length + 8 * rest.length ≤
      8 * s.cursor.rest.length := by
    have hfew : (nameTokens indent (x :: w) m).length ≤ 4 := by
      unfold nameTokens opening
      split <;> simp
    simp at hlength
    omega
  have hgives : Gives s ((nameTokens indent (x :: w) m).map (·.kind))
      (resting m.column (opened indent indents m.column) false
        ⟨rest, (m.forward (x :: w).length).next⟩
        (given + (nameTokens indent (x :: w) m).length)) :=
    Gives.of_readNext₂ hqueue hread (named_dropStaleKeys hname) isPending_named
      (named_readNext hname hrest hindent) (keyless_of_keys rfl) hend hcost
  rw [kinds_nameTokens] at hgives
  exact ⟨_, _, Nat.lt_succ_of_le (Nat.le_add_right _ _), hgives⟩

end Names

end Lexer

end FirstClaim.Yaml
