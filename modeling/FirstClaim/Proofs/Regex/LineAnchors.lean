import FirstClaim.Proofs.Regex.Reading
import FirstClaim.Regex.Basic

/-!
# Line anchors

The flag for lines is only ever read by line anchors, so a pattern without them means the same
whether the flag is set or not.

* `Ast.hasLineAnchor`: somewhere in a pattern as written stands a line anchor. Signs in classes,
  behind backslashes or in comments are none.
* `Agrees`: two interpretations fail alike, or give the same and go on with flags that differ in the
  flag for lines only; `Ast.interpretFrom_agrees` by induction on the pattern.
* `Reader.Plain`: what a reader holds has no line anchor and what is left has no sign of one; each
  step keeps it (`Plain.step`), so a source without the signs has no line anchors
  (`hasLineAnchor_of_signFree`).
-/

set_option autoImplicit false

namespace FirstClaim.Regex

/-! ## Patterns without line anchors -/

mutual

/-- A line anchor stands in a pattern. -/
def Ast.hasLineAnchor : Ast → Bool
  | .assertion _ kind => kind.isLineAnchor
  | .repetition _ _ _ _ sub => sub.hasLineAnchor
  | .group _ _ sub => sub.hasLineAnchor
  | .alternation _ branches => Ast.anyLineAnchor branches
  | .concat _ items => Ast.anyLineAnchor items
  | .empty _ | .flags _ _ | .literal _ | .dot _ | .shorthand _ | .property _
  | .bracketed _ _ _ => false

def Ast.anyLineAnchor : List Ast → Bool
  | [] => false
  | a :: rest => a.hasLineAnchor || Ast.anyLineAnchor rest

end

def Ast.AllPlain (parts : List Ast) : Prop :=
  ∀ a ∈ parts, a.hasLineAnchor = false

theorem anyLineAnchor_eq_false {parts : List Ast} (h : Ast.AllPlain parts) :
    Ast.anyLineAnchor parts = false := by
  induction parts with
  | nil => rfl
  | cons a rest ih =>
    obtain ⟨ha, hrest⟩ := List.forall_mem_cons.1 h
    rw [Ast.anyLineAnchor, ha, ih hrest]
    rfl

theorem Atom.hasLineAnchor_toAst (a : Atom) : a.toAst.hasLineAnchor = a.isLineAnchor := by
  cases a <;> rfl

/-! ## What the flag for lines is for -/

/-- The flags with the one for lines as given. -/
def Mode.withLines (m : Mode) (b : Bool) : Mode :=
  { m with multiLine := b }

/-- Two interpretations fail alike, or give the same and go on with flags that differ in the flag
for lines only. -/
inductive Agrees {α : Type} : Except Error (α × Mode) → Except Error (α × Mode) → Prop where
  | error (e : Error) : Agrees (.error e) (.error e)
  | ok (a : α) (m : Mode) (b : Bool) : Agrees (.ok (a, m)) (.ok (a, m.withLines b))

theorem Agrees.bind {α β : Type} {x y : Except Error (α × Mode)} (h : Agrees x y)
    {f g : α × Mode → Except Error (β × Mode)}
    (hf : ∀ a m b, Agrees (f (a, m)) (g (a, m.withLines b))) : Agrees (x >>= f) (y >>= g) := by
  cases h with
  | error e => exact .error e
  | ok a m b => exact hf a m b

/-- A step that no flag is changed by. -/
theorem agrees_same {α β : Type} (x : Except Error α) (f : α → β) (m : Mode) (b : Bool) :
    Agrees (do let a ← x; .ok (f a, m)) (do let a ← x; .ok (f a, m.withLines b)) := by
  cases x with
  | error e => exact .error e
  | ok a => exact .ok (f a) m b

theorem setAll_withLines (m : Mode) (b on : Bool) (items : List FlagItem) :
    ∃ b', (m.withLines b).setAll on items = (m.setAll on items).withLines b' := by
  induction items generalizing m b on with
  | nil => exact ⟨b, rfl⟩
  | cons item items ih =>
    cases item with
    | negation => exact ih m b false
    | flag f =>
      have hset : ∃ b', (m.withLines b).set on f = (m.set on f).withLines b' := by
        cases f
        case multiLine => exact ⟨on, rfl⟩
        all_goals exact ⟨b, rfl⟩
      obtain ⟨b', hb'⟩ := hset
      rw [Mode.setAll, Mode.setAll, hb']
      exact ih _ b' on

mutual

theorem ClassItem.chars_withLines (m : Mode) (b : Bool) :
    ∀ item : ClassItem, item.chars (m.withLines b) = item.chars m
  | .empty _ | .literal _ | .range _ _ _ | .ascii _ _ _ | .shorthand _ | .property _ => rfl
  | .bracketed _ _ item => by
    rw [chars, chars, item.chars_withLines m b]
    rfl
  | .union _ items => by
    rw [chars, chars, charSets_withLines m b items]
  | .binary _ _ lhs rhs => by
    rw [chars, chars, lhs.chars_withLines m b, rhs.chars_withLines m b]
    rfl

theorem ClassItem.charSets_withLines (m : Mode) (b : Bool) :
    ∀ items : List ClassItem,
      ClassItem.charSets (m.withLines b) items = ClassItem.charSets m items
  | [] => rfl
  | item :: items => by
    rw [charSets, charSets, item.chars_withLines m b, charSets_withLines m b items]

end

theorem Mode.look_withLines (m : Mode) (b : Bool) {kind : AssertionKind}
    (h : kind.isLineAnchor = false) : (m.withLines b).look kind = m.look kind := by
  cases kind
  case startLine | endLine => cases h
  all_goals rfl

mutual

/-- **Only line anchors read the flag for lines.** -/
theorem Ast.interpretFrom_agrees (m : Mode) (b : Bool) : ∀ a : Ast, a.hasLineAnchor = false →
    Agrees (a.interpretFrom m) (a.interpretFrom (m.withLines b))
  | .empty _, _ => .ok _ m b
  | .flags _ items, _ => by
    obtain ⟨b', hb'⟩ := setAll_withLines m b true items
    rw [interpretFrom, interpretFrom, hb']
    exact .ok _ _ b'
  | .literal lit, _ => agrees_same (m.literal lit) id m b
  | .dot span, _ => agrees_same (m.dot span) id m b
  | .assertion _ kind, h => by
    rw [interpretFrom, interpretFrom, m.look_withLines b h]
    exact .ok _ m b
  | .shorthand cls, _ => agrees_same (m.shorthand cls) Node.ofSet m b
  | .property cls, _ => agrees_same (m.property cls) Node.ofSet m b
  | .bracketed span negated item, _ => by
    rw [interpretFrom, interpretFrom, item.chars_withLines m b]
    cases item.chars m with
    | error e => exact .error e
    | ok s => exact agrees_same (m.negate span negated (m.fold s)) Node.ofSet m b
  | .repetition _ _ _ _ sub, h => by
    rw [interpretFrom, interpretFrom]
    exact (sub.interpretFrom_agrees m b h).bind fun n m' b' => .ok _ m' b'
  | .group _ kind sub, h => by
    -- a group may set the flag itself, so inside it another state is compared
    have hinside : ∃ b', (m.withLines b).inside kind = (m.inside kind).withLines b' := by
      cases kind with
      | capture index => exact ⟨b, rfl⟩
      | flags items => exact setAll_withLines m b true items
    obtain ⟨b', hb'⟩ := hinside
    rw [interpretFrom, interpretFrom, hb']
    exact (sub.interpretFrom_agrees (m.inside kind) b' h).bind fun n _ _ => .ok _ m b
  | .alternation _ branches, h => by
    rw [interpretFrom, interpretFrom]
    exact (interpretAll_agrees m b branches h).bind fun ns m' b' => .ok _ m' b'
  | .concat _ items, h => by
    rw [interpretFrom, interpretFrom]
    exact (interpretAll_agrees m b items h).bind fun ns m' b' => .ok _ m' b'

theorem Ast.interpretAll_agrees (m : Mode) (b : Bool) : ∀ as : List Ast,
    Ast.anyLineAnchor as = false →
      Agrees (Ast.interpretAll m as) (Ast.interpretAll (m.withLines b) as)
  | [], _ => .ok _ m b
  | a :: rest, h => by
    obtain ⟨ha, hrest⟩ := Bool.or_eq_false_iff.1 h
    rw [interpretAll, interpretAll]
    refine (a.interpretFrom_agrees m b ha).bind fun n m' b' => ?_
    exact (interpretAll_agrees m' b' rest hrest).bind fun ns m'' b'' => .ok _ m'' b''

end

theorem Ast.interpret_withLines (m : Mode) (b : Bool) {a : Ast} (h : a.hasLineAnchor = false) :
    a.interpret (m.withLines b) = a.interpret m := by
  have hagrees := a.interpretFrom_agrees m b h
  unfold interpret
  generalize a.interpretFrom m = x at hagrees ⊢
  generalize a.interpretFrom (m.withLines b) = y at hagrees ⊢
  cases hagrees with
  | error e => rfl
  | ok n m' b' => rfl

/-! ## Reading without signs of line anchors -/

/-- None of the characters is a sign of a line anchor. -/
def SignFree (cs : List Char) : Prop :=
  ∀ c ∈ cs, c ≠ '^' ∧ c ≠ '$'

theorem SignFree.suffix {cs ds : List Char} (h : SignFree cs) (hs : ds <:+ cs) : SignFree ds :=
  fun c hc => h c (hs.subset hc)

namespace Reader

/-- No line anchor stands in what an open group or choice holds. -/
def PlainFrame : GroupFrame → Prop
  | .opened before _ _ _ => Ast.AllPlain before.parts
  | .branches _ done => Ast.AllPlain done

/-- A reader holds no line anchor, and none can come. -/
structure Plain (r : Reader) : Prop where
  rest : SignFree r.source.rest
  parts : Ast.AllPlain r.parts.parts
  frames : ∀ f ∈ r.frames, PlainFrame f

end Reader

theorem PartRun.hasLineAnchor_toAst {r : PartRun} (h : Ast.AllPlain r.parts) (stop : Position) :
    (r.toAst stop).hasLineAnchor = false := by
  unfold toAst
  split
  · rfl
  · rename_i a hparts
    rw [hparts] at h
    exact h a (.head _)
  · rw [Ast.hasLineAnchor]
    exact anyLineAnchor_eq_false fun a ha => h a (List.mem_reverse.1 ha)

theorem allPlain_push {r : PartRun} (h : Ast.AllPlain r.parts) {a : Ast}
    (ha : a.hasLineAnchor = false) : Ast.AllPlain (r.push a).parts :=
  List.forall_mem_cons.2 ⟨ha, h⟩

namespace Reader

variable {r : Reader}

theorem Plain.push (h : r.Plain) {s : Source} (hs : s.rest <:+ r.source.rest) {a : Ast}
    (ha : a.hasLineAnchor = false) : { r with source := s, parts := r.parts.push a }.Plain :=
  ⟨h.rest.suffix hs, allPlain_push h.parts ha, h.frames⟩

theorem Plain.openGroup (h : r.Plain) : Ensures Plain r.openGroup := by
  unfold Reader.openGroup
  refine (ensures_readOpening r).bind fun o ho => ?_
  obtain ⟨opening, s⟩ := o
  cases opening with
  | setFlags items => exact .ok ⟨h.rest.suffix ho, allPlain_push h.parts rfl, h.frames⟩
  | group kind name =>
    refine .ok ⟨h.rest.suffix ho, nofun, ?_⟩
    exact List.forall_mem_cons.2 ⟨h.parts, h.frames⟩

theorem Plain.nextBranch (h : r.Plain) : r.nextBranch.Plain := by
  have hbranch := PartRun.hasLineAnchor_toAst h.parts r.source.pos
  refine ⟨h.rest.suffix r.source.bump_suffix, nofun, ?_⟩
  unfold Reader.nextBranch
  dsimp only
  split
  · rename_i start done frames hframes
    have hopen := h.frames
    rw [hframes] at hopen
    obtain ⟨hdone, hrest⟩ := List.forall_mem_cons.1 hopen
    exact List.forall_mem_cons.2 ⟨List.forall_mem_cons.2 ⟨hbranch, hdone⟩, hrest⟩
  · exact List.forall_mem_cons.2 ⟨List.forall_mem_singleton.2 hbranch, h.frames⟩

theorem Plain.closeBranches (h : r.Plain) :
    r.closeBranches.1.hasLineAnchor = false ∧ ∀ f ∈ r.closeBranches.2, PlainFrame f := by
  have hlast := PartRun.hasLineAnchor_toAst h.parts r.source.pos
  unfold Reader.closeBranches
  dsimp only
  split
  · rename_i start done frames hframes
    have hopen := h.frames
    rw [hframes] at hopen
    obtain ⟨hdone, hrest⟩ := List.forall_mem_cons.1 hopen
    have hall : Ast.AllPlain (r.parts.toAst r.source.pos :: done) :=
      List.forall_mem_cons.2 ⟨hlast, hdone⟩
    exact ⟨anyLineAnchor_eq_false fun a ha => hall a (List.mem_reverse.1 ha), hrest⟩
  · exact ⟨hlast, h.frames⟩

theorem Plain.closeGroup (h : r.Plain) : Ensures Plain r.closeGroup := by
  have hclose := h.closeBranches
  unfold Reader.closeGroup
  split
  · rename_i sub before span kind verbose frames hbranches
    rw [hbranches] at hclose
    obtain ⟨hsub, hframes⟩ := hclose
    obtain ⟨hbefore, hrest⟩ := List.forall_mem_cons.1 hframes
    exact .ok ⟨h.rest.suffix r.source.bump_suffix, allPlain_push hbefore hsub, hrest⟩
  · exact .error _ _

theorem Plain.operand (h : r.Plain) {sub : Ast} {before : PartRun}
    (hoperand : operand? r.parts = some (sub, before)) :
    sub.hasLineAnchor = false ∧ Ast.AllPlain before.parts := by
  unfold operand? at hoperand
  split at hoperand
  · cases hoperand
  · cases hoperand
  · cases hoperand
  · rename_i a parts hparts
    have hall := h.parts
    rw [hparts] at hall
    cases hoperand
    exact List.forall_mem_cons.1 hall

theorem Plain.pushRepetition (h : r.Plain) {before : PartRun} {sub : Ast}
    (hbefore : Ast.AllPlain before.parts) (hsub : sub.hasLineAnchor = false) (min : Nat)
    (max : Option Nat) {s : Source} (hs : s.rest <:+ r.source.rest) :
    (r.pushRepetition before sub min max s).Plain := by
  have hmark : (if !s.startsWith '?' then s else s.bump).rest <:+ r.source.rest := by
    split
    · exact hs
    · exact s.bump_suffix.trans hs
  exact ⟨h.rest.suffix hmark, allPlain_push hbefore hsub, h.frames⟩

theorem Plain.repeatShort (h : r.Plain) (min : Nat) (max : Option Nat) :
    Ensures Plain (r.repeatShort min max) := by
  unfold Reader.repeatShort
  split
  · exact .error _ _
  · rename_i sub before hoperand
    obtain ⟨hsub, hbefore⟩ := h.operand hoperand
    exact .ok (h.pushRepetition hbefore hsub min max r.source.bump_suffix)

theorem Plain.repeatCounted (h : r.Plain) : Ensures Plain r.repeatCounted := by
  unfold Reader.repeatCounted
  dsimp only
  split
  · exact .error _ _
  · rename_i sub before hoperand
    obtain ⟨hsub, hbefore⟩ := h.operand hoperand
    split
    · exact .error _ _
    · refine (ensures_readCounts _ _).bind fun counts hcounts => ?_
      have hs := hcounts.trans r.source.next_suffix
      split
      · exact .error _ _
      · split
        · exact .ok (h.pushRepetition hbefore hsub _ _ ((Source.next_suffix _).trans hs))
        · exact .error _ _

/-- Without a sign of a line anchor no atom is one. -/
theorem ensures_readAtom {s : Source} (h : SignFree s.rest) :
    Ensures (PlainAtom s) (readAtom s) := by
  unfold readAtom
  split
  · exact ensures_readEscape s
  · exact .ok ⟨s.bump_suffix, rfl⟩
  · rename_i hrest
    rw [hrest] at h
    exact absurd rfl (h '^' (.head _)).1
  · rename_i hrest
    rw [hrest] at h
    exact absurd rfl (h '$' (.head _)).2
  · exact .ok ⟨s.bump_suffix, rfl⟩
  · exact .error _ _

/-- **No step of a reader brings in a line anchor** where no sign of one is left. -/
theorem Plain.step (h : r.Plain) (c : Char) : Ensures Plain (r.step c) := by
  unfold Reader.step
  split
  · exact h.openGroup
  · exact h.closeGroup
  · exact .ok h.nextBranch
  · refine (ensures_readClass r.source).bind fun cls hcls => ?_
    obtain ⟨hs, span, negated, item, hitem⟩ := hcls
    exact .ok (h.push hs (by rw [hitem]; rfl))
  · exact h.repeatShort 0 (some 1)
  · exact h.repeatShort 0 none
  · exact h.repeatShort 1 none
  · exact h.repeatCounted
  · refine (ensures_readAtom h.rest).bind fun a ha => ?_
    exact .ok (h.push ha.1 (a.1.hasLineAnchor_toAst.trans ha.2))

theorem Plain.finish (h : r.Plain) : Ensures (fun a => a.hasLineAnchor = false) r.finish := by
  have hclose := h.closeBranches
  unfold Reader.finish
  split
  · rename_i hbranches
    rw [hbranches] at hclose
    exact .ok hclose.1
  · exact .error _ _
  · exact .error _ _

theorem Plain.run (h : r.Plain) (n : Nat) :
    Ensures (fun a => a.hasLineAnchor = false) (run n r) := by
  induction n generalizing r with
  | zero => exact h.finish
  | succ n ih =>
    have hskip : { r with source := r.source.skip }.Plain :=
      ⟨h.rest.suffix r.source.skip_suffix, h.parts, h.frames⟩
    rw [Reader.run]
    dsimp only
    split
    · exact hskip.finish
    · exact (hskip.step _).bind fun r' hr' => ih hr'

end Reader

/-- **A source without the signs of line anchors has no line anchor.** -/
theorem hasLineAnchor_of_signFree {source : String} {a : Ast} (h : SignFree source.toList)
    (hread : Ast.read source = .ok a) : a.hasLineAnchor = false := by
  have hstart : (Reader.start source).Plain := ⟨h, nofun, nofun⟩
  have hensures : Ensures (fun a => a.hasLineAnchor = false) (Ast.read source) := by
    unfold Ast.read
    exact (hstart.run _).bind fun ast hast => (Ensures.any _).bind fun _ _ => .ok hast
  exact hensures a hread

example : ((Ast.read "(a|^b)").map Ast.hasLineAnchor).toOption = some true := by decide

end FirstClaim.Regex
