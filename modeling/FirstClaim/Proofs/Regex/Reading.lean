import FirstClaim.Regex.Reader

/-!
# What reading a pattern leaves

Each part of a pattern is read from its front, so what is left is an end of what was there before.
`Ensures P x` says that whatever a reading `x` gives satisfies `P`; with it a reader is followed
step by step. No escape is a line anchor (`ensures_readEscape`), and a bracketed class is one part
(`ensures_readClass`).
-/

set_option autoImplicit false

namespace FirstClaim.Regex

/-! ## Results of readings -/

/-- If a reading gives something, it satisfies `P`. -/
def Ensures {α : Type} (P : α → Prop) (x : Except Error α) : Prop :=
  ∀ a, x = .ok a → P a

section Ensures

variable {α β : Type} {P : α → Prop} {Q : β → Prop}

theorem Ensures.error (P : α → Prop) (e : Error) : Ensures P (.error e) :=
  nofun

theorem Ensures.ok {a : α} (h : P a) : Ensures P (.ok a) := by
  rintro _ ⟨⟩
  exact h

theorem Ensures.bind {x : Except Error α} {f : α → Except Error β} (hx : Ensures P x)
    (hf : ∀ a, P a → Ensures Q (f a)) : Ensures Q (x >>= f) := by
  cases x with
  | error e => exact .error Q e
  | ok a => exact hf a (hx a rfl)

theorem Ensures.any (x : Except Error α) : Ensures (fun _ => True) x :=
  fun _ _ => trivial

theorem Ensures.imp {R : α → Prop} {x : Except Error α} (hx : Ensures P x)
    (h : ∀ a, P a → R a) : Ensures R x :=
  fun a ha => h a (hx a ha)

end Ensures

/-! ## Moving on in a source -/

namespace Source

theorem bump_suffix (s : Source) : s.bump.rest <:+ s.rest := by
  unfold bump
  split
  · exact List.suffix_rfl
  · rename_i c cs hrest
    rw [hrest]
    exact List.suffix_cons c cs

theorem bumps_suffix (n : Nat) (s : Source) : (s.bumps n).rest <:+ s.rest := by
  induction n generalizing s with
  | zero => exact List.suffix_rfl
  | succ n ih => exact (ih s.bump).trans s.bump_suffix

theorem skipTrivia_suffix (pos : Position) (inComment : Bool) (cs : List Char) :
    (skipTrivia pos inComment cs).1 <:+ cs := by
  induction cs generalizing pos inComment with
  | nil => exact List.suffix_rfl
  | cons c cs ih =>
    have htail : ∀ b, (skipTrivia (pos.after c) b cs).1 <:+ c :: cs :=
      fun b => (ih (pos.after c) b).trans (List.suffix_cons c cs)
    rw [skipTrivia]
    split
    · exact htail _
    · split
      · exact htail _
      · split
        · exact htail _
        · exact List.suffix_rfl

theorem skip_suffix (s : Source) : s.skip.rest <:+ s.rest := by
  unfold skip
  split
  · exact skipTrivia_suffix _ _ _
  · exact List.suffix_rfl

theorem next_suffix (s : Source) : s.next.rest <:+ s.rest :=
  s.bump.skip_suffix.trans s.bump_suffix

theorem run_suffix (p : Char → Bool) (n : Nat) (s : Source) : (run p n s).2.rest <:+ s.rest := by
  induction n generalizing s with
  | zero => exact List.suffix_rfl
  | succ n ih =>
    rw [run]
    split
    · exact List.suffix_rfl
    · split
      · exact (ih s.next).trans s.next_suffix
      · exact List.suffix_rfl

theorem takeRun_suffix (p : Char → Bool) (s : Source) : (s.takeRun p).2.rest <:+ s.rest :=
  run_suffix p _ s

theorem skipBlanks_suffix (s : Source) : s.skipBlanks.rest <:+ s.rest :=
  takeRun_suffix _ s

end Source

open Source

/-! ## Escapes -/

/-- An assertion that looks for the start or the end of a line, as long as lines are looked at. -/
def AssertionKind.isLineAnchor : AssertionKind → Bool
  | .startLine | .endLine => true
  | _ => false

/-- The atom is a line anchor. -/
def Atom.isLineAnchor : Atom → Bool
  | .assertion _ kind => kind.isLineAnchor
  | _ => false

theorem ensures_readHexDigits (first : Bool) (n : Nat) (s : Source) :
    Ensures (fun r => r.2.rest <:+ s.rest) (readHexDigits first n s) := by
  induction n generalizing first s with
  | zero => exact .ok s.next_suffix
  | succ n ih =>
    have hstart : (if first then s else s.next).rest <:+ s.rest := by
      split
      · exact List.suffix_rfl
      · exact s.next_suffix
    rw [readHexDigits]
    generalize (if first then s else s.next) = s' at hstart ⊢
    dsimp only
    split
    · exact .error _ _
    · split
      · exact (ih false s').bind fun r hr => .ok (hr.trans hstart)
      · exact .error _ _

theorem ensures_readHexBraced (start : Position) (s : Source) :
    Ensures (fun r => r.2.rest <:+ s.rest) (readHexBraced start s) := by
  have hdigits := (takeRun_suffix isHexDigit s.next).trans s.next_suffix
  unfold readHexBraced
  dsimp only
  generalize s.next.takeRun isHexDigit = run at hdigits ⊢
  obtain ⟨digits, s'⟩ := run
  dsimp only at hdigits ⊢
  split
  · exact .error _ _
  · split
    · exact .error _ _
    · split
      · exact .error _ _
      · split
        · exact .ok (s'.next_suffix.trans hdigits)
        · exact .error _ _

theorem ensures_readHex (start : Position) (width : Nat) (s : Source) :
    Ensures (fun r => r.2.rest <:+ s.rest) (readHex start width s) := by
  unfold readHex
  dsimp only
  split
  · exact .error _ _
  · split
    · exact (ensures_readHexBraced start s.next).imp fun r hr => hr.trans s.next_suffix
    · refine (ensures_readHexDigits true width s.next).bind fun r hr => ?_
      split
      · exact .ok (hr.trans s.next_suffix)
      · exact .error _ _

theorem ensures_readProperty (start : Position) (negated : Bool) (s : Source) :
    Ensures (fun r => r.2.rest <:+ s.rest) (readProperty start negated s) := by
  have hrun : ∀ p, (s.next.next.takeRun p).2.rest <:+ s.rest := fun p =>
    (takeRun_suffix p s.next.next).trans (s.next.next_suffix.trans s.next_suffix)
  unfold readProperty
  dsimp only
  split
  · exact .error _ _
  · split
    · split
      · exact .error _ _
      · exact .ok ((bump_suffix _).trans (hrun _))
    · split
      · exact .error _ _
      · exact .ok (s.next.next_suffix.trans s.next_suffix)

theorem isLineAnchor_boundaryKind? {name : List Char} {kind : AssertionKind}
    (h : boundaryKind? name = some kind) : kind.isLineAnchor = false := by
  unfold boundaryKind? at h
  split at h
  · cases h; rfl
  · split at h
    · cases h; rfl
    · split at h
      · cases h; rfl
      · split at h
        · cases h; rfl
        · cases h

theorem isLineAnchor_assertionEscape? {c : Char} {kind : AssertionKind}
    (h : assertionEscape? c = some kind) : kind.isLineAnchor = false := by
  unfold assertionEscape? at h
  split at h <;> cases h <;> rfl

theorem ensures_readBoundary? (start : Position) (s : Source) :
    Ensures (fun found => ∀ r ∈ found, r.2.rest <:+ s.rest ∧ r.1.isLineAnchor = false)
      (readBoundary? start s) := by
  have hrun : ∀ p, (s.next.takeRun p).2.rest <:+ s.rest := fun p =>
    (takeRun_suffix p s.next).trans s.next_suffix
  unfold readBoundary?
  dsimp only
  split
  · exact .error _ _
  · split
    · refine .ok ?_
      rintro r ⟨⟩
    · split
      · exact .error _ _
      · split
        · rename_i kind hkind
          refine .ok ?_
          rintro r ⟨⟩
          exact ⟨(bump_suffix _).trans (hrun _), isLineAnchor_boundaryKind? hkind⟩
        · exact .error _ _

/-- What an escape leaves, and that it is no line anchor. -/
def PlainAtom (s : Source) (r : Atom × Source) : Prop :=
  r.2.rest <:+ s.rest ∧ r.1.isLineAnchor = false

theorem ensures_readWordBoundary (start : Position) (s : Source) :
    Ensures (PlainAtom s) (readWordBoundary start s) := by
  unfold readWordBoundary
  split
  · refine (ensures_readBoundary? start s).bind fun found hfound => ?_
    split
    · exact .ok (hfound _ rfl)
    · exact .ok ⟨List.suffix_rfl, rfl⟩
  · exact .ok ⟨List.suffix_rfl, rfl⟩

theorem ensures_readShortEscape (start : Position) (c : Char) (s : Source) :
    Ensures (PlainAtom s) (readShortEscape start c s) := by
  unfold readShortEscape
  dsimp only
  split
  · exact .ok ⟨List.suffix_rfl, rfl⟩
  · split
    · exact ensures_readWordBoundary start s
    · split
      · exact .ok ⟨List.suffix_rfl, rfl⟩
      · rename_i hkind _
        exact .ok ⟨List.suffix_rfl, isLineAnchor_assertionEscape? hkind⟩
      · exact .ok ⟨List.suffix_rfl, rfl⟩
      · exact .error _ _

/-- **No escape is a line anchor**, whatever sign stands behind its backslash. -/
theorem ensures_readEscape (s : Source) : Ensures (PlainAtom s) (readEscape s) := by
  have hmore : ∀ {r : Atom × Source}, PlainAtom s.bump r → PlainAtom s r :=
    fun hr => ⟨hr.1.trans s.bump_suffix, hr.2⟩
  unfold readEscape
  dsimp only
  split
  · exact .error _ _
  · split
    · exact .error _ _
    · split
      · refine (ensures_readProperty _ _ s.bump).bind fun r hr => .ok ?_
        exact hmore ⟨hr, rfl⟩
      · split
        · refine (ensures_readHex _ _ s.bump).bind fun r hr => .ok ?_
          exact hmore ⟨hr, rfl⟩
        · refine (ensures_readShortEscape _ _ s.bump.bump).imp fun r hr => hmore ?_
          exact ⟨hr.1.trans s.bump.bump_suffix, hr.2⟩

/-! ## Bracketed classes -/

theorem readAscii?_suffix {s : Source} {r : ClassItem × Source} (h : readAscii? s = some r) :
    r.2.rest <:+ s.rest := by
  unfold readAscii? at h
  split at h
  · dsimp only at h
    split at h
    · obtain ⟨kind, -, rfl⟩ := Option.map_eq_some_iff.1 h
      exact bumps_suffix _ s
    · cases h
  · cases h

theorem ensures_readClassAtom (s : Source) : Ensures (PlainAtom s) (readClassAtom s) := by
  unfold readClassAtom
  split
  · exact ensures_readEscape s
  · exact .ok ⟨s.bump_suffix, rfl⟩
  · exact .error _ _

theorem ensures_readClassRange (frames : List ClassFrame) (s : Source) :
    Ensures (fun r => r.2.rest <:+ s.rest) (readClassRange frames s) := by
  unfold readClassRange
  refine (ensures_readClassAtom s).bind fun first hfirst => ?_
  have hskip := (skip_suffix first.2).trans hfirst.1
  dsimp only
  split
  · exact .error _ _
  · split
    · exact (Ensures.any _).bind fun _ _ => .ok hskip
    · split
      · exact .error _ _
      · refine (ensures_readClassAtom _).bind fun last hlast => ?_
        refine (Ensures.any _).bind fun lo _ => (Ensures.any _).bind fun hi _ => ?_
        split
        · exact .ok (hlast.1.trans ((next_suffix _).trans hskip))
        · exact .error _ _

theorem ensures_readHyphens (start : Position) (n : Nat) (u : ItemRun) (s : Source) :
    Ensures (fun r => r.2.rest <:+ s.rest) (readHyphens start n u s) := by
  induction n generalizing u s with
  | zero => exact .ok List.suffix_rfl
  | succ n ih =>
    rw [readHyphens]
    split
    · dsimp only
      split
      · exact .error _ _
      · exact (ih _ s.next).imp fun r hr => hr.trans s.next_suffix
    · exact .ok List.suffix_rfl

theorem ensures_readOpening (s : Source) :
    Ensures (fun r => r.2.2.2.rest <:+ s.rest) (readOpening s) := by
  have hsign : (if s.next.startsWith '^' then s.next.next else s.next).rest <:+ s.rest := by
    split
    · exact s.next.next_suffix.trans s.next_suffix
    · exact s.next_suffix
  unfold readOpening
  dsimp only
  generalize (if s.next.startsWith '^' then s.next.next else s.next) = s' at hsign ⊢
  split
  · exact .error _ _
  · split
    · exact .error _ _
    · refine (ensures_readHyphens _ _ _ s').bind fun r hr => ?_
      split
      · split
        · exact .error _ _
        · exact .ok ((next_suffix _).trans (hr.trans hsign))
      · exact .ok (hr.trans hsign)

/-- What a bracketed class leaves, and that it is one part. -/
def OneClass (s : Source) (r : Ast × Source) : Prop :=
  r.2.rest <:+ s.rest ∧ ∃ span negated item, r.1 = .bracketed span negated item

theorem ensures_readItems (n : Nat) (u : ItemRun) (frames : List ClassFrame) (s : Source) :
    Ensures (OneClass s) (readItems n u frames s) := by
  induction n generalizing u frames s with
  | zero => exact .error _ _
  | succ n ih =>
    -- what is left after one more item is an end of what was left before
    have hmore : ∀ u frames s', s'.rest <:+ s.rest →
        Ensures (OneClass s) (readItems n u frames s') :=
      fun u frames s' hs' => (ih u frames s').imp fun r hr => ⟨hr.1.trans hs', hr.2⟩
    have hskip := s.skip_suffix
    rw [readItems]
    generalize s.skip = s' at hskip ⊢
    dsimp only
    split
    · exact .error _ _
    · split
      · split
        · rename_i item s'' hitem
          split at hitem
          · cases hitem
          · exact hmore _ _ _ ((readAscii?_suffix hitem).trans hskip)
        · refine (ensures_readOpening s').bind fun r hr => ?_
          exact hmore _ _ _ (hr.trans hskip)
      · split
        · split
          · split
            · exact .ok ⟨s'.bump_suffix.trans hskip, _, _, _, rfl⟩
            · exact hmore _ _ _ (s'.bump_suffix.trans hskip)
          · exact .error _ _
        · split
          · exact hmore _ _ _ (s'.bump.bump_suffix.trans (s'.bump_suffix.trans hskip))
          · refine (ensures_readClassRange frames s').bind fun r hr => ?_
            exact hmore _ _ _ (hr.trans hskip)

/-- **A bracketed class is one part**, whatever signs stand in it. -/
theorem ensures_readClass (s : Source) : Ensures (OneClass s) (readClass s) :=
  ensures_readItems _ _ _ s

/-! ## Groups -/

namespace Reader

theorem ensures_readNameChars (s : Source) (first : Bool) (cs : List Char) :
    Ensures (fun r => r.2.rest <:+ s.rest) (readNameChars s first cs) := by
  induction cs generalizing s first with
  | nil => exact .error _ _
  | cons c cs ih =>
    rw [readNameChars]
    split
    · exact .ok List.suffix_rfl
    · split
      · exact (ih s.bump false).bind fun r hr => .ok (hr.trans s.bump_suffix)
      · exact .error _ _

theorem ensures_readName (names : List (List Char × Span)) (s : Source) :
    Ensures (fun r => r.2.rest <:+ s.rest) (readName names s) := by
  unfold readName
  refine (ensures_readNameChars s true s.rest).bind fun r hr => ?_
  dsimp only
  split
  · exact .error _ _
  · split
    · exact .error _ _
    · exact .ok ((bump_suffix r.2).trans hr)

theorem ensures_readFlags (s : Source) (found : List (FlagItem × Span)) (cs : List Char) :
    Ensures (fun r => r.2.rest <:+ s.rest) (readFlags s found cs) := by
  induction cs generalizing s found with
  | nil => exact .error _ _
  | cons c cs ih =>
    unfold readFlags
    split
    · split
      · exact .error _ _
      · exact .ok List.suffix_rfl
    · dsimp only
      split
      · exact .error _ _
      · split
        · exact .error _ _
        · exact (ih s.bump _).imp fun r hr => hr.trans s.bump_suffix

theorem ensures_readOpening (r : Reader) :
    Ensures (fun o => o.2.rest <:+ r.source.rest) r.readOpening := by
  have hnext := r.source.next_suffix
  unfold readOpening
  dsimp only
  split
  · exact .error _ _
  · refine (ensures_readName _ _).bind fun o ho => .ok ?_
    exact ho.trans ((bumps_suffix _ _).trans hnext)
  · split
    · exact .error _ _
    · refine (ensures_readFlags _ _ _).bind fun o ho => ?_
      have hflags := ho.trans ((bump_suffix _).trans hnext)
      split
      · exact .ok ((bump_suffix o.2).trans hflags)
      · split
        · exact .error _ _
        · exact .ok ((bump_suffix o.2).trans hflags)
  · exact .ok hnext

/-! ## Counts -/

theorem readDecimal_suffix (s : Source) : (readDecimal s).2.rest <:+ s.rest := by
  have hrun := (takeRun_suffix Char.isDigit s.skipBlanks).trans s.skipBlanks_suffix
  exact (skipBlanks_suffix _).trans hrun

theorem ensures_readCounts (start : Position) (s : Source) :
    Ensures (fun r => r.2.2.rest <:+ s.rest) (readCounts start s) := by
  have hfirst := readDecimal_suffix s
  unfold readCounts
  dsimp only
  generalize readDecimal s = first at hfirst ⊢
  split
  · exact .error _ _
  · split
    · have hcomma := (next_suffix first.2).trans hfirst
      split
      · exact .error _ _
      · split
        · exact (Ensures.any _).bind fun _ _ => .ok hcomma
        · refine (Ensures.any _).bind fun _ _ => ?_
          have hlast := (readDecimal_suffix first.2.next).trans hcomma
          exact (Ensures.any _).bind fun _ _ => .ok hlast
    · exact (Ensures.any _).bind fun _ _ => .ok hfirst

end Reader

end FirstClaim.Regex
