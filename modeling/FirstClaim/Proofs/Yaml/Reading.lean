import FirstClaim.Proofs.RecordForm
import FirstClaim.Proofs.Yaml.Documents
import FirstClaim.Yaml.Reader

/-!
# Reading back YAML values

`Reads read items a`: wherever the items stand in a document, `read` reads `a` from them and arrives
behind them. There is one lemma for each way to read a value (`reads_text`, `Reads.optional`,
`reads_list`, `reads_record`).
-/

set_option autoImplicit false

namespace FirstClaim.Yaml

/-! ## Items of a document -/

/-- The items stand in a document from the item of a number on. -/
def StandsAt (document : Document) (n : Nat) (items : List Item) : Prop :=
  ∃ before behind, document.items.toList.map (·.1) = before ++ (items ++ behind) ∧
    before.length = n

namespace StandsAt

variable {document : Document} {n : Nat} {a b : List Item}

theorem left (h : StandsAt document n (a ++ b)) : StandsAt document n a := by
  obtain ⟨before, behind, heq, hn⟩ := h
  exact ⟨before, b ++ behind, by rw [heq, List.append_assoc], hn⟩

theorem right (h : StandsAt document n (a ++ b)) : StandsAt document (n + a.length) b := by
  obtain ⟨before, behind, heq, rfl⟩ := h
  exact ⟨before ++ a, behind, by rw [heq]; simp, List.length_append⟩

theorem tail {item : Item} (h : StandsAt document n (item :: a)) : StandsAt document (n + 1) a :=
  right (a := [item]) h

theorem length_le (h : StandsAt document n a) : a.length ≤ document.items.size := by
  obtain ⟨before, behind, heq, -⟩ := h
  have hlength := congrArg List.length heq
  simp only [List.length_map, List.length_append, Array.length_toList] at hlength
  omega

end StandsAt

/-- An item that a written value begins with: it begins a list, a record or a text that is not taken
for an absent value. -/
def isShown : Item → Bool
  | .scalar text style none => style ≠ .plain || !(text.isEmpty || isNullWord text)
  | .sequenceStart => true
  | .mappingStart => true
  | _ => false

namespace Reader

/-! ## Steps -/

section Steps

variable {α β : Type} {scope : Scope} {n n' : Nat}

theorem bind_eq {x : Reader α} {f : α → Reader β} {a : α} (h : x scope n = .ok (a, n')) :
    (x >>= f) scope n = f a scope n' := by
  show Except.bind (x scope n) _ = _
  rw [h]
  rfl

theorem read_bind (f : Scope → Reader α) : (MonadReader.read >>= f) scope n = f scope scope n :=
  rfl

theorem peek_eq {item : Item} {items : List Item}
    (h : StandsAt scope.document n (item :: items)) :
    ∃ m, peek scope n = .ok ((item, m), n) := by
  obtain ⟨before, behind, heq, rfl⟩ := h
  have hget : (scope.document.items.toList.map (·.1))[before.length]? = some item := by
    rw [heq]
    simp
  rw [List.getElem?_map, Option.map_eq_some_iff] at hget
  obtain ⟨⟨other, m⟩, hget, rfl⟩ := hget
  refine ⟨m, ?_⟩
  rw [Array.getElem?_toList] at hget
  rw [peek, hget]

/-- A node that is no alias is read from its first item on. -/
theorem node_eq {item : Item} {items : List Item} (hitem : isShown item = true)
    (h : StandsAt scope.document n (item :: items)) :
    ∃ m, ∀ read : Item → Mark → Reader α, node read scope n = read item m scope (n + 1) := by
  obtain ⟨m, hpeek⟩ := peek_eq h
  refine ⟨m, fun read => ?_⟩
  rw [node, bind_eq hpeek]
  cases item <;> first | rfl | cases hitem

end Steps

end Reader

/-! ## Values -/

/-- Wherever the items stand in a document, `read` reads `a` from them. -/
structure Reads {α : Type} (read : Reader α) (items : List Item) (a : α) : Prop where
  opens : ∃ item rest, items = item :: rest ∧ isShown item = true
  reads : ∀ scope n, StandsAt scope.document n items → read scope n = .ok (a, n + items.length)

theorem Reads.map {α β : Type} {read : Reader α} {items : List Item} {a : α}
    (h : Reads read items a) (f : α → β) : Reads (do return f (← read)) items (f a) := by
  refine ⟨h.opens, fun scope n hstands => ?_⟩
  exact Reader.bind_eq (h.reads scope n hstands)

/-- A value is read alike wherever it stands in a record or a list. -/
theorem Reads.below {α : Type} {read : Reader α} {items : List Item} {a : α}
    (h : Reads read items a) (path : String) (m : Mark) {scope : Scope} {n : Nat}
    (hstands : StandsAt scope.document n items) :
    Reader.below path m read scope n = .ok (a, n + items.length) :=
  h.reads { scope with path, outer := (scope.path, m) } n hstands

/-- A text that is written is not taken for an absent value. -/
theorem isShown_text (s : String) : isShown (.scalar s (styleOf s) none) = true := by
  unfold isShown
  by_cases hstyle : styleOf s = .plain
  · have hmeaning : isMeaningful s = false := by
      rcases styleOf_cases s with ⟨-, -, h⟩ | ⟨h, -⟩ | ⟨h, -⟩ | h
      · exact h
      all_goals
        rw [hstyle] at h
        cases h
    have hpresent : (s.isEmpty || isNullWord s) = false := by
      by_contra hnull
      rw [isMeaningful, Meaning.ofPlain, if_pos (Bool.not_eq_false _ ▸ hnull)] at hmeaning
      cases hmeaning
    simp [hpresent]
  · simp [hstyle]

theorem textAs_eq (expected : String) {s : String} {style : ScalarStyle} {items : List Item}
    (hshown : isShown (.scalar s style none) = true) {scope : Scope} {n : Nat}
    (h : StandsAt scope.document n (.scalar s style none :: items)) :
    Reader.textAs expected scope n = .ok (s, n + 1) := by
  obtain ⟨m, hnode⟩ := Reader.node_eq (α := String) hshown h
  exact hnode _

theorem reads_text (expected s : String) :
    Reads (Reader.textAs expected) [.scalar s (styleOf s) none] s :=
  ⟨⟨_, _, rfl, isShown_text s⟩, fun _ _ h => textAs_eq expected (isShown_text s) h⟩

theorem isPresent_eq {item : Item} (h : isShown item = true) (scope : Scope) (n : Nat) :
    Reader.isPresent item scope n = .ok (true, n) := by
  cases item with
  | scalar text style tag =>
    cases tag with
    | some tag => cases h
    | none =>
      unfold Reader.isPresent
      dsimp only
      split
      · rfl
      · rename_i hstyle
        have hpresent : (!(text.isEmpty || isNullWord text)) = true := by
          simpa [isShown, not_not.1 hstyle] using h
        rw [hpresent]
        rfl
  | sequenceStart => rfl
  | mappingStart => rfl
  | _ => cases h

theorem Reads.optional {α : Type} {read : Reader α} {items : List Item} {a : α}
    (h : Reads read items a) : Reads (Reader.readOptional read) items (some a) := by
  refine ⟨h.opens, fun scope n hstands => ?_⟩
  have hread := h.reads scope n hstands
  obtain ⟨item, rest, rfl, hshown⟩ := h.opens
  obtain ⟨m, hpeek⟩ := Reader.peek_eq hstands
  have hpresent := isPresent_eq hshown scope n
  unfold Reader.readOptional
  rw [hpeek]
  dsimp only [Except.map, bind, Except.bind]
  split
  · cases hshown
  · rw [hpresent]
    dsimp only
    rw [if_pos rfl, hread]

/-! ## Lists -/

theorem length_le_flatMap {α β : Type} {f : α → List β} {l : List α} (h : ∀ a ∈ l, f a ≠ []) :
    l.length ≤ (l.flatMap f).length := by
  induction l with
  | nil => exact Nat.le_refl _
  | cons a l ih =>
    have hone := List.length_pos_iff.2 (h a (.head _))
    have hrest := ih fun b hb => h b (.tail _ hb)
    rw [List.flatMap_cons, List.length_append, List.length_cons]
    omega

section Lists

variable {α : Type} {read : Reader α} {items : α → List Item} {l : List α}

theorem readEntries_eq (hentries : ∀ a ∈ l, Reads read (items a) a) (path : String) (m : Mark)
    {fuel : Nat} (hfuel : l.length < fuel) (before : List α) {scope : Scope} {n : Nat}
    (h : StandsAt scope.document n (l.flatMap items ++ [.sequenceEnd])) :
    Reader.readEntries read path m fuel before scope n =
      .ok (before.reverse ++ l, n + (l.flatMap items).length + 1) := by
  induction l generalizing fuel before n with
  | nil =>
    obtain ⟨fuel, rfl⟩ := Nat.exists_eq_add_one.2 hfuel
    obtain ⟨_, hpeek⟩ := Reader.peek_eq h
    rw [Reader.readEntries, Reader.bind_eq hpeek, List.append_nil]
    rfl
  | cons a l ih =>
    obtain ⟨fuel, rfl⟩ := Nat.exists_eq_add_one.2 (Nat.zero_lt_of_lt hfuel)
    have hentry := hentries a (.head _)
    rw [List.flatMap_cons, List.append_assoc] at h
    have hread := fun path => hentry.below path m h.left
    have hrest := ih (fun b hb => hentries b (.tail _ hb)) (Nat.lt_of_succ_lt_succ hfuel)
      (a :: before) h.right
    obtain ⟨item, rest, hitems, hshown⟩ := hentry.opens
    rw [hitems] at h
    obtain ⟨_, hpeek⟩ := Reader.peek_eq h
    have hgoes : item ≠ .sequenceEnd := by
      rintro rfl
      cases hshown
    rw [Reader.readEntries, Reader.bind_eq hpeek]
    dsimp only
    rw [if_neg hgoes, Reader.bind_eq (hread _), hrest]
    simp [Nat.add_assoc]

/-- **Items between the beginning and the end of a list are read in turn.** -/
theorem reads_list (hentries : ∀ a ∈ l, Reads read (items a) a) :
    Reads (Reader.readList read) (.sequenceStart :: (l.flatMap items ++ [.sequenceEnd])) l := by
  refine ⟨⟨_, _, rfl, rfl⟩, fun scope n h => ?_⟩
  have hfuel : l.length < scope.document.items.size + 1 := by
    have hlength := h.length_le
    have hmany : l.length ≤ (l.flatMap items).length := by
      refine length_le_flatMap fun a ha => ?_
      obtain ⟨item, rest, hitems, -⟩ := (hentries a ha).opens
      rw [hitems]
      exact List.cons_ne_nil _ _
    simp only [List.length_cons, List.length_append] at hlength
    omega
  obtain ⟨m, hnode⟩ := Reader.node_eq (α := List α) rfl h
  have hread := readEntries_eq hentries scope.path m hfuel [] h.tail
  have hstart : Reader.readList read scope n =
      Reader.readEntries read scope.path m (scope.document.items.size + 1) [] scope (n + 1) := by
    unfold Reader.readList
    rw [Reader.read_bind]
    exact hnode _
  rw [hstart, hread, List.length_cons, List.length_append]
  simp only [List.reverse_nil, List.nil_append, List.length_singleton, Except.ok.injEq,
    Prod.mk.injEq, true_and]
  omega

end Lists

/-! ## Records -/

section Records

variable {σ : Type} {form : RecordForm Reader σ}

/-- The items of a member: its name and its value. -/
def namedItems (m : String × List Item) : List Item :=
  .scalar m.1 .plain none :: m.2

/-- Members whose names are not taken for absent values. -/
def Shown (members : List (String × List Item)) : Prop :=
  ∀ m ∈ members, isShown (.scalar m.1 .plain none) = true

/-- The members of a record are read in turn, up to its end. -/
theorem readMembers_eq {seen seen' : List String} {s s' : σ} {members : List (String × List Item)}
    (h : Fills Reads form seen s members seen' s') (hmissing : form.missing? seen' = none)
    (hshown : Shown members) (m : Mark) {fuel : Nat} (hfuel : members.length < fuel) {scope : Scope}
    {n : Nat} (hstands : StandsAt scope.document n (members.flatMap namedItems ++ [.mappingEnd])) :
    Reader.readMembers form m fuel seen s scope n =
      .ok (s', n + (members.flatMap namedItems).length + 1) := by
  induction h generalizing fuel n with
  | nil seen s =>
    obtain ⟨fuel, rfl⟩ := Nat.exists_eq_add_one.2 hfuel
    obtain ⟨_, hpeek⟩ := Reader.peek_eq hstands
    rw [Reader.readMembers, Reader.bind_eq hpeek]
    dsimp only
    rw [if_pos rfl, hmissing]
    rfl
  | @member seen seen' s s₁ s' key member items members hmember hnew hread _ ih =>
    obtain ⟨fuel, rfl⟩ := Nat.exists_eq_add_one.2 (Nat.zero_lt_of_lt hfuel)
    have hkey := hshown _ (.head _)
    rw [List.flatMap_cons, List.append_assoc, namedItems, List.cons_append] at hstands
    obtain ⟨_, hpeek⟩ := Reader.peek_eq hstands
    have hname := textAs_eq "field identifier" hkey hstands
    have hvalue := fun path => hread.below path m hstands.tail.left
    have hrest := ih hmissing (fun other hother => hshown other (.tail _ hother))
      (Nat.lt_of_succ_lt_succ hfuel) hstands.tail.right
    rw [Reader.readMembers, Reader.bind_eq hpeek]
    dsimp only
    rw [if_neg (by simp), Reader.bind_eq hname, hmember]
    dsimp only
    rw [if_neg (by simpa using hnew), Reader.read_bind,
      Reader.bind_eq (hvalue _), hrest]
    simp [namedItems]
    omega

/-- **A record that is written as a mapping is read from its members in turn.** -/
theorem reads_record {seen : List String} {s : σ} {members : List (String × List Item)}
    (h : Fills Reads form [] form.start members seen s) (hmissing : form.missing? seen = none)
    (hshown : Shown members) : Reads (Reader.readRecord form)
      (.mappingStart :: (members.flatMap namedItems ++ [.mappingEnd])) s := by
  refine ⟨⟨_, _, rfl, rfl⟩, fun scope n hstands => ?_⟩
  have hfuel : members.length < scope.document.items.size + 1 := by
    have hlength := hstands.length_le
    have hmany := length_le_flatMap (f := namedItems) (l := members)
      fun _ _ => List.cons_ne_nil _ _
    simp only [List.length_cons, List.length_append] at hlength
    omega
  obtain ⟨m, hnode⟩ := Reader.node_eq (α := σ) rfl hstands
  have hread := readMembers_eq h hmissing hshown m hfuel hstands.tail
  have hstart : Reader.readRecord form scope n =
      Reader.readMembers form m (scope.document.items.size + 1) [] form.start scope (n + 1) := by
    unfold Reader.readRecord
    rw [Reader.read_bind]
    exact hnode _
  rw [hstart, hread, List.length_cons, List.length_append]
  simp only [List.length_singleton, Except.ok.injEq, Prod.mk.injEq, true_and]
  omega

end Records

/-! ## Whole texts -/

/-- A text whose document holds a value and nothing else is read as that value. -/
theorem Reads.parse {α : Type} {read : Reader α} {text : String} {its : List (Item × Mark)}
    {a : α} (hdocument : Document.ofText text = (⟨its.toArray, none⟩, true))
    (h : Reads read (its.map (·.1)) a) : Yaml.parse read text = .ok a := by
  have hstands : StandsAt ⟨its.toArray, none⟩ 0 (its.map (·.1)) := ⟨[], [], by simp, rfl⟩
  have hread := h.reads { document := ⟨its.toArray, none⟩ } 0 hstands
  unfold Yaml.parse
  rw [hdocument]
  dsimp only [bind, Except.bind]
  rw [hread]
  rfl

end FirstClaim.Yaml
