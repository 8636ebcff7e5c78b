import FirstClaim.Yaml.Document
import FirstClaim.Proofs.Yaml.Events

/-!
# Items of written documents

Without anchors each event adds one item to the document (`Document.read_items`), and
`ofText_document` says what the items of a written document are.
-/

set_option autoImplicit false

namespace FirstClaim.Yaml

/-! ## What a document holds -/

/-- The items of a member. -/
def memberItems (member : String × String) : List Item :=
  [.scalar member.1 .plain none, .scalar member.2 (styleOf member.2) none]

def entryItems (members : List (String × String)) : List Item :=
  .mappingStart :: members.flatMap memberItems ++ [.mappingEnd]

def listItems (entries : List (List (String × String))) : List Item :=
  .sequenceStart :: entries.flatMap entryItems ++ [.sequenceEnd]

def documentItems (members : List (String × String)) (entries : List (List (String × String))) :
    List Item :=
  .mappingStart :: members.flatMap memberItems ++
    (.scalar "rules" .plain none :: listItems entries ++ [.mappingEnd])

/-- The item that an event without an anchor adds. -/
def addedItem? : EventKind → Option Item
  | .scalar text style tag none => some (.scalar text style tag)
  | .sequenceStart none => some .sequenceStart
  | .sequenceEnd => some .sequenceEnd
  | .mappingStart none => some .mappingStart
  | .mappingEnd => some .mappingEnd
  | _ => none

/-- The events of a document add its items. -/
theorem addedItem?_contentEvents (members : List (String × String))
    (entries : List (List (String × String))) :
    (contentEvents members entries).map addedItem? = (documentItems members entries).map some := by
  simp [contentEvents, documentItems, listEvents, listItems, entryEvents, entryItems, memberEvents,
    memberItems, addedItem?, List.map_flatMap]

theorem ne_aliasOf {kind : EventKind} {item : Item} (h : addedItem? kind = some item) (n : Nat) :
    item ≠ .aliasOf n := by
  rintro rfl
  unfold addedItem? at h
  split at h <;> cases h

namespace Document

/-! ## Adding items -/

theorem read_item {kind : EventKind} {item : Item} (h : addedItem? kind = some item)
    (failure : Option Error) (d : Draft) (m : Mark) (rest : List Event) :
    read failure d (⟨kind, m⟩ :: rest) =
      read failure { d with items := (item, m) :: d.items } rest := by
  unfold addedItem? at h
  split at h <;> cases h <;> rfl

theorem read_items (failure : Option Error) {es : List Event} {items : List Item}
    (h : es.map (addedItem? ·.kind) = items.map some) (d : Draft) (rest : List Event) :
    ∃ its : List (Item × Mark), its.map (·.1) = items ∧ read failure d (es ++ rest) =
      read failure { d with items := its.reverse ++ d.items } rest := by
  induction es generalizing items d with
  | nil =>
    obtain rfl : items = [] := by simpa using h.symm
    exact ⟨[], rfl, rfl⟩
  | cons event es ih =>
    obtain ⟨item, items, rfl, hitem, hitems⟩ := List.map_eq_cons_iff.1 h.symm
    obtain ⟨its, rfl, hread⟩ := ih hitems.symm { d with items := (item, event.mark) :: d.items }
    refine ⟨(item, event.mark) :: its, rfl, ?_⟩
    rw [List.cons_append, read_item hitem.symm, hread, List.reverse_cons, List.append_assoc]
    rfl

theorem finish_eq {d : Draft} (h : ∀ item ∈ d.items, ∀ n, item.1 ≠ .aliasOf n)
    (failure : Option Error) : d.finish failure = ⟨d.items.reverse.toArray, failure⟩ := by
  unfold Draft.finish
  dsimp only
  congr 2
  refine (List.map_congr_left fun item hitem => ?_).trans (List.map_id _)
  obtain ⟨kind, m⟩ := item
  have hkind := h (kind, m) (List.mem_reverse.1 hitem)
  cases kind with
  | aliasOf n => exact absurd rfl (hkind n)
  | _ => rfl

end Document

/-- **The document of a text** holds the items of what was written, and the text ends behind it. -/
theorem ofText_document {members : List (String × String)} {entries : List (List (String × String))}
    (hmembers : members ≠ [] ∧ Named members)
    (hentries : ∀ members ∈ entries, members ≠ [] ∧ Named members) :
    ∃ its : List (Item × Mark), its.map (·.1) = documentItems members entries ∧
      Document.ofText (String.ofList (documentText members entries)) =
        (⟨its.toArray, none⟩, true) := by
  obtain ⟨es, hevents, hkinds⟩ := events_document hmembers hentries
  obtain ⟨⟨kind, m⟩, es, rfl, hfirst, hkinds⟩ := List.map_eq_cons_iff.1 hkinds
  obtain ⟨es, last, rfl, hcontent, hlast⟩ := List.map_eq_append_iff.1 hkinds
  obtain ⟨⟨kind₁, m₁⟩, last, rfl, hkind₁, hlast⟩ := List.map_eq_cons_iff.1 hlast
  obtain ⟨⟨kind₂, m₂⟩, last, rfl, hkind₂, hlast⟩ := List.map_eq_cons_iff.1 hlast
  obtain rfl : kind = .documentStart := hfirst
  obtain rfl : kind₁ = .documentEnd := hkind₁
  obtain rfl : kind₂ = .streamEnd := hkind₂
  have hitems := addedItem?_contentEvents members entries
  have hadded : es.map (addedItem? ·.kind) = (documentItems members entries).map some := by
    rw [← hitems, ← hcontent, List.map_map]
    rfl
  obtain ⟨its, hits, hread⟩ := Document.read_items none hadded {}
    (⟨.documentEnd, m₁⟩ :: ⟨.streamEnd, m₂⟩ :: last)
  have halias : ∀ item ∈ its.reverse ++ [], ∀ n, item.1 ≠ .aliasOf n := by
    intro item hitem n
    rw [List.append_nil, List.mem_reverse] at hitem
    have hmem := List.mem_map_of_mem (f := some) (List.mem_map_of_mem (f := (·.1)) hitem)
    rw [hits, ← hitems] at hmem
    obtain ⟨kind, -, hkind⟩ := List.mem_map.1 hmem
    exact ne_aliasOf hkind n
  refine ⟨its, hits, ?_⟩
  have hfinish := Document.finish_eq (d := { items := its.reverse ++ [] }) halias none
  rw [List.append_nil, List.reverse_reverse] at hfinish
  unfold Document.ofText
  rw [hevents]
  refine Eq.trans hread ?_
  rw [List.append_nil]
  exact congrArg (·, true) hfinish

end FirstClaim.Yaml
