import FirstClaim.Proofs.Json.Strings
import FirstClaim.Proofs.RecordForm

/-!
# Reading back JSON values

`Reads read text a`: wherever `text` stands in a file, and with blanks before it, `read` reads `a`
from it and arrives behind it. There is one lemma for each way to read a value (`reads_text`,
`Reads.optional`, `reads_list`, `reads_record`).
-/

set_option autoImplicit false

namespace FirstClaim.Json

/-! ## Blanks -/

def Blank (w : List Char) : Prop :=
  ∀ c ∈ w, c = ' ' ∨ c = '\n' ∨ c = '\t' ∨ c = '\r'

theorem Blank.nil : Blank [] := by
  simp [Blank]

theorem blank_newLine (depth : Nat) : Blank (Value.newLine depth) := by
  intro c hc
  rcases List.mem_cons.1 hc with rfl | hc
  · exact .inr (.inl rfl)
  · exact .inl (List.eq_of_mem_replicate hc)

/-- A character that blanks may stand before. -/
def isBlank (c : Char) : Bool :=
  c = ' ' || c = '\n' || c = '\t' || c = '\r'

theorem skipBlanks_eq {w : List Char} (hw : Blank w) {x : Char} (hx : isBlank x = false)
    (rest : List Char) (place : Place) :
    ∃ place', (Cursor.mk (w ++ x :: rest) place).skipBlanks = ⟨x :: rest, place'⟩ := by
  unfold Cursor.skipBlanks
  dsimp only
  induction w generalizing place with
  | nil =>
    refine ⟨place, ?_⟩
    rw [List.nil_append, Cursor.skipBlanksFrom]
    exact if_neg (Bool.eq_false_iff.1 hx)
  | cons c w ih =>
    have hc : (c = ' ' || c = '\n' || c = '\t' || c = '\r') = true := by
      simpa [or_assoc] using hw c (.head _)
    rw [List.cons_append, Cursor.skipBlanksFrom, if_pos hc]
    exact ih (fun d hd => hw d (.tail _ hd)) _

theorem peek_eq {w : List Char} (hw : Blank w) {x : Char} (hx : isBlank x = false)
    (rest : List Char) (place : Place) :
    ∃ place', peek ⟨w ++ x :: rest, place⟩ = .ok (x, ⟨x :: rest, place'⟩) := by
  obtain ⟨place', hskip⟩ := skipBlanks_eq hw hx rest place
  refine ⟨place', ?_⟩
  unfold peek
  rw [hskip]
  rfl

/-! ## Values -/

/-- A character that a written value begins with. -/
def isOpening (c : Char) : Bool :=
  c = '"' || c = '[' || c = '{'

theorem isOpening_cases {x : Char} (h : isOpening x = true) : x = '"' ∨ x = '[' ∨ x = '{' := by
  simpa [isOpening, or_assoc] using h

theorem isBlank_of_isOpening {x : Char} (h : isOpening x = true) : isBlank x = false := by
  rcases isOpening_cases h with rfl | rfl | rfl <;> rfl

/-- Wherever the text stands, with blanks before it, `read` reads `a` from it. -/
structure Reads {α : Type} (read : Reader α) (text : List Char) (a : α) : Prop where
  opens : ∃ x xs, text = x :: xs ∧ isOpening x = true
  reads : ∀ w rest place, Blank w →
    ∃ place', read ⟨w ++ (text ++ rest), place⟩ = .ok (a, ⟨rest, place'⟩)

theorem Reads.map {α β : Type} {read : Reader α} {text : List Char} {a : α}
    (h : Reads read text a) (f : α → β) : Reads (do return f (← read)) text (f a) := by
  refine ⟨h.opens, fun w rest place hw => ?_⟩
  obtain ⟨place', hread⟩ := h.reads w rest place hw
  refine ⟨place', ?_⟩
  show Except.bind (read _) _ = _
  rw [hread]
  rfl

theorem reads_text (expected s : String) : Reads (readText expected) (stringText s) s := by
  refine ⟨⟨_, _, rfl, rfl⟩, fun w rest place hw => ?_⟩
  obtain ⟨place₁, hpeek⟩ := peek_eq hw (x := '"') rfl
    (s.toList.flatMap escapeChar ++ ['"'] ++ rest) place
  obtain ⟨place₂, hread⟩ := readString_stringText s rest (Cursor.placeAfter place₁ '"')
  refine ⟨place₂, ?_⟩
  unfold readText stringText
  rw [List.cons_append, List.cons_append, hpeek]
  simp only [bind, Except.bind, if_true, Cursor.advance, List.append_assoc, List.singleton_append]
  exact hread

theorem Reads.optional {α : Type} {read : Reader α} {text : List Char} {a : α}
    (h : Reads read text a) : Reads (readOptional read) text (some a) := by
  obtain ⟨x, xs, rfl, hx⟩ := h.opens
  refine ⟨h.opens, fun w rest place hw => ?_⟩
  obtain ⟨place₁, hskip⟩ := skipBlanks_eq hw (isBlank_of_isOpening hx) (xs ++ rest) place
  have hnull : ¬ (Cursor.mk (x :: (xs ++ rest)) place₁).head? = some 'n' := by
    rcases isOpening_cases hx with rfl | rfl | rfl <;> simp [Cursor.head?]
  obtain ⟨place₂, hvalue⟩ := h.reads [] rest place₁ .nil
  refine ⟨place₂, ?_⟩
  unfold readOptional
  dsimp only
  rw [List.cons_append, hskip, if_neg hnull]
  show Except.bind (read ⟨[] ++ (x :: xs ++ rest), place₁⟩) _ = _
  rw [hvalue]
  rfl

/-! ## Items between brackets -/

/-- Items in turn between brackets: `w` stands before each item and `w'` before the end. -/
def enclosed (opening closing : Char) (w w' : List Char) (texts : List (List Char)) : List Char :=
  if texts.isEmpty then [opening, closing]
  else opening :: w ++ separated (',' :: w) texts ++ w' ++ [closing]

/-- What follows an item. -/
def itemsBehind (closing : Char) (w w' : List Char) : List (List Char) → List Char
  | [] => w' ++ [closing]
  | text :: texts => ',' :: (w ++ (text ++ itemsBehind closing w w' texts))

theorem enclosed_cons (opening closing : Char) (w w' text : List Char) (texts : List (List Char)) :
    enclosed opening closing w w' (text :: texts) =
      opening :: (w ++ (text ++ itemsBehind closing w w' texts)) := by
  have hbehind : ∀ (texts : List (List Char)) (text : List Char),
      separated (',' :: w) (text :: texts) ++ w' ++ [closing] =
        text ++ itemsBehind closing w w' texts := by
    intro texts
    induction texts with
    | nil => simp [separated, itemsBehind]
    | cons t ts ih =>
      intro text
      have hmore := ih t
      simp only [separated, List.intersperse_cons_cons, List.flatten_cons, List.append_assoc,
        List.cons_append, itemsBehind] at hmore ⊢
      rw [hmore]
  unfold enclosed
  rw [if_neg (by simp), List.append_assoc, List.append_assoc, ← List.append_assoc _ w', hbehind]
  simp

theorem length_le_itemsBehind (closing : Char) (w w' : List Char) (texts : List (List Char)) :
    texts.length ≤ (itemsBehind closing w w' texts).length := by
  induction texts with
  | nil => exact Nat.zero_le _
  | cons t ts ih =>
    simp only [itemsBehind, List.length_cons, List.length_append]
    omega

/-! ## Arrays -/

section Arrays

variable {α : Type} {read : Reader α} {w w' : List Char}

theorem nextItem_end (hw' : Blank w') (first : Bool) (rest : List Char) (place : Place) :
    ∃ place', nextItem first ⟨w' ++ ']' :: rest, place⟩ = .ok (false, ⟨']' :: rest, place'⟩) := by
  obtain ⟨place', hskip⟩ := skipBlanks_eq hw' (x := ']') rfl rest place
  refine ⟨place', ?_⟩
  unfold nextItem
  rw [hskip]
  rfl

theorem nextItem_first (hw : Blank w) {x : Char} (hx : isOpening x = true) (rest : List Char)
    (place : Place) :
    ∃ place', nextItem true ⟨w ++ x :: rest, place⟩ = .ok (true, ⟨x :: rest, place'⟩) := by
  obtain ⟨place', hskip⟩ := skipBlanks_eq hw (isBlank_of_isOpening hx) rest place
  refine ⟨place', ?_⟩
  unfold nextItem
  rw [hskip]
  rcases isOpening_cases hx with rfl | rfl | rfl <;> rfl

theorem nextItem_more (hw : Blank w) {x : Char} (hx : isOpening x = true) (rest : List Char)
    (place : Place) :
    ∃ place', nextItem false ⟨',' :: (w ++ x :: rest), place⟩ =
      .ok (true, ⟨x :: rest, place'⟩) := by
  obtain ⟨place₁, hcomma⟩ := skipBlanks_eq .nil (x := ',') rfl (w ++ x :: rest) place
  obtain ⟨place₂, hskip⟩ :=
    skipBlanks_eq hw (isBlank_of_isOpening hx) rest (Cursor.placeAfter place₁ ',')
  refine ⟨place₂, ?_⟩
  unfold nextItem
  rw [List.nil_append] at hcomma
  rw [hcomma]
  simp only [Cursor.head?, List.head?_cons, Cursor.advance, hskip]
  rcases isOpening_cases hx with rfl | rfl | rfl <;> rfl

theorem readItems_item {first : Bool} {c c₁ c₂ : Cursor} {a : α}
    (hnext : nextItem first c = .ok (true, c₁)) (hread : read c₁ = .ok (a, c₂)) (fuel : Nat)
    (before : List α) :
    readItems read (fuel + 1) first before c = readItems read fuel false (a :: before) c₂ := by
  rw [readItems, hnext]
  simp only [bind, Except.bind, if_true, hread]

theorem readItems_end {first : Bool} {c c₁ : Cursor} (hnext : nextItem first c = .ok (false, c₁))
    (fuel : Nat) (before : List α) :
    readItems read (fuel + 1) first before c = .ok (before.reverse, c₁.advance) := by
  rw [readItems, hnext]
  simp [bind, Except.bind]

/-- The items behind the first one are read in turn. -/
theorem readItems_behind (hw : Blank w) (hw' : Blank w') {items : List (List Char × α)}
    (hitems : ∀ x ∈ items, Reads read x.1 x.2) {fuel : Nat} (hfuel : items.length < fuel)
    (before : List α) (rest : List Char) (place : Place) :
    ∃ place', readItems read fuel false before
        ⟨itemsBehind ']' w w' (items.map (·.1)) ++ rest, place⟩ =
      .ok (before.reverse ++ items.map (·.2), ⟨rest, place'⟩) := by
  induction items generalizing fuel before place with
  | nil =>
    obtain ⟨fuel, rfl⟩ := Nat.exists_eq_add_one.2 hfuel
    obtain ⟨place', hend⟩ := nextItem_end hw' false rest place
    refine ⟨Cursor.placeAfter place' ']', ?_⟩
    rw [List.map_nil, itemsBehind, List.append_assoc, List.singleton_append, readItems_end hend,
      List.map_nil, List.append_nil]
    rfl
  | cons item items ih =>
    obtain ⟨fuel, rfl⟩ := Nat.exists_eq_add_one.2 (Nat.zero_lt_of_lt hfuel)
    obtain ⟨text, a⟩ := item
    have hitem : Reads read text a := hitems _ (.head _)
    obtain ⟨x, xs, rfl, hx⟩ := hitem.opens
    obtain ⟨place₁, hmore⟩ := nextItem_more hw hx
      (xs ++ (itemsBehind ']' w w' (items.map (·.1)) ++ rest)) place
    obtain ⟨place₂, hread⟩ := hitem.reads [] (itemsBehind ']' w w' (items.map (·.1)) ++ rest)
      place₁ .nil
    obtain ⟨place₃, hrest⟩ := ih (fun y hy => hitems y (.tail _ hy))
      (Nat.lt_of_succ_lt_succ hfuel) (a :: before) place₂
    refine ⟨place₃, ?_⟩
    rw [List.map_cons, itemsBehind, List.cons_append, List.append_assoc, List.append_assoc]
    refine (readItems_item hmore hread fuel before).trans (hrest.trans ?_)
    simp

theorem readList_opens {v : List Char} (hv : Blank v) (rest : List Char) (place : Place) :
    ∃ place', readList read ⟨v ++ '[' :: rest, place⟩ =
      readItems read (rest.length + 2) true [] ⟨rest, place'⟩ := by
  obtain ⟨place', hpeek⟩ := peek_eq hv (x := '[') rfl rest place
  refine ⟨Cursor.placeAfter place' '[', ?_⟩
  rw [readList, hpeek]
  rfl

/-- **Items that are written in an array are read in turn.** -/
theorem reads_list (hw : Blank w) (hw' : Blank w') {items : List (List Char × α)}
    (hitems : ∀ x ∈ items, Reads read x.1 x.2) :
    Reads (readList read) (enclosed '[' ']' w w' (items.map (·.1))) (items.map (·.2)) := by
  cases items with
  | nil =>
    refine ⟨⟨'[', [']'], rfl, rfl⟩, fun v rest place hv => ?_⟩
    obtain ⟨place₁, hstart⟩ := readList_opens hv (']' :: rest) place
    obtain ⟨place₂, hend⟩ := nextItem_end .nil true rest place₁
    exact ⟨Cursor.placeAfter place₂ ']', hstart.trans (readItems_end hend _ [])⟩
  | cons item items =>
    obtain ⟨text, a⟩ := item
    have hitem : Reads read text a := hitems _ (.head _)
    obtain ⟨x, xs, rfl, hx⟩ := hitem.opens
    rw [List.map_cons, enclosed_cons]
    refine ⟨⟨'[', _, rfl, rfl⟩, fun v rest place hv => ?_⟩
    rw [List.cons_append, List.append_assoc, List.append_assoc]
    obtain ⟨place₁, hstart⟩ := readList_opens hv
      (w ++ (x :: xs ++ (itemsBehind ']' w w' (items.map (·.1)) ++ rest))) place
    obtain ⟨place₂, hfirst⟩ := nextItem_first hw hx
      (xs ++ (itemsBehind ']' w w' (items.map (·.1)) ++ rest)) place₁
    obtain ⟨place₃, hread⟩ := hitem.reads [] (itemsBehind ']' w w' (items.map (·.1)) ++ rest)
      place₂ .nil
    have hlength := length_le_itemsBehind ']' w w' (items.map (·.1))
    rw [List.length_map] at hlength
    have hfuel : items.length <
        (w ++ (x :: xs ++ (itemsBehind ']' w w' (items.map (·.1)) ++ rest))).length + 1 := by
      simp only [List.length_append, List.length_cons]
      omega
    obtain ⟨place₄, hrest⟩ := readItems_behind hw hw' (fun y hy => hitems y (.tail _ hy))
      hfuel [a] rest place₃
    exact ⟨place₄, hstart.trans ((readItems_item hfirst hread _ []).trans hrest)⟩

end Arrays

/-! ## Objects -/

section Objects

variable {σ : Type} {form : RecordForm Reader σ} {w w' : List Char}

/-- A member of an object: its name and the text of its value, with `b` before the value. -/
def memberText (b : List Char) (m : String × List Char) : List Char :=
  stringText m.1 ++ ':' :: (b ++ m.2)

theorem nextMember_end (hw' : Blank w') (first : Bool) (rest : List Char) (place : Place) :
    ∃ place', nextMember first ⟨w' ++ '}' :: rest, place⟩ = .ok (false, ⟨'}' :: rest, place'⟩) := by
  obtain ⟨place', hskip⟩ := skipBlanks_eq hw' (x := '}') rfl rest place
  refine ⟨place', ?_⟩
  unfold nextMember
  rw [hskip]
  rfl

theorem nextMember_first (hw : Blank w) (rest : List Char) (place : Place) :
    ∃ place', nextMember true ⟨w ++ '"' :: rest, place⟩ = .ok (true, ⟨'"' :: rest, place'⟩) := by
  obtain ⟨place', hskip⟩ := skipBlanks_eq hw (x := '"') rfl rest place
  refine ⟨place', ?_⟩
  unfold nextMember
  rw [hskip]
  rfl

theorem nextMember_more (hw : Blank w) (rest : List Char) (place : Place) :
    ∃ place', nextMember false ⟨',' :: (w ++ '"' :: rest), place⟩ =
      .ok (true, ⟨'"' :: rest, place'⟩) := by
  obtain ⟨place₁, hcomma⟩ := skipBlanks_eq .nil (x := ',') rfl (w ++ '"' :: rest) place
  obtain ⟨place₂, hskip⟩ := skipBlanks_eq hw (x := '"') rfl rest (Cursor.placeAfter place₁ ',')
  refine ⟨place₂, ?_⟩
  unfold nextMember
  rw [List.nil_append] at hcomma
  rw [hcomma]
  simp only [Cursor.head?, List.head?_cons, Cursor.advance, hskip]
  rfl

theorem readColon_eq (rest : List Char) (place : Place) :
    ∃ place', readColon ⟨':' :: rest, place⟩ = .ok ⟨rest, place'⟩ := by
  obtain ⟨place', hskip⟩ := skipBlanks_eq .nil (x := ':') rfl rest place
  refine ⟨Cursor.placeAfter place' ':', ?_⟩
  unfold readColon
  rw [List.nil_append] at hskip
  rw [hskip]
  rfl

theorem readMembers_member {key : String} {m : Member Reader σ} {s s₁ : σ} {b text : List Char}
    {seen : List String} (hmember : form.member? key = some m) (hnew : seen.contains key = false)
    (hb : Blank b) (hread : Reads (m.read s) text s₁) {first : Bool} {c : Cursor}
    {rest : List Char} {place : Place}
    (hnext : nextMember first c =
      .ok (true, ⟨stringText key ++ ':' :: (b ++ (text ++ rest)), place⟩)) :
    ∃ place', ∀ fuel, readMembers form (fuel + 1) first seen s c =
      readMembers form fuel false (key :: seen) s₁ ⟨rest, place'⟩ := by
  obtain ⟨place₁, hkey⟩ := readString_stringText key (':' :: (b ++ (text ++ rest)))
    (Cursor.placeAfter place '"')
  obtain ⟨place₂, hcolon⟩ := readColon_eq (b ++ (text ++ rest)) place₁
  obtain ⟨place₃, hvalue⟩ := hread.reads b rest place₂ hb
  refine ⟨place₃, fun fuel => ?_⟩
  have hadvance : (Cursor.mk (stringText key ++ ':' :: (b ++ (text ++ rest))) place).advance =
      ⟨key.toList.flatMap escapeChar ++ '"' :: ':' :: (b ++ (text ++ rest)),
        Cursor.placeAfter place '"'⟩ := by
    simp [stringText, Cursor.advance]
  rw [readMembers, hnext]
  simp only [bind, Except.bind, if_true, hadvance, hkey, hmember, hnew, hcolon, hvalue]
  rfl

theorem readMembers_end {first : Bool} {c c₁ : Cursor} {seen : List String} {s : σ}
    (hnext : nextMember first c = .ok (false, c₁)) (hmissing : form.missing? seen = none)
    (fuel : Nat) : readMembers form (fuel + 1) first seen s c = .ok (s, c₁.advance) := by
  rw [readMembers, hnext]
  simp [bind, Except.bind, hmissing]

/-- The members behind the first one are read in turn. -/
theorem readMembers_behind {seen seen' : List String} {s s' : σ}
    {members : List (String × List Char)} (h : Fills Reads form seen s members seen' s')
    (hmissing : form.missing? seen' = none) {b : List Char} (hb : Blank b) (hw : Blank w)
    (hw' : Blank w') {fuel : Nat} (hfuel : members.length < fuel) (rest : List Char)
    (place : Place) :
    ∃ place', readMembers form fuel false seen s
        ⟨itemsBehind '}' w w' (members.map (memberText b)) ++ rest, place⟩ =
      .ok (s', ⟨rest, place'⟩) := by
  induction h generalizing fuel place with
  | nil seen s =>
    obtain ⟨fuel, rfl⟩ := Nat.exists_eq_add_one.2 hfuel
    obtain ⟨place', hend⟩ := nextMember_end hw' false rest place
    refine ⟨Cursor.placeAfter place' '}', ?_⟩
    rw [List.map_nil, itemsBehind, List.append_assoc, List.singleton_append,
      readMembers_end hend hmissing]
    rfl
  | @member seen seen' s s₁ s' key m text members hmember hnew hread _ ih =>
    obtain ⟨fuel, rfl⟩ := Nat.exists_eq_add_one.2 (Nat.zero_lt_of_lt hfuel)
    obtain ⟨place₁, hmore⟩ := nextMember_more hw
      (key.toList.flatMap escapeChar ++ ['"'] ++
        ':' :: (b ++ (text ++ (itemsBehind '}' w w' (members.map (memberText b)) ++ rest)))) place
    obtain ⟨place₂, hstep⟩ := readMembers_member hmember hnew hb hread hmore
    obtain ⟨place₃, hrest⟩ := ih hmissing (Nat.lt_of_succ_lt_succ hfuel) place₂
    refine ⟨place₃, Eq.trans ?_ ((hstep fuel).trans hrest)⟩
    simp [itemsBehind, memberText, stringText]

theorem readRecord_opens {v : List Char} (hv : Blank v) (rest : List Char) (place : Place) :
    ∃ place', readRecord form ⟨v ++ '{' :: rest, place⟩ =
      readMembers form (rest.length + 2) true [] form.start ⟨rest, place'⟩ := by
  obtain ⟨place', hpeek⟩ := peek_eq hv (x := '{') rfl rest place
  refine ⟨Cursor.placeAfter place' '{', ?_⟩
  rw [readRecord, hpeek]
  rfl

/-- **A record that is written as an object is read from its members in turn.** -/
theorem reads_record {seen : List String} {s : σ} {members : List (String × List Char)}
    (h : Fills Reads form [] form.start members seen s) (hmissing : form.missing? seen = none)
    {b : List Char} (hb : Blank b) (hw : Blank w) (hw' : Blank w') :
    Reads (readRecord form) (enclosed '{' '}' w w' (members.map (memberText b))) s := by
  cases h with
  | nil =>
    refine ⟨⟨'{', ['}'], rfl, rfl⟩, fun v rest place hv => ?_⟩
    obtain ⟨place₁, hstart⟩ := readRecord_opens hv ('}' :: rest) place
    obtain ⟨place₂, hend⟩ := nextMember_end .nil true rest place₁
    exact ⟨Cursor.placeAfter place₂ '}', hstart.trans (readMembers_end hend hmissing _)⟩
  | @member _ _ _ s₁ _ key m text members hmember hnew hread hfills =>
    rw [List.map_cons, memberText, enclosed_cons]
    refine ⟨⟨'{', _, rfl, rfl⟩, fun v rest place hv => ?_⟩
    generalize hbehind : itemsBehind '}' w w' (members.map (memberText b)) = behind
    have hlength := length_le_itemsBehind '}' w w' (members.map (memberText b))
    rw [List.length_map, hbehind] at hlength
    have hfuel : members.length < (w ++ (stringText key ++ ':' ::
        (b ++ (text ++ (behind ++ rest))))).length + 1 := by
      simp only [List.length_append, List.length_cons]
      omega
    obtain ⟨place₁, hstart⟩ := readRecord_opens hv (w ++ (stringText key ++ ':' ::
      (b ++ (text ++ (behind ++ rest))))) place
    obtain ⟨place₂, hfirst⟩ := nextMember_first hw
      (key.toList.flatMap escapeChar ++ ['"'] ++ ':' :: (b ++ (text ++ (behind ++ rest)))) place₁
    obtain ⟨place₃, hstep⟩ := readMembers_member hmember hnew hb hread hfirst
    obtain ⟨place₄, hrest⟩ := readMembers_behind hfills hmissing hb hw hw' hfuel rest place₃
    rw [hbehind] at hrest
    refine ⟨place₄, Eq.trans ?_ (hstart.trans ((hstep _).trans hrest))⟩
    simp [stringText]

end Objects

/-! ## Whole texts -/

/-- A text that holds a value and nothing else is read as that value. -/
theorem Reads.parse {α : Type} {read : Reader α} {text : List Char} {a : α}
    (h : Reads read text a) : Json.parse read (String.ofList text) = .ok a := by
  obtain ⟨place', hread⟩ := h.reads [] [] ⟨1, 0⟩ .nil
  have hstart : Cursor.ofString (String.ofList text) = ⟨[] ++ (text ++ []), ⟨1, 0⟩⟩ := by
    rw [Cursor.ofString, String.toList_ofList, List.append_nil, List.nil_append]
  unfold Json.parse
  rw [hstart, hread]
  rfl

namespace Value

/-- Items without blanks are items between brackets. -/
theorem separated_eq_enclosed (opening closing : Char) (texts : List (List Char)) :
    opening :: separated [','] texts ++ [closing] = enclosed opening closing [] [] texts := by
  unfold enclosed
  split
  · rename_i hempty
    obtain rfl := List.isEmpty_iff.1 hempty
    rfl
  · simp

theorem compactItems_eq_map (items : List Value) :
    compactItems items = items.map compactText := by
  induction items with
  | nil => rfl
  | cons v items ih => rw [compactItems, ih, List.map_cons]

theorem compactMembers_eq_map (members : List (String × Value)) :
    compactMembers members = members.map fun m => stringText m.1 ++ ':' :: compactText m.2 := by
  induction members with
  | nil => rfl
  | cons m members ih =>
    obtain ⟨key, v⟩ := m
    rw [compactMembers, ih, List.map_cons]

theorem block_eq_enclosed (opening closing : Char) (depth : Nat) (texts : List (List Char)) :
    block opening closing depth texts =
      enclosed opening closing (newLine (depth + 1)) (newLine depth) texts := by
  unfold block enclosed
  split
  · rfl
  · simp

theorem prettyItems_eq_map (depth : Nat) (items : List Value) :
    prettyItems depth items = items.map (prettyText depth) := by
  induction items with
  | nil => rfl
  | cons v items ih => rw [prettyItems, ih, List.map_cons]

theorem prettyMembers_eq_map (depth : Nat) (members : List (String × Value)) :
    prettyMembers depth members =
      members.map fun m => stringText m.1 ++ ':' :: ([' '] ++ prettyText depth m.2) := by
  induction members with
  | nil => rfl
  | cons m members ih =>
    obtain ⟨key, v⟩ := m
    rw [prettyMembers, ih, List.map_cons]
    rfl

end Value

end FirstClaim.Json
