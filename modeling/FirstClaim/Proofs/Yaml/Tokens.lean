import FirstClaim.Proofs.Yaml.ScalarTokens

/-!
# Tokens of written documents

A mapping of texts is given out as one mapping in a block (`Lexer.gives_mapping`). A document is a
mapping of texts with a member `rules` behind them, which is an empty list or a list of mappings of
texts; `tokens_document` says what the tokens of the whole text are.
-/

set_option autoImplicit false

namespace FirstClaim.Yaml

/-! ## What is given out -/

/-- The tokens of a member. -/
def memberKinds (member : String × String) : List TokenKind :=
  [.key, .scalar member.1 .plain, .value, .scalar member.2 (styleOf member.2)]

def entryKinds (members : List (String × String)) : List TokenKind :=
  .blockEntry :: .blockMappingStart :: members.flatMap memberKinds ++ [.blockEnd]

def listKinds (entries : List (List (String × String))) : List TokenKind :=
  if entries.isEmpty then [.flowSequenceStart, .flowSequenceEnd] else entries.flatMap entryKinds

def documentKinds (members : List (String × String)) (entries : List (List (String × String))) :
    List TokenKind :=
  .blockMappingStart :: members.flatMap memberKinds ++
    ([.key, .scalar "rules" .plain, .value] ++ (listKinds entries ++ [.blockEnd, .streamEnd]))

def Named (members : List (String × String)) : Prop :=
  ∀ member ∈ members, isName member.1.toList = true

/-- The list behind its name. -/
def listText (entries : List (List (String × String))) : List Char :=
  if entries.isEmpty then " []\n".toList else '\n' :: entries.flatMap entryText

def documentText (members : List (String × String)) (entries : List (List (String × String))) :
    List Char :=
  members.flatMap (memberText 0) ++ "rules:".toList ++ listText entries

namespace Lexer

/-! ## Members -/

section Members

variable {i k : Nat} {indent : Int} {indents : List Int} {rest : List Char} {s : Lexer}

theorem beginsToken_name {name rest : List Char} (h : isName name = true) :
    beginsToken (name ++ rest) = true := by
  cases name with
  | nil => cases h
  | cons x w =>
    have hx : x.isLower = true := by
      simp [isName] at h
      exact h.1.1
    simp [beginsToken, isVisible_of_isLower hx, ne_of_isLower hx (d := '#') rfl,
      ne_of_isLower hx (d := '\ufeff') rfl]

theorem gives_member {member : String × String} (hname : isName member.1.toList = true)
    (h : Before indent indents i (memberText i member ++ (spaces k ++ rest)) s)
    (hindent : indent ≤ i) (hk : k ≤ i) (hrest : beginsToken rest = true) : ∃ s',
      Gives s (opening indent i ++ memberKinds member) s' ∧
        Before i (opened indent indents i) k rest s' := by
  have htext : memberText i member ++ (spaces k ++ rest) = member.1.toList ++
      ':' :: ' ' :: (scalarText (i + 2) member.2 ++ (spaces k ++ rest)) := by
    simp [memberText]
  rw [htext] at h
  obtain ⟨m, given, hm, hgives⟩ := h.gives_name hname rfl hindent
  obtain ⟨s', hgives', hbefore⟩ :=
    gives_text (opened indent indents i) member.2 hm hk hrest given
  refine ⟨s', ?_, hbefore⟩
  rw [String.ofList_toList] at hgives
  have hboth := hgives.trans hgives'
  rwa [List.append_assoc] at hboth

/-- Members in turn, each in a line of its own. -/
theorem gives_members (hk : k ≤ i) (hrest : beginsToken rest = true)
    {members : List (String × String)} (hnames : Named members) : ∃ j tail,
      j ≤ i ∧ beginsToken tail = true ∧
      members.flatMap (fun member => spaces i ++ memberText i member) ++ (spaces k ++ rest) =
        spaces j ++ tail ∧
      ∀ indents s, Before i indents j tail s → ∃ s',
        Gives s (members.flatMap memberKinds) s' ∧ Before i indents k rest s' := by
  induction members with
  | nil => exact ⟨k, rest, hk, hrest, rfl, fun indents s h => ⟨s, .refl s, h⟩⟩
  | cons member members ih =>
    have hname := hnames member (.head _)
    obtain ⟨j, tail, hj, htail, htext, hgives⟩ := ih fun m hm => hnames m (.tail _ hm)
    refine ⟨i, memberText i member ++ (spaces j ++ tail), Nat.le_refl i, ?_, ?_, ?_⟩
    · unfold memberText
      rw [List.append_assoc]
      exact beginsToken_name hname
    · rw [← htext]
      simp
    · intro indents s h
      obtain ⟨s₁, hgives₁, hbefore₁⟩ := gives_member hname h (Int.le_refl i) hj htail
      have hopening : opening (i : Int) i = [] := if_neg (Int.lt_irrefl _)
      have hopened : opened (i : Int) indents i = indents := if_neg (Int.lt_irrefl _)
      rw [hopening] at hgives₁
      rw [hopened] at hbefore₁
      obtain ⟨s', hgives', hbefore'⟩ := hgives indents s₁ hbefore₁
      exact ⟨s', hgives₁.trans hgives', hbefore'⟩

/-- **Members are given out as a mapping**, which begins before the first of them. -/
theorem gives_mapping {first : String × String} {members : List (String × String)}
    (hnames : Named (first :: members))
    (h : Before indent indents i (memberText i first ++
      (members.flatMap (fun member => spaces i ++ memberText i member) ++ (spaces k ++ rest))) s)
    (hindent : indent < i) (hk : k ≤ i) (hrest : beginsToken rest = true) : ∃ s',
      Gives s (.blockMappingStart :: (first :: members).flatMap memberKinds) s' ∧
        Before i (indent :: indents) k rest s' := by
  obtain ⟨j, tail, hj, htail, htext, hgives⟩ :=
    gives_members hk hrest fun member hmember => hnames member (.tail _ hmember)
  rw [htext] at h
  obtain ⟨s₁, hgives₁, hbefore₁⟩ :=
    gives_member (hnames first (.head _)) h (Int.le_of_lt hindent) hj htail
  have hopening : opening indent i = [.blockMappingStart] := if_pos hindent
  have hopened : opened indent indents i = indent :: indents := if_pos hindent
  rw [hopening] at hgives₁
  rw [hopened] at hbefore₁
  obtain ⟨s', hgives', hbefore'⟩ := hgives _ s₁ hbefore₁
  exact ⟨s', hgives₁.trans hgives', hbefore'⟩

end Members

/-! ## Entries -/

/-- The blocks that may be open before a token in the first column, and what closing the blocks
behind that column gives out: the mapping of the document alone, or an entry in it. -/
inductive Within : Int → List Int → List TokenKind → Prop
  | mapping : Within 0 [-1] []
  | entry : Within 2 [0, -1] [.blockEnd]

section Entries

variable {indent : Int} {indents : List Int} {closed : List TokenKind} {rest : List Char}
  {s : Lexer}

/-- Before a token in the first column an entry is closed. -/
theorem Within.closeBlocks (h : Within indent indents closed) (m : Mark) (given : Nat) :
    ∃ ts : List Token, ts.map (·.kind) = closed ∧ ts.length ≤ 1 ∧
      (∀ t ∈ ts, t.kind ≠ .streamEnd) ∧ ∀ rest,
        (resting indent indents true ⟨rest, m⟩ given).closeBlocks 0 =
          { resting 0 [-1] true ⟨rest, m⟩ given with queue := ts } := by
  cases h with
  | mapping => exact ⟨[], rfl, Nat.zero_le _, by simp, fun _ => closeBlocks_eq (Int.le_refl 0)⟩
  | entry => exact ⟨[⟨.blockEnd, m, m⟩], rfl, Nat.le_refl _, by simp, fun _ => rfl⟩

/-- The hyphen of an entry is given out behind the end of the entry before it. -/
theorem gives_hyphen (h : Before indent indents 0 ('-' :: ' ' :: rest) s)
    (hwithin : Within indent indents closed) (hrest : beginsToken rest = true) : ∃ s',
      Gives s (closed ++ [.blockEntry]) s' ∧ Before 0 [-1] 2 rest s' := by
  obtain ⟨m, given, hm, hlength, hqueue, hread⟩ := h.readNext
  obtain ⟨ts, rfl, hfew, hend, hclose⟩ := hwithin.closeBlocks m given
  have hhyphen : ({ resting 0 [-1] true ⟨'-' :: ' ' :: rest, m⟩ given with queue := ts } :
      Lexer).readToken '-' (' ' :: rest) =
        .ok { resting 0 [-1] true ⟨' ' :: rest, m.next⟩ given with
          queue := ts ++ [⟨.blockEntry, m, m.next⟩] } := by
    have hdocument : startsWithIndicator '-' ('-' :: ' ' :: rest) = false := by
      cases rest <;> rfl
    simp [readToken, startsWithIndicator_eq_false, hdocument, startsBlank, isBlank, readHyphen,
      openBlock, indented, inFlow, resting, mark, hm, dropKey, currentKey?, take, push, bind,
      Except.bind, Cursor.advanceBy, Cursor.advance]
  have hnext : s.readNext = .ok { resting 0 [-1] true ⟨' ' :: rest, m.next⟩ given with
      queue := ts ++ [⟨.blockEntry, m, m.next⟩] } := by
    rw [hread, ← hhyphen]
    exact congrArg (readToken · _ _) (hclose _)
  have hgives := gives_resting hqueue hnext (by simpa [or_imp, forall_and] using hend)
    (by simp at hlength ⊢; omega)
  rw [List.map_append] at hgives
  exact ⟨_, hgives, before_spaces 0 [-1] hrest (n := 1) (by simp [Mark.next, hm]) _⟩

/-- At the end of the text all blocks are closed. -/
theorem ends_document (h : Before indent indents 0 [] s) (hwithin : Within indent indents closed) :
    Ends s (closed ++ [.blockEnd, .streamEnd]) := by
  obtain ⟨allowed, c, given, m, rfl, -, hm, hskip⟩ := h
  obtain ⟨ts, rfl, hfew, hend, hclose⟩ := hwithin.closeBlocks m given
  have hread := readNext_eq (s := resting indent indents allowed c given) hskip
    (keyless_of_keys rfl).dropStaleKeys
  have hreadEnd : ({ resting 0 [-1] true ⟨[], m⟩ given with queue := ts } : Lexer).readEnd =
      .ok { resting (-1) [] false ⟨[], m⟩ given with
        queue := (ts ++ [⟨.blockEnd, m, m⟩]) ++ [⟨.streamEnd, m, m⟩] } := by
    simp [readEnd, resting, mark, hm, closeBlocks, closeBlocksIn, inFlow, dropKey, currentKey?,
      push, bind, Except.bind]
  have hnext : (resting indent indents allowed c given).readNext =
      .ok { resting (-1) [] false ⟨[], m⟩ given with
        queue := (ts ++ [⟨.blockEnd, m, m⟩]) ++ [⟨.streamEnd, m, m⟩] } := by
    rw [hread, ← hreadEnd, ← hclose []]
    dsimp only [Cursor.column]
    rw [hm]
    rfl
  have hblocks : ∀ t ∈ ts ++ [⟨.blockEnd, m, m⟩], t.kind ≠ .streamEnd := by
    simpa [or_imp, forall_and] using hend
  have hends :=
    Ends.of_readNext rfl hnext (keyless_of_keys rfl) hblocks rfl rfl (by simp; omega)
  simpa using hends

/-- An opening bracket was read and given out. -/
def bracketed (m : Mark) (given : Nat) : Lexer :=
  { resting 0 [-1] true ⟨[']', '\n'], m⟩ given with keys := [none, none] }

theorem keyless_bracketed (m : Mark) (given : Nat) : (bracketed m given).Keyless := by
  simp [Keyless, bracketed]

theorem gives_opening (m : Mark) (given : Nat) :
    Gives (resting 0 [-1] false ⟨" []\n".toList, m⟩ given) [.flowSequenceStart]
      (bracketed m.next.next (given + 1)) := by
  have hbegins : beginsToken ['[', ']', '\n'] = true := rfl
  have hskip := skipToToken_spaces hbegins false false 1 4 m
  have hcolumn : (0 : Int) ≤ (m.forward 1).column := Int.natCast_nonneg _
  have hnext := readNext_eq (s := resting 0 [-1] false ⟨" []\n".toList, m⟩ given) hskip
    (keyless_of_keys rfl).dropStaleKeys
  dsimp only at hnext
  rw [closeBlocks_eq hcolumn] at hnext
  have hread : (resting 0 [-1] false ⟨" []\n".toList, m⟩ given).readNext =
      .ok { bracketed m.next.next given with
        queue := [⟨.flowSequenceStart, m.next, m.next.next⟩] } := hnext
  refine Gives.of_readNext rfl hread ?_ ?_ ?_
  · exact keyless_bracketed m.next.next given
  · simp
  · simp [bracketed, resting]

theorem gives_closing (m : Mark) (given : Nat) :
    Gives (bracketed m given) [.flowSequenceEnd]
      (resting 0 [-1] false ⟨['\n'], m.next⟩ (given + 1)) := by
  have hbegins : beginsToken [']', '\n'] = true := rfl
  have hskip := skipToToken_spaces hbegins true true 0 2 m
  have hclosing : ∀ s : Lexer, s.readToken ']' ['\n'] = s.readClosing .flowSequenceEnd := by
    intro s
    simp [readToken, startsWithIndicator_eq_false]
  have hread : (bracketed m given).readNext =
      .ok { resting 0 [-1] false ⟨['\n'], m.next⟩ given with
        queue := [⟨.flowSequenceEnd, m, m.next⟩] } := by
    rw [readNext_eq (s := bracketed m given) hskip (keyless_bracketed m given).dropStaleKeys]
    exact hclosing _
  exact gives_resting rfl hread (by simp) (by simp [bracketed, resting])

/-! ## Lists -/

theorem startsToken_entries (entries : List (List (String × String))) :
    beginsToken (entries.flatMap entryText) = true := by
  rcases entries with - | ⟨- | ⟨member, members⟩, entries⟩ <;> rfl

/-- The entries of a list are given out up to the end of the text. -/
theorem ends_entries {entries : List (List (String × String))}
    (hentries : ∀ members ∈ entries, members ≠ [] ∧ Named members)
    (h : Before indent indents 0 (entries.flatMap entryText) s)
    (hwithin : Within indent indents closed) :
    Ends s (closed ++ (entries.flatMap entryKinds ++ [.blockEnd, .streamEnd])) := by
  induction entries generalizing s indent indents closed with
  | nil => exact ends_document h hwithin
  | cons members entries ih =>
    obtain ⟨hne, hnames⟩ := hentries members (.head _)
    obtain ⟨first, more, rfl⟩ := List.exists_cons_of_ne_nil hne
    have htext : ((first :: more) :: entries).flatMap entryText = '-' :: ' ' ::
        (memberText 2 first ++ (more.flatMap (fun member => spaces 2 ++ memberText 2 member) ++
          (spaces 0 ++ entries.flatMap entryText))) := by
      simp [entryText, spaces, List.replicate]
    have hfirst : beginsToken (memberText 2 first ++
        (more.flatMap (fun member => spaces 2 ++ memberText 2 member) ++
          (spaces 0 ++ entries.flatMap entryText))) = true := by
      unfold memberText
      rw [List.append_assoc]
      exact beginsToken_name (hnames first (.head _))
    rw [htext] at h
    obtain ⟨s₁, hgives₁, hbefore₁⟩ := gives_hyphen h hwithin hfirst
    obtain ⟨s₂, hgives₂, hbefore₂⟩ := gives_mapping hnames hbefore₁ (by decide) (Nat.zero_le 2)
      (startsToken_entries entries)
    have hends := ih (fun other hother => hentries other (.tail _ hother)) hbefore₂ .entry
    have hall := hgives₁.ends (hgives₂.ends hends)
    simpa [entryKinds] using hall

/-- **The list behind its name** is given out up to the end of the text. -/
theorem ends_list {entries : List (List (String × String))}
    (hentries : ∀ members ∈ entries, members ≠ [] ∧ Named members) (m : Mark) (given : Nat) :
    Ends (resting 0 [-1] false ⟨listText entries, m⟩ given)
      (listKinds entries ++ [.blockEnd, .streamEnd]) := by
  unfold listText listKinds
  split
  · have hgives := (gives_opening m given).trans (gives_closing m.next.next (given + 1))
    have hend : beginsToken [] = true := rfl
    have hbefore := before_newLine 0 [-1] hend m.next.next.next false 0 (given + 1 + 1)
    exact hgives.ends (ends_document hbefore .mapping)
  · have hbefore := before_newLine 0 [-1] (startsToken_entries entries) m false 0 given
    exact ends_entries hentries hbefore .mapping

end Entries

end Lexer

/-! ## Documents -/

theorem beginsToken_document {members : List (String × String)}
    (hmembers : members ≠ [] ∧ Named members) (entries : List (List (String × String))) :
    Lexer.beginsToken (documentText members entries) = true := by
  obtain ⟨hne, hnames⟩ := hmembers
  obtain ⟨first, members, rfl⟩ := List.exists_cons_of_ne_nil hne
  unfold documentText
  rw [List.flatMap_cons, memberText]
  simp only [List.append_assoc]
  exact Lexer.beginsToken_name (hnames first (.head _))

/-- **The tokens of a document** are those of its members and its list, and no error ends them. -/
theorem tokens_document {members : List (String × String)} {entries : List (List (String × String))}
    (hmembers : members ≠ [] ∧ Named members)
    (hentries : ∀ members ∈ entries, members ≠ [] ∧ Named members) : ∃ ts,
      tokens (documentText members entries) = (ts, none) ∧
        ts.map (·.kind) = documentKinds members entries := by
  have hbegins := beginsToken_document hmembers entries
  obtain ⟨hne, hnames⟩ := hmembers
  obtain ⟨first, members, rfl⟩ := List.exists_cons_of_ne_nil hne
  have htext : documentText (first :: members) entries = memberText 0 first ++
      (members.flatMap (fun member => spaces 0 ++ memberText 0 member) ++
        (spaces 0 ++ ("rules".toList ++ ':' :: listText entries))) := by
    simp [documentText, spaces]
  have hrules : isName "rules".toList = true := by decide
  have hbehind : Lexer.beginsToken ("rules".toList ++ ':' :: listText entries) = true :=
    Lexer.beginsToken_name hrules
  have hlist : startsBlank (listText entries) = true := by
    unfold listText
    split <;> rfl
  have hbefore := Lexer.before_spaces (-1) [] hbegins (m := .start) (n := 0) rfl 0
  generalize hstart : Lexer.resting (-1) [] true
    ⟨spaces 0 ++ documentText (first :: members) entries, .start⟩ 0 = s at hbefore
  rw [htext] at hbefore
  obtain ⟨s₁, hgives₁, hbefore₁⟩ := Lexer.gives_mapping (i := 0) hnames hbefore (by decide)
    (Nat.le_refl 0) hbehind
  obtain ⟨m, given, -, hgives₂⟩ := hbefore₁.gives_name hrules hlist (Int.le_refl 0)
  obtain ⟨ts, n, hkinds, hcost, hread⟩ :=
    hgives₁.ends (hgives₂.ends (Lexer.ends_list hentries m given))
  subst hstart
  obtain ⟨fuel, hfuel⟩ := Nat.exists_eq_add_of_le' hcost
  refine ⟨ts, ?_, hkinds⟩
  have hall := hread fuel []
  rw [← hfuel] at hall
  exact hall

end FirstClaim.Yaml
