import FirstClaim.Yaml.Event
import FirstClaim.Proofs.Yaml.Characters

/-!
# Events of written documents

`Parser.Run p kinds p'`: the goals of `p` are reached one after another with events of these kinds,
up to the state `p'`. A mapping of texts is reached as one node whatever goals stand behind it
(`Parser.run_mapping`), and `events_document` says what the events of a written document are.
-/

set_option autoImplicit false

namespace FirstClaim.Yaml

/-! ## What is reached -/

def memberEvents (member : String × String) : List EventKind :=
  [.scalar member.1 .plain none none, .scalar member.2 (styleOf member.2) none none]

def entryEvents (members : List (String × String)) : List EventKind :=
  .mappingStart none :: members.flatMap memberEvents ++ [.mappingEnd]

def listEvents (entries : List (List (String × String))) : List EventKind :=
  .sequenceStart none :: entries.flatMap entryEvents ++ [.sequenceEnd]

/-- The events of the node that a document holds. -/
def contentEvents (members : List (String × String)) (entries : List (List (String × String))) :
    List EventKind :=
  .mappingStart none :: members.flatMap memberEvents ++
    (.scalar "rules" .plain none none :: listEvents entries ++ [.mappingEnd])

namespace Parser

/-! ## Runs -/

/-- Goals are reached one after another with events of these kinds. -/
inductive Run : Parser → List EventKind → Parser → Prop
  | refl (p : Parser) : Run p [] p
  | step {p p₁ p' : Parser} {g : Goal} {goals : List Goal} {kind : EventKind} {m : Mark}
      {kinds : List EventKind} : p.goals = g :: goals →
      reach g { p with goals } = .ok (⟨kind, m⟩, p₁) → Run p₁ kinds p' → Run p (kind :: kinds) p'

namespace Run

theorem trans {p₁ p₂ p₃ : Parser} {kinds kinds' : List EventKind} (h : Run p₁ kinds p₂)
    (h' : Run p₂ kinds' p₃) : Run p₁ (kinds ++ kinds') p₃ := by
  induction h with
  | refl _ => exact h'
  | step hgoals hreach _ ih => exact .step hgoals hreach (ih h')

theorem readAll {p p' : Parser} {kinds : List EventKind} (h : Run p kinds p') :
    ∃ es : List Event, es.map (·.kind) = kinds ∧ ∀ fuel before,
      Parser.readAll (fuel + kinds.length) before p =
        Parser.readAll fuel (es.reverse ++ before) p' := by
  induction h with
  | refl _ => exact ⟨[], rfl, fun _ _ => rfl⟩
  | @step p p₁ p' g goals kind m kinds hgoals hreach _ ih =>
    obtain ⟨es, rfl, hread⟩ := ih
    refine ⟨⟨kind, m⟩ :: es, rfl, fun fuel before => ?_⟩
    rw [List.length_cons, ← Nat.add_assoc, Parser.readAll, hgoals]
    dsimp only
    rw [hreach]
    dsimp only
    rw [hread, List.reverse_cons, List.append_assoc]
    rfl

/-- The token that begins a block is passed over on the way to the first event in it. -/
theorem enter {t : Token} {ts : List Token} {failure : Error} {goals : List Goal}
    {handles : List (String × String)} {kinds : List EventKind} {p' : Parser}
    (h : Run ⟨ts, failure, .blockMappingKey t.start :: goals, handles⟩ kinds p')
    (hkinds : kinds ≠ []) :
    Run ⟨t :: ts, failure, .blockMappingFirst :: goals, handles⟩ kinds p' := by
  cases h with
  | refl => exact absurd rfl hkinds
  | step hgoals hreach hrest =>
    cases hgoals
    exact .step rfl hreach hrest

end Run

/-! ## Tokens of a kind -/

theorem exists_token {ts : List Token} {kind : TokenKind} {kinds : List TokenKind}
    (h : ts.map (·.kind) = kind :: kinds) : ∃ start stop behind,
      ts = ⟨kind, start, stop⟩ :: behind ∧ behind.map (·.kind) = kinds := by
  obtain ⟨⟨kind, start, stop⟩, behind, rfl, rfl, rfl⟩ := List.map_eq_cons_iff.1 h
  exact ⟨start, stop, behind, rfl, rfl⟩

section Nodes

variable {failure : Error} (goals : List Goal) {handles : List (String × String)} (start : Mark)

/-! ## Mappings -/

theorem run_member {member : String × String} {ts : List Token} {kinds : List TokenKind}
    (h : ts.map (·.kind) = memberKinds member ++ kinds) : ∃ behind, behind.map (·.kind) = kinds ∧
      Run ⟨ts, failure, .blockMappingKey start :: goals, handles⟩ (memberEvents member)
        ⟨behind, failure, .blockMappingKey start :: goals, handles⟩ := by
  obtain ⟨_, _, ts₁, rfl, h₁⟩ := exists_token h
  obtain ⟨_, _, ts₂, rfl, h₂⟩ := exists_token h₁
  obtain ⟨_, _, ts₃, rfl, h₃⟩ := exists_token h₂
  obtain ⟨_, _, behind, rfl, h₄⟩ := exists_token h₃
  exact ⟨behind, h₄, .step rfl rfl (.step rfl rfl (.refl _))⟩

theorem run_members {members : List (String × String)} {ts : List Token} {kinds : List TokenKind}
    (h : ts.map (·.kind) = members.flatMap memberKinds ++ kinds) : ∃ behind,
      behind.map (·.kind) = kinds ∧
        Run ⟨ts, failure, .blockMappingKey start :: goals, handles⟩ (members.flatMap memberEvents)
          ⟨behind, failure, .blockMappingKey start :: goals, handles⟩ := by
  induction members generalizing ts with
  | nil => exact ⟨ts, h, .refl _⟩
  | cons member members ih =>
    rw [List.flatMap_cons, List.append_assoc] at h
    obtain ⟨_, h, hmember⟩ := run_member goals start h
    obtain ⟨behind, h, hmembers⟩ := ih h
    exact ⟨behind, h, hmember.trans hmembers⟩

theorem run_mappingEnd (a b : Mark) (behind : List Token) :
    Run ⟨⟨.blockEnd, a, b⟩ :: behind, failure, .blockMappingKey start :: goals, handles⟩
      [.mappingEnd] ⟨behind, failure, goals, handles⟩ :=
  .step rfl rfl (.refl _)

/-- **A mapping of texts is reached** up to the goals behind it. -/
theorem run_mapping {members : List (String × String)} {ts : List Token} {kinds : List TokenKind}
    (h : ts.map (·.kind) =
      .blockMappingStart :: (members.flatMap memberKinds ++ .blockEnd :: kinds)) : ∃ behind,
      behind.map (·.kind) = kinds ∧
        Run ⟨ts, failure, .blockMappingFirst :: goals, handles⟩
          (members.flatMap memberEvents ++ [.mappingEnd]) ⟨behind, failure, goals, handles⟩ := by
  obtain ⟨start, _, ts₁, rfl, h₁⟩ := exists_token h
  obtain ⟨_, h₂, hmembers⟩ := run_members goals start h₁
  obtain ⟨a, b, behind, rfl, h₃⟩ := exists_token h₂
  exact ⟨behind, h₃, .enter (hmembers.trans (run_mappingEnd goals start a b behind)) (by simp)⟩

/-! ## Lists -/

/-- Entries are reached up to a token that begins none. -/
theorem run_entries {entries : List (List (String × String))} {ts : List Token}
    {kinds : List TokenKind}
    (h : ts.map (·.kind) = entries.flatMap entryKinds ++ .blockEnd :: kinds) : ∃ behind,
      behind.map (·.kind) = .blockEnd :: kinds ∧
        Run ⟨ts, failure, .indentlessSequence :: goals, handles⟩
          (entries.flatMap entryEvents ++ [.sequenceEnd]) ⟨behind, failure, goals, handles⟩ := by
  induction entries generalizing ts with
  | nil =>
    obtain ⟨a, b, ts₁, rfl, -⟩ := exists_token h
    have hend : Run ⟨⟨.blockEnd, a, b⟩ :: ts₁, failure, .indentlessSequence :: goals, handles⟩
        [.sequenceEnd] ⟨⟨.blockEnd, a, b⟩ :: ts₁, failure, goals, handles⟩ :=
      .step rfl rfl (.refl _)
    exact ⟨_, h, hend⟩
  | cons members entries ih =>
    have hkinds : (members :: entries).flatMap entryKinds ++ .blockEnd :: kinds =
        .blockEntry :: .blockMappingStart :: (members.flatMap memberKinds ++
          .blockEnd :: (entries.flatMap entryKinds ++ .blockEnd :: kinds)) := by
      simp [entryKinds]
    rw [hkinds] at h
    obtain ⟨a, b, ts₁, rfl, h₁⟩ := exists_token h
    obtain ⟨_, h₂, hmembers⟩ := run_mapping (.indentlessSequence :: goals) h₁
    obtain ⟨behind, h₃, hentries⟩ := ih h₂
    obtain ⟨c, d, ts₂, rfl, -⟩ := exists_token h₁
    have hentry := Run.step (p := ⟨⟨.blockEntry, a, b⟩ :: ⟨.blockMappingStart, c, d⟩ :: ts₂,
      failure, .indentlessSequence :: goals, handles⟩) rfl rfl (hmembers.trans hentries)
    refine ⟨behind, h₃, ?_⟩
    simpa [entryEvents] using hentry

/-- **The member of the list is reached** behind other members. -/
theorem run_list {entries : List (List (String × String))} {ts : List Token}
    {kinds : List TokenKind}
    (h : ts.map (·.kind) = [.key, .scalar "rules" .plain, .value] ++
      (listKinds entries ++ .blockEnd :: kinds)) : ∃ behind,
      behind.map (·.kind) = .blockEnd :: kinds ∧
        Run ⟨ts, failure, .blockMappingKey start :: goals, handles⟩
          (.scalar "rules" .plain none none :: listEvents entries)
          ⟨behind, failure, .blockMappingKey start :: goals, handles⟩ := by
  obtain ⟨a, b, ts₁, rfl, h₁⟩ := exists_token h
  obtain ⟨c, d, ts₂, rfl, h₂⟩ := exists_token h₁
  obtain ⟨e, f, ts₃, rfl, h₃⟩ := exists_token h₂
  change ts₃.map (·.kind) = listKinds entries ++ .blockEnd :: kinds at h₃
  cases entries with
  | nil =>
    obtain ⟨_, _, ts₄, rfl, h₄⟩ := exists_token h₃
    obtain ⟨_, _, behind, rfl, h₅⟩ := exists_token h₄
    exact ⟨behind, h₅, .step rfl rfl (.step rfl rfl (.step rfl rfl (.refl _)))⟩
  | cons members entries =>
    obtain ⟨_, _, ts₄, hfirst, -⟩ := exists_token h₃
    obtain ⟨behind, h₄, hentries⟩ := run_entries (.blockMappingKey start :: goals) h₃
    subst hfirst
    exact ⟨behind, h₄, .step rfl rfl (.step rfl rfl hentries)⟩

/-- **A document is reached** up to the end of the text. -/
theorem run_document {members : List (String × String)} {entries : List (List (String × String))}
    {ts : List Token} (h : ts.map (·.kind) = documentKinds members entries) (failure : Error) :
    Run ⟨ts, failure, [.document true], []⟩
      (.documentStart :: (contentEvents members entries ++ [.documentEnd, .streamEnd]))
      ⟨[], failure, [], []⟩ := by
  obtain ⟨a, b, ts₁, rfl, h₁⟩ := exists_token h
  obtain ⟨_, h₂, hmembers⟩ := run_members [.documentEnd] a h₁
  obtain ⟨_, h₃, hlist⟩ := run_list [.documentEnd] a h₂
  obtain ⟨c, d, ts₄, rfl, h₄⟩ := exists_token h₃
  obtain ⟨e, f, ts₅, rfl, h₅⟩ := exists_token h₄
  obtain rfl : ts₅ = [] := List.map_eq_nil_iff.1 h₅
  have hend : Run ⟨[⟨.streamEnd, e, f⟩], failure, [.documentEnd], defaultHandles⟩
      [.documentEnd, .streamEnd] ⟨[], failure, [], []⟩ := .step rfl rfl (.step rfl rfl (.refl _))
  have hcontent := (Run.enter (t := ⟨.blockMappingStart, a, b⟩)
    (hmembers.trans (hlist.trans (run_mappingEnd _ a c d _))) (by simp)).trans hend
  have hall := Run.step (p := ⟨⟨.blockMappingStart, a, b⟩ :: ts₁, failure, [.document true], []⟩)
    rfl rfl (.step rfl rfl hcontent)
  simpa [contentEvents] using hall

end Nodes

/-- A run up to the last goal gives all events, and no error ends them. -/
theorem Run.complete {p p' : Parser} {kinds : List EventKind} (h : Run p kinds p')
    (hgoals : p'.goals = []) (fuel : Nat) (hfuel : kinds.length ≤ fuel) :
    ∃ es, Parser.readAll fuel [] p = (es, none) ∧ es.map (·.kind) = kinds := by
  obtain ⟨es, hkinds, hread⟩ := h.readAll
  obtain ⟨rest, rfl⟩ := Nat.exists_eq_add_of_le' hfuel
  refine ⟨es, ?_, hkinds⟩
  rw [hread, List.append_nil]
  cases rest with
  | zero => rw [Parser.readAll, List.reverse_reverse]
  | succ rest =>
    rw [Parser.readAll, hgoals]
    dsimp only
    rw [List.reverse_reverse]

end Parser

/-! ## Texts -/

theorem forbiddenOffset?_eq {cs : List Char} (h : Allowed cs) (offset : Nat) :
    forbiddenOffset? offset cs = none := by
  induction cs generalizing offset with
  | nil => rfl
  | cons c cs ih =>
    rw [forbiddenOffset?, if_pos (h c (.head _))]
    exact ih (fun d hd => h d (.tail _ hd)) _

theorem length_flatMap_le {α β γ : Type} {f : α → List β} {g : α → List γ}
    (h : ∀ a, (f a).length ≤ (g a).length) (l : List α) :
    (l.flatMap f).length ≤ (l.flatMap g).length := by
  induction l with
  | nil => exact Nat.le_refl _
  | cons a l ih =>
    simpa only [List.flatMap_cons, List.length_append] using Nat.add_le_add (h a) ih

/-- There are hardly more events than tokens. -/
theorem length_contentEvents_le (members : List (String × String))
    (entries : List (List (String × String))) :
    (contentEvents members entries).length ≤ (documentKinds members entries).length + 2 := by
  have hmember := length_flatMap_le (f := memberEvents) (g := memberKinds)
    fun member => by simp [memberEvents, memberKinds]
  have hentries := length_flatMap_le (f := entryEvents) (g := entryKinds) (l := entries)
    fun members => by
      have hle := hmember members
      simp only [entryEvents, entryKinds, List.cons_append, List.length_cons, List.length_append,
        List.length_nil]
      omega
  have hlist : (listEvents entries).length ≤ (listKinds entries).length + 2 := by
    unfold listEvents listKinds
    split
    · simp [List.isEmpty_iff.1 ‹_›]
    · simpa using hentries
  have hle := hmember members
  simp only [contentEvents, documentKinds, List.cons_append, List.length_cons, List.length_append,
    List.length_nil]
  omega

/-- **The events of a document** are those of its content, and no error ends them. -/
theorem events_document {members : List (String × String)} {entries : List (List (String × String))}
    (hmembers : members ≠ [] ∧ Named members)
    (hentries : ∀ members ∈ entries, members ≠ [] ∧ Named members) : ∃ es,
      events (String.ofList (documentText members entries)) = (es, none) ∧
        es.map (·.kind) =
          .documentStart :: (contentEvents members entries ++ [.documentEnd, .streamEnd]) := by
  obtain ⟨ts, htokens, hkinds⟩ := tokens_document hmembers hentries
  have hallowed := allowed_document hmembers.2 fun members h => (hentries members h).2
  have hlength := length_contentEvents_le members entries
  have hcount := congrArg List.length hkinds
  rw [List.length_map] at hcount
  obtain ⟨es, hread, hevents⟩ := (Parser.run_document hkinds .endOfText).complete rfl
    (4 * ts.length + 8) (by simp; omega)
  refine ⟨es, ?_, hevents⟩
  unfold events
  rw [String.toList_ofList]
  split
  rename_i chars offset hchars
  have hbegins := beginsToken_document hmembers entries
  obtain rfl : documentText members entries = chars := by
    split at hchars
    · -- the text does not begin with a byte order mark
      rename_i heq
      rw [heq] at hbegins
      cases hbegins
    · exact congrArg Prod.fst hchars
  rw [forbiddenOffset?_eq hallowed, htokens]
  exact hread

end FirstClaim.Yaml
