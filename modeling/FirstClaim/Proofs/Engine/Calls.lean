import FirstClaim.Callbacks
import FirstClaim.Proofs.Engine.Complete
import Mathlib.Data.List.Fold
import Mathlib.Data.List.MinMax

/-!
# The calls of a callback

`Engine.Called` says which calls a transformation makes of the callback of one rule: they belong to
the eligible matches from left to right. A rule that is not skipped makes one for each of its
claims, and the answer replaces what is claimed; a rule whose callback fails makes those up to the
failure. `transform_called`: such are the calls by which the callback has moved on after a
transformation.

An engine keeps its callbacks over a session of operations (`Operation`), so a callback knows the
calls of earlier transformations. `session_numbered`: one that answers with the number of calls
before numbers all claims of its rule in a session without a gap.

`session_calls`: both, for the engine that any session leaves.
-/

set_option autoImplicit false

namespace FirstClaim

/-! ## Groups -/

namespace Regex

theorem Program.groups_of_mem_matchesFrom {p : Program} {groups : Nat} {m : Match} :
    ∀ {n : Nat} {place : Place} {last : Option Nat}, m ∈ p.matchesFrom groups n place last →
      m.groups.length = groups
  | 0, _, _, h => by cases h
  | n + 1, place, last, h => by
    rw [matchesFrom] at h
    split at h
    · cases h
    · rcases List.mem_cons.1 h with rfl | h
      · simp [Thread.toMatch]
      · exact groups_of_mem_matchesFrom h

theorem groups_of_mem_findAll {r : Regex} {text : String} {m : Match} (h : m ∈ r.findAll text) :
    m.groups.length = r.groupBound ∧ ∀ i ∈ r.node.groupIndices, i ≤ m.groups.length := by
  have hlen : m.groups.length = r.groupBound := Program.groups_of_mem_matchesFrom h
  refine ⟨hlen, fun i hi => ?_⟩
  rw [hlen, groupBound, List.foldl_eq_foldr]
  exact List.le_max_of_le' 0 hi (Nat.le_refl i)

end Regex

/-! ## Answers -/

namespace Callback.Answers

variable {f : Callback} {earlier calls : List Call} {texts : List String}

/-- A callback that answers with a name for the number of calls before numbers its answers. -/
theorem eq_numbers {name : Nat → String}
    (hf : ∀ earlier call, f earlier call = .ok (name earlier.length))
    (h : f.Answers earlier calls texts) :
    texts = (List.range' earlier.length calls.length).map name := by
  induction h with
  | nil => rfl
  | @cons earlier call text calls texts hcall _ ih =>
    rw [hf, Except.ok.injEq] at hcall
    rw [ih, ← hcall, List.length_cons, List.length_cons, List.range'_succ, List.map_cons]

theorem length_eq (h : f.Answers earlier calls texts) : calls.length = texts.length := by
  induction h with
  | nil => rfl
  | cons _ _ ih => rw [List.length_cons, List.length_cons, ih]

end Callback.Answers

theorem Rule.build_ne_callback (rule : Rule) (message : String) :
    rule.build ≠ .error (.callback message) := by
  unfold build
  split
  · simp
  · rename_i p _
    cases p.build with
    | ok regex => simp [Except.mapError]
    | error e => cases e <;> simp [Except.mapError, RuleError.ofPattern]

/-! ## One transformation -/

namespace Engine

/-- `calls` are made for eligible matches of the rule at `index`. -/
structure Permitted (text : String) (report : Report) (index : Nat) (rule : Rule)
    (calls : List Call) : Prop where
  /-- The matches come from left to right, and none before the last one is left out. -/
  eligible : ∃ ms, ms <+: report.eligible index (rule.found text) ∧ calls = ms.map (·.call)
  /-- There is no call for an empty match, or for one that overlaps a claim of an earlier rule or of
  the rule itself, other than the claim that comes from the call. -/
  allowed : ∀ call ∈ calls, ∃ m ∈ rule.found text, call = m.call ∧
    m.whole.start < m.whole.stop ∧
      ∀ c ∈ report.claims, c.rule ≤ index → c.Overlaps m → c.rule = index ∧ c.Takes m
  /-- Each call has an entry for each group. Groups are counted as the regex engine counts them once
  the pattern is built: one that is repeated no times, as in `(a){0}`, has been dropped. -/
  groups : ∀ regex, rule.build = .ok regex → ∀ call ∈ calls,
    call.groups.length = regex.groupBound ∧ ∀ i ∈ regex.node.groupIndices, i ≤ call.groups.length

/-- `calls` are the calls that a transformation makes, after the calls `earlier`, of the callback
`f` of the rule at `index`. -/
structure Called (text : String) (report : Report) (index : Nat) (rule : Rule) (f : Callback)
    (earlier calls : List Call) : Prop extends Permitted text report index rule calls where
  /-- Of a rule that is not skipped each claim has its call, from left to right. The call shows what
  is claimed, and the answer is what replaces it. -/
  claimed : (∀ s ∈ report.skipped, s.rule ≠ index) →
    (report.claimsOf index).Pairwise (·.start < ·.start) ∧
      (report.claimsOf index).map Claim.capture =
        (report.eligible index (rule.found text)).map (·.whole) ∧
      calls = (report.eligible index (rule.found text)).map (·.call) ∧
      calls.map (·.matched) = (report.claimsOf index).map (·.matched) ∧
      f.Answers earlier calls ((report.claimsOf index).map (·.replacement))
  /-- Of a rule that is skipped for its callback the calls end with the first one that fails. -/
  failed : ∀ message,
    ⟨index, rule.pattern.map (·.text), .callback message⟩ ∈ report.skipped →
      ∃ done m rest texts, report.eligible index (rule.found text) = done ++ m :: rest ∧
        calls = (done ++ [m]).map (·.call) ∧ f.Answers earlier (done.map (·.call)) texts ∧
        f ((done.map (·.call)).reverse ++ earlier) m.call = .error message

variable {e : Engine} {text : String} {index : Nat} {rule : Rule} {f : Callback}
  {earlier : List Call}

theorem claimsOf_pairwise (e : Engine) (text : String) (index : Nat) :
    ((e.transform text).1.claimsOf index).Pairwise (·.start < ·.start) := by
  have hon := (e.transform_report text).1
  refine List.Pairwise.filter _ (hon.apart.imp_of_mem fun {c d} hc _ hcd => ?_)
  exact Nat.lt_of_lt_of_le (hon.nonempty c hc) hcd

/-- An eligible match is overlapped by no claim of an earlier rule, and by none of the rule itself
but its own. -/
theorem takes_of_eligible (h : e.rules[index]? = some rule)
    (hs : (∀ s ∈ (e.transform text).1.skipped, s.rule ≠ index) ∨
      (e.transform text).1.claimsOf index = [])
    {m : Regex.Match} (hm : m ∈ (e.transform text).1.eligible index (rule.found text)) {c : Claim}
    (hc : c ∈ (e.transform text).1.claims) (hle : c.rule ≤ index) (hoverlap : c.Overlaps m) :
    c.rule = index ∧ c.Takes m := by
  obtain ⟨hfound, hfree⟩ := Report.mem_eligible.1 hm
  rcases Nat.lt_or_eq_of_le hle with hlt | heq
  · exact absurd hoverlap ((hfree c hc hlt).not_overlaps (claim_nonempty hc)
      (Rule.nonempty_of_mem_found hfound))
  · rcases hs with hs | hnone
    · exact ⟨heq, takes_of_overlaps h hs hfound hc heq hoverlap⟩
    · exact absurd heq (Report.claimsOf_eq_nil_iff.1 hnone c hc)

theorem permitted_of_prefix (h : e.rules[index]? = some rule)
    (hs : (∀ s ∈ (e.transform text).1.skipped, s.rule ≠ index) ∨
      (e.transform text).1.claimsOf index = [])
    {ms : List Regex.Match} (hms : ms <+: (e.transform text).1.eligible index (rule.found text)) :
    Permitted text (e.transform text).1 index rule (ms.map (·.call)) := by
  refine ⟨⟨ms, hms, rfl⟩, fun call hcall => ?_, fun regex hb call hcall => ?_⟩
  · obtain ⟨m, hm, rfl⟩ := List.mem_map.1 hcall
    have hfound := (Report.mem_eligible.1 (hms.subset hm)).1
    exact ⟨m, hfound, rfl, Rule.nonempty_of_mem_found hfound,
      fun c hc hle => takes_of_eligible h hs (hms.subset hm) hc hle⟩
  · obtain ⟨m, hm, rfl⟩ := List.mem_map.1 hcall
    obtain ⟨regex', hb', hmem, -⟩ :=
      Rule.mem_found.1 (Report.mem_eligible.1 (hms.subset hm)).1
    obtain rfl : regex = regex' := by rwa [hb, Except.ok.injEq] at hb'
    rw [Regex.Match.call, List.length_map]
    exact Regex.groups_of_mem_findAll hmem

theorem called_of_answers (h : e.rules[index]? = some rule)
    (hf : rule.replacement = .computed f earlier) {regex : Regex} (hb : rule.build = .ok regex)
    {calls : List Call}
    (hcalls : calls = ((e.transform text).1.eligible index (rule.found text)).map (·.call))
    {texts : List String} (hanswers : f.Answers earlier calls texts) :
    (e.transform text).2.rules[index]? = some (rule.withCalls f (calls.reverse ++ earlier)) ∧
      Called text (e.transform text).1 index rule f earlier calls := by
  subst hcalls
  obtain ⟨rfl, hskipped, hafter⟩ := turn_answers h hf hb hanswers
  have hcapture := claimsOf_capture h hskipped
  refine ⟨hafter, permitted_of_prefix h (.inl hskipped) (List.prefix_refl _),
    fun _ => ⟨claimsOf_pairwise e text index, hcapture, rfl, ?_, hanswers⟩,
    fun message hs => absurd rfl (hskipped _ hs)⟩
  calc (((e.transform text).1.eligible index (rule.found text)).map (·.call)).map (·.matched)
    _ = (((e.transform text).1.eligible index (rule.found text)).map (·.whole)).map (·.text) := by
      rw [List.map_map, List.map_map]
      rfl
    _ = (((e.transform text).1.claimsOf index).map Claim.capture).map (·.text) := by rw [hcapture]
    _ = ((e.transform text).1.claimsOf index).map (·.matched) := by
      rw [List.map_map]
      rfl

theorem called_of_failure (h : e.rules[index]? = some rule)
    (hf : rule.replacement = .computed f earlier) {done rest : List Regex.Match} {m : Regex.Match}
    (hsplit : (e.transform text).1.eligible index (rule.found text) = done ++ m :: rest)
    {texts : List String} (hdone : f.Answers earlier (done.map (·.call)) texts) {message : String}
    (hm : f ((done.map (·.call)).reverse ++ earlier) m.call = .error message) :
    (e.transform text).2.rules[index]? =
        some (rule.withCalls f (((done ++ [m]).map (·.call)).reverse ++ earlier)) ∧
      Called text (e.transform text).1 index rule f earlier ((done ++ [m]).map (·.call)) := by
  obtain ⟨hclaims, hentry, hafter⟩ := turn_failure h hf hsplit hdone hm
  have hmem : ∀ s : Skipped, s ∈ (e.transform text).1.skipped ∧ s.rule = index ↔
      s = ⟨index, rule.pattern.map (·.text), .callback message⟩ := fun s => by
    have hfilter := List.mem_filter.symm.trans (iff_of_eq (congrArg (s ∈ ·) hentry))
    rwa [List.mem_singleton, decide_eq_true_eq] at hfilter
  have hprefix : done ++ [m] <+: (e.transform text).1.eligible index (rule.found text) :=
    ⟨rest, by rw [hsplit, List.append_assoc, List.singleton_append]⟩
  refine ⟨hafter, permitted_of_prefix h (.inr hclaims) hprefix,
    fun hs => absurd rfl (hs _ ((hmem _).2 rfl).1), fun message' hs => ?_⟩
  have heq := (hmem _).1 ⟨hs, rfl⟩
  simp only [Skipped.mk.injEq, RuleError.callback.injEq, true_and] at heq
  exact ⟨done, m, rest, texts, hsplit, rfl, hdone, heq ▸ hm⟩

theorem called_of_unbuilt (text : String) (h : e.rules[index]? = some rule)
    (hf : rule.replacement = .computed f earlier) {reason : RuleError}
    (hb : rule.build = .error reason) :
    (e.transform text).2.rules[index]? = some (rule.withCalls f earlier) ∧
      Called text (e.transform text).1 index rule f earlier [] := by
  obtain ⟨hclaims, hentry, hafter⟩ := turn_unbuilt text h hb
  have hnone : (e.transform text).1.eligible index (rule.found text) = [] := by
    rw [Rule.found, hb]
    rfl
  refine ⟨by rw [hafter, Rule.withCalls, ← hf], permitted_of_prefix h (.inr hclaims)
    List.nil_prefix, fun _ => ?_, fun message hs => ?_⟩
  · rw [hclaims, hnone]
    exact ⟨.nil, rfl, rfl, rfl, .nil earlier⟩
  · -- it is skipped for another reason
    have ht : text ≠ "" := by
      rintro rfl
      cases hs
    have hmem : _ ∈ (e.transform text).1.skipped.filter (·.rule = index) :=
      List.mem_filter.2 ⟨hs, by simp⟩
    rw [hentry ht, List.mem_singleton, Skipped.mk.injEq] at hmem
    exact absurd (hmem.2.2 ▸ hb) (rule.build_ne_callback message)

/-- **The calls of a transformation.** They are added to those before. -/
theorem transform_called (text : String) (h : e.rules[index]? = some rule)
    (hf : rule.replacement = .computed f earlier) :
    ∃ calls, (e.transform text).2.rules[index]? =
        some (rule.withCalls f (calls.reverse ++ earlier)) ∧
      Called text (e.transform text).1 index rule f earlier calls := by
  cases hb : rule.build with
  | error reason => exact ⟨[], called_of_unbuilt text h hf hb⟩
  | ok regex =>
    rcases Rule.answers_or_fails f ((e.transform text).1.eligible index (rule.found text)) earlier
      with ⟨texts, hanswers⟩ | ⟨done, m, rest, texts, message, hsplit, hdone, hm⟩
    · exact ⟨_, called_of_answers h hf hb rfl hanswers⟩
    · exact ⟨_, called_of_failure h hf hsplit hdone hm⟩

end Engine

/-! ## Sessions -/

/-- What can be done with an engine. -/
inductive Operation where
  | push (rule : Rule)
  /-- Transforms a text and shows the output. -/
  | apply (text : String)
  /-- Transforms a text and shows the whole report. -/
  | report (text : String)

namespace Engine

/-- The report of an operation that transforms a text, and the engine after it. -/
def step (e : Engine) : Operation → Option Report × Engine
  | .push rule => (none, e.push rule)
  | .apply text => (some (e.transform text).1, (e.transform text).2)
  | .report text => (some (e.transform text).1, (e.transform text).2)

/-- The reports of operations in turn, and the engine after them. -/
def session (e : Engine) : List Operation → List Report × Engine
  | [] => ([], e)
  | op :: ops =>
    ((e.step op).1.toList ++ ((e.step op).2.session ops).1, ((e.step op).2.session ops).2)

/-- The claims are replaced by the names of the numbers from `first` on, and `next` is the number
after these. -/
structure Numbered (name : Nat → String) (first next : Nat) (claims : List Claim) : Prop where
  replacements : claims.map (·.replacement) = (List.range' first claims.length).map name
  next_eq : next = first + claims.length

theorem Numbered.nil (name : Nat → String) (first : Nat) : Numbered name first first [] :=
  ⟨rfl, rfl⟩

theorem Numbered.append {name : Nat → String} {first middle next : Nat} {cs ds : List Claim}
    (hc : Numbered name first middle cs) (hd : Numbered name middle next ds) :
    Numbered name first next (cs ++ ds) := by
  obtain ⟨hcs, rfl⟩ := hc
  obtain ⟨hds, rfl⟩ := hd
  refine ⟨?_, by rw [List.length_append, Nat.add_assoc]⟩
  rw [List.map_append, hcs, hds, ← List.map_append, List.range'_append_1, List.length_append]

variable {index : Nat} {rule : Rule} {f : Callback} {name : Nat → String} {e : Engine}
  {earlier : List Call}

/-- A callback that answers with a name for the number of calls before numbers the claims of a
transformation. -/
theorem transform_numbered (text : String)
    (hname : ∀ earlier call, f earlier call = .ok (name earlier.length))
    (h : e.rules[index]? = some (rule.withCalls f earlier)) :
    ∃ calls, (e.transform text).2.rules[index]? = some (rule.withCalls f calls) ∧
      Numbered name earlier.length calls.length ((e.transform text).1.claimsOf index) := by
  cases hb : (rule.withCalls f earlier).build with
  | error reason =>
    obtain ⟨hclaims, -, hafter⟩ := turn_unbuilt text h hb
    exact ⟨earlier, hafter, hclaims ▸ .nil name _⟩
  | ok regex =>
    rcases Rule.answers_or_fails f
      ((e.transform text).1.eligible index ((rule.withCalls f earlier).found text)) earlier
      with ⟨texts, hanswers⟩ | ⟨done, m, rest, texts, message, -, -, hm⟩
    · obtain ⟨rfl, -, hafter⟩ := turn_answers h rfl hb hanswers
      have hlength := hanswers.length_eq.trans (List.length_map _)
      have hnumbers := hanswers.eq_numbers hname
      rw [hlength] at hnumbers
      refine ⟨_, hafter, hnumbers, ?_⟩
      rw [List.length_append, List.length_reverse, hlength, Nat.add_comm]
    · rw [hname] at hm
      cases hm

theorem step_numbered (hname : ∀ earlier call, f earlier call = .ok (name earlier.length))
    (op : Operation) (h : e.rules[index]? = some (rule.withCalls f earlier)) :
    ∃ calls, (e.step op).2.rules[index]? = some (rule.withCalls f calls) ∧
      Numbered name earlier.length calls.length
        ((e.step op).1.toList.flatMap (·.claimsOf index)) := by
  have htransform : ∀ text, ∃ calls,
      (e.transform text).2.rules[index]? = some (rule.withCalls f calls) ∧
        Numbered name earlier.length calls.length
          ([(e.transform text).1].flatMap (·.claimsOf index)) := fun text => by
    rw [List.flatMap_singleton]
    exact transform_numbered text hname h
  cases op with
  | push other =>
    refine ⟨earlier, ?_, .nil name _⟩
    obtain ⟨hlt, -⟩ := List.getElem?_eq_some_iff.1 h
    rw [step, push, List.getElem?_append_left hlt, h]
  | apply text => exact htransform text
  | report text => exact htransform text

/-- **Such a callback numbers the claims of a whole session**: the numbers go on from one
transformation to the next. -/
theorem session_numbered (hname : ∀ earlier call, f earlier call = .ok (name earlier.length)) :
    ∀ (ops : List Operation) {e : Engine} {earlier : List Call},
      e.rules[index]? = some (rule.withCalls f earlier) →
      ∃ calls, (e.session ops).2.rules[index]? = some (rule.withCalls f calls) ∧
        Numbered name earlier.length calls.length
          ((e.session ops).1.flatMap (·.claimsOf index))
  | [], _, earlier, h => ⟨earlier, h, .nil name _⟩
  | op :: ops, _, _, h => by
    obtain ⟨calls, hcalls, hstep⟩ := step_numbered hname op h
    obtain ⟨calls', hcalls', hrest⟩ := session_numbered hname ops hcalls
    refine ⟨calls', hcalls', ?_⟩
    rw [session, List.flatMap_append]
    exact hstep.append hrest

/-- **The calls of a callback in a session.** Whatever has been done with an engine, the next
transformation of a text calls the callback of each rule as `Called` says. A callback that answers
with the number of calls before numbers the claims of its rule without a gap, from left to right and
from one transformation to the next. -/
theorem session_calls (e : Engine) (ops : List Operation) {index : Nat} {rule : Rule} {f : Callback}
    {earlier : List Call} (h : (e.session ops).2.rules[index]? = some rule)
    (hf : rule.replacement = .computed f earlier) :
    (∀ text, ∃ calls,
      ((e.session ops).2.transform text).2.rules[index]? =
          some (rule.withCalls f (calls.reverse ++ earlier)) ∧
        Called text ((e.session ops).2.transform text).1 index rule f earlier calls) ∧
    ∀ name : Nat → String, (∀ earlier call, f earlier call = .ok (name earlier.length)) →
      ∀ more, ∃ calls,
        ((e.session ops).2.session more).2.rules[index]? = some (rule.withCalls f calls) ∧
          Numbered name earlier.length calls.length
            (((e.session ops).2.session more).1.flatMap (·.claimsOf index)) := by
  refine ⟨fun text => transform_called text h hf, fun name hname more => ?_⟩
  have hrule : rule.withCalls f earlier = rule := by rw [Rule.withCalls, ← hf]
  exact session_numbered hname more (hrule.symm ▸ h)

/-- A rule for a letter whose callback answers with the number of calls before. -/
def letterCounter : Rule :=
  { pattern := some (.source "a"), replacement := .computed Callback.count [] }

theorem session_calls_letterCounter :
    ((Engine.mk []).session [.push letterCounter]).2.rules[0]? = some letterCounter ∧
      letterCounter.replacement = .computed Callback.count [] ∧
      (((Engine.mk [letterCounter]).session [.apply "aba", .report "ba"]).1.flatMap
        (·.claimsOf 0)).map (·.replacement) = (List.range' 0 3).map fun n => s!"#{n}" := by
  have hrule : ((Engine.mk []).session [.push letterCounter]).2.rules[0]? = some letterCounter :=
    rfl
  have hcount : letterCounter.replacement = .computed Callback.count [] := rfl
  refine ⟨hrule, hcount, ?_⟩
  obtain ⟨-, -, hnumbers, -⟩ := (session_calls (.mk []) [.push letterCounter] hrule hcount).2
    (fun n => s!"#{n}") (fun _ _ => rfl) [.apply "aba", .report "ba"]
  have hlength : (((Engine.mk [letterCounter]).session [.apply "aba", .report "ba"]).1.flatMap
      (·.claimsOf 0)).length = 3 := by
    decide +kernel
  rw [← hlength]
  exact hnumbers

end Engine

end FirstClaim
