import FirstClaim.Proofs.Engine.Run

/-!
# Resolving matches

The replacement of a rule is resolved for one match after the other, until it fails.

* `resolveEach_cons_ok`, `resolveEach_cons_error`: one match at a time.
* `resolveEach_template`: a template never fails.
* `Callback.Answers`: a callback answers calls in turn. What it answers may depend on all calls made
  of it before, so these go along.
* `resolveEach_of_answers`, `resolveEach_of_failure`: where the callback of a rule answers every
  match, each match has a claim with that answer; where it fails, the matches up to that one have
  been called and there is no claim.
* `answers_or_fails`: there is no third way.
-/

set_option autoImplicit false

namespace FirstClaim

/-- What a callback is called with for a match. -/
def Regex.Match.call (m : Regex.Match) : Call :=
  ⟨m.whole.text, m.groups.map (·.map (·.text))⟩

def Regex.Match.claim (m : Regex.Match) (index : Nat) (replacement : String) : Claim :=
  ⟨index, m.whole.text, replacement, m.whole.start, m.whole.stop⟩

/-- The claim of a rule with a template for a match. -/
def Regex.Match.filled (index : Nat) (template : String) (m : Regex.Match) : Claim :=
  m.claim index (Template.expand template m.call.groups)

/-- The rule after its callback has been called; the last call comes first. -/
def Rule.withCalls (rule : Rule) (f : Callback) (calls : List Call) : Rule :=
  { rule with replacement := .computed f calls }

/-- After the calls `earlier`, the last one first, the callback answers calls in turn with texts. -/
inductive Callback.Answers (f : Callback) : List Call → List Call → List String → Prop
  | nil (earlier : List Call) : Answers f earlier [] []
  | cons {earlier : List Call} {call : Call} {text : String} {calls : List Call}
      {texts : List String} : f earlier call = .ok text → Answers f (call :: earlier) calls texts →
      Answers f earlier (call :: calls) (text :: texts)

namespace Rule

/-! ## One match at a time -/

theorem resolveEach_cons_ok {index : Nat} {r r' : Replacement} {m : Regex.Match}
    {ms : List Regex.Match} {text : String} (h : r.resolve m.call = (.ok text, r')) :
    resolveEach index r (m :: ms) =
      ((resolveEach index r' ms).1.map (m.claim index text :: ·), (resolveEach index r' ms).2) := by
  rw [Regex.Match.call] at h
  simp only [resolveEach, h, Regex.Match.claim]

theorem resolveEach_cons_error {index : Nat} {r r' : Replacement} {m : Regex.Match}
    {ms : List Regex.Match} {e : RuleError} (h : r.resolve m.call = (.error e, r')) :
    resolveEach index r (m :: ms) = (.error e, r') := by
  rw [Regex.Match.call] at h
  simp only [resolveEach, h]

/-- **A template is filled for every match.** -/
theorem resolveEach_template (index : Nat) (template : String) (ms : List Regex.Match) :
    resolveEach index (.template template) ms =
      (.ok (ms.map (·.filled index template)), .template template) := by
  induction ms with
  | nil => rfl
  | cons m ms ih =>
    have hresolve : (Replacement.template template).resolve m.call =
        (.ok (Template.expand template m.call.groups), .template template) := rfl
    rw [resolveEach_cons_ok hresolve, ih]
    rfl

/-! ## Callbacks -/

theorem resolve_computed_ok {f : Callback} {earlier : List Call} {call : Call} {text : String}
    (h : f earlier call = .ok text) :
    (Replacement.computed f earlier).resolve call = (.ok text, .computed f (call :: earlier)) := by
  rw [Replacement.resolve, h]
  rfl

theorem resolve_computed_error {f : Callback} {earlier : List Call} {call : Call} {message : String}
    (h : f earlier call = .error message) :
    (Replacement.computed f earlier).resolve call =
      (.error (.callback message), .computed f (call :: earlier)) := by
  rw [Replacement.resolve, h]
  rfl

/-- **Matches that the callback answers** have a claim each, with the answer as it is. -/
theorem resolveEach_of_answers (index : Nat) {f : Callback} : ∀ {ms : List Regex.Match}
    {earlier : List Call} {texts : List String}, f.Answers earlier (ms.map (·.call)) texts →
    ∃ cs, resolveEach index (.computed f earlier) ms =
        (.ok cs, .computed f ((ms.map (·.call)).reverse ++ earlier)) ∧
      cs.map (·.replacement) = texts
  | [], _, _, h => by
    cases h
    exact ⟨[], rfl, rfl⟩
  | m :: ms, earlier, text :: _, h => by
    obtain - | ⟨hm, hms⟩ := h
    obtain ⟨cs, hcs, rfl⟩ := resolveEach_of_answers index hms
    refine ⟨m.claim index text :: cs, ?_, rfl⟩
    rw [resolveEach_cons_ok (resolve_computed_ok hm), hcs]
    simp [Except.map]

/-- **At the first match where the callback fails** the others are given up. -/
theorem resolveEach_of_failure (index : Nat) {f : Callback} {message : String} {m : Regex.Match}
    (rest : List Regex.Match) : ∀ {done : List Regex.Match} {earlier : List Call}
    {texts : List String}, f.Answers earlier (done.map (·.call)) texts →
    f ((done.map (·.call)).reverse ++ earlier) m.call = .error message →
    resolveEach index (.computed f earlier) (done ++ m :: rest) =
      (.error (.callback message),
        .computed f (((done ++ [m]).map (·.call)).reverse ++ earlier))
  | [], _, _, _, hm => resolveEach_cons_error (resolve_computed_error hm)
  | k :: done, earlier, _, h, hm => by
    obtain - | ⟨hk, hdone⟩ := h
    have hm' : f ((done.map (·.call)).reverse ++ k.call :: earlier) m.call = .error message := by
      simpa using hm
    rw [List.cons_append, resolveEach_cons_ok (resolve_computed_ok hk),
      resolveEach_of_failure index rest hdone hm']
    simp [Except.map]

/-- A callback answers all calls, or it answers some and fails at the next one. -/
theorem answers_or_fails (f : Callback) : ∀ (ms : List Regex.Match) (earlier : List Call),
    (∃ texts, f.Answers earlier (ms.map (·.call)) texts) ∨
      ∃ done m rest texts message, ms = done ++ m :: rest ∧
        f.Answers earlier (done.map (·.call)) texts ∧
        f ((done.map (·.call)).reverse ++ earlier) m.call = .error message
  | [], earlier => .inl ⟨[], .nil earlier⟩
  | m :: ms, earlier => by
    cases hm : f earlier m.call with
    | error message => exact .inr ⟨[], m, ms, [], message, rfl, .nil earlier, hm⟩
    | ok text =>
      rcases answers_or_fails f ms (m.call :: earlier) with
        ⟨texts, h⟩ | ⟨done, k, rest, texts, message, rfl, h, hk⟩
      · exact .inl ⟨text :: texts, .cons hm h⟩
      · exact .inr ⟨m :: done, k, rest, text :: texts, message, rfl, .cons hm h, by simpa using hk⟩

end Rule

end FirstClaim
