import FirstClaim.CommandLine.Arguments

/-!
# Settings with their values on the command line

Where a setting stands with its value behind it, both are read if the value is a word, that is, if
it does not look like a setting itself; otherwise the arguments are refused. So it is with several
settings in turn (`readAll_spelled`, `refused_spelled`).
-/

set_option autoImplicit false

namespace FirstClaim.CommandLine

namespace Reading

/-- An argument that looks like a setting: it begins with a hyphen and is more than that. -/
def isDashed (word : String) : Bool :=
  match word.toList with
  | '-' :: _ :: _ => true
  | _ => false

variable {r : Reading} {s : Setting}

/-- The result of reading arguments that are refused. -/
def Refused {α : Type} (result : Except Stop α) : Prop :=
  ∃ e, result = .error (.misuse e)

theorem Refused.bind {α β : Type} {result : Except Stop α} (h : Refused result)
    (f : α → Except Stop β) : Refused (result >>= f) := by
  obtain ⟨e, rfl⟩ := h
  exact ⟨e, rfl⟩

section Pending

variable (hpending : r.pending = some (s, none))
include hpending

theorem settle_pending : (orStop r.settle) = .error (.misuse (.missingValue s)) := by
  unfold settle
  rw [hpending]
  rfl

theorem refused_take (s' : Setting) (value : String) : Refused (r.take s' value) := by
  unfold take
  rw [settle_pending hpending]
  exact ⟨_, rfl⟩

theorem refused_await (s' : Setting) : Refused (r.await s') := by
  unfold await
  rw [settle_pending hpending]
  exact ⟨_, rfl⟩

theorem refused_readName (name : String) (value : Option String) :
    Refused (r.readName name value) := by
  unfold readName
  split
  · exact ⟨_, rfl⟩
  · split
    · exact refused_take hpending _ _
    · exact ⟨_, rfl⟩
  · split
    · exact refused_await hpending _
    · exact refused_take hpending _ _

theorem refused_readLetters (c : Char) (cs : List Char) : Refused (r.readLetters (c :: cs)) := by
  unfold readLetters
  split
  · exact ⟨_, rfl⟩
  · split
    · split
      · exact refused_await hpending _
      · exact refused_take hpending _ _
      · exact refused_take hpending _ _
    · exact (refused_take hpending _ _).bind _

/-- **A value that looks like a setting is refused.** -/
theorem readAll_dash {word : String} (hword : isDashed word = true) (rest : List String) :
    Refused (r.readAll (word :: rest)) := by
  unfold isDashed at hword
  split at hword
  · rename_i c cs hchars
    rw [readAll.eq_def]
    dsimp only
    rw [hchars]
    split
    · cases rest with
      | nil =>
        dsimp only
        rw [settle_pending hpending]
        exact ⟨_, rfl⟩
      | cons next rest => exact ⟨_, rfl⟩
    · exact (refused_readName hpending _ _).bind _
    · exact (refused_readLetters hpending _ _).bind _
    · rename_i hother
      exact absurd rfl (hother c cs)
  · cases hword

theorem readAll_word {word : String} (hword : isDashed word = false) (rest : List String) :
    r.readAll (word :: rest) = readAll { r with pending := some (s, some word) } rest := by
  have hread : r.readWord word = .ok { r with pending := some (s, some word) } := by
    unfold readWord
    rw [hpending]
  rw [readAll.eq_def]
  dsimp only
  unfold isDashed at hword
  split
  · rename_i hchars
    rw [hchars] at hword
    cases hword
  · rename_i hchars
    rw [hchars] at hword
    cases hword
  · rename_i hchars
    rw [hchars] at hword
    cases hword
  · rw [hread]
    rfl

end Pending

/-! ## Settings with their values -/

/-- Settings with their values as arguments. -/
def spelled (values : List (Setting × String)) : List String :=
  values.flatMap fun v => ["--" ++ v.1.name, v.2]

/-- The settings given are these, as soon as the last one is noted. -/
def Notes (r : Reading) (given : List (Setting × String)) : Prop :=
  orStop r.settle = .ok ⟨given, none⟩

variable {given values : List (Setting × String)}

theorem Notes.start : Notes {} [] :=
  rfl

theorem note_new (hnew : s ∉ given.map (·.1)) (value : String) :
    note ⟨given, none⟩ s value = (⟨given ++ [(s, value)], none⟩, none) := by
  unfold note
  rw [if_neg (by rwa [List.contains_iff_mem])]

theorem Notes.of_pending {value : String} (hnew : s ∉ given.map (·.1)) :
    Notes ⟨given, some (s, some value)⟩ (given ++ [(s, value)]) := by
  unfold Notes settle
  dsimp only
  rw [note_new hnew]
  rfl

theorem readAll_name (hnotes : r.Notes given) (hvalue : s.takesValue = true) (rest : List String) :
    r.readAll (("--" ++ s.name) :: rest) = readAll ⟨given, some (s, none)⟩ rest := by
  have hawait : r.await s = .ok ⟨given, some (s, none)⟩ := by
    unfold await
    rw [show orStop r.settle = _ from hnotes]
    rfl
  have hread : r.readAll (("--" ++ s.name) :: rest) = (do readAll (← r.await s) rest) := by
    cases s <;> first | rfl | cases hvalue
  rw [hread, hawait]
  rfl

/-- **Settings in turn are noted in turn**, if their values are words. -/
theorem readAll_spelled (hnotes : r.Notes given) (hvalues : ∀ v ∈ values, v.1.takesValue = true)
    (hwords : ∀ v ∈ values, isDashed v.2 = false) (hnew : ((given ++ values).map (·.1)).Nodup)
    (rest : List String) :
    ∃ r' : Reading, r'.Notes (given ++ values) ∧
      r.readAll (spelled values ++ rest) = r'.readAll rest := by
  induction values generalizing r given with
  | nil => exact ⟨r, by rwa [List.append_nil], rfl⟩
  | cons v values ih =>
    obtain ⟨s, value⟩ := v
    have happend : given ++ (s, value) :: values = given ++ [(s, value)] ++ values := by simp
    have hfresh : s ∉ given.map (·.1) := by
      rw [List.map_append, List.map_cons] at hnew
      intro hmem
      exact (List.nodup_append.1 hnew).2.2 s hmem s (.head _) rfl
    have hfirst : r.readAll (spelled ((s, value) :: values) ++ rest) =
        readAll ⟨given, some (s, some value)⟩ (spelled values ++ rest) :=
      (readAll_name hnotes (hvalues _ (.head _)) _).trans (readAll_word rfl (hwords _ (.head _)) _)
    rw [hfirst, happend]
    exact ih (.of_pending hfresh) (fun w hw => hvalues w (.tail _ hw))
      (fun w hw => hwords w (.tail _ hw)) (happend ▸ hnew)

/-- **Settings in turn are refused** if the value of one looks like a setting. -/
theorem refused_spelled (hnotes : r.Notes given) (hvalues : ∀ v ∈ values, v.1.takesValue = true)
    (hdashed : ∃ v ∈ values, isDashed v.2 = true) (hnew : ((given ++ values).map (·.1)).Nodup)
    (rest : List String) : Refused (r.readAll (spelled values ++ rest)) := by
  induction values generalizing r given with
  | nil => simp at hdashed
  | cons v values ih =>
    obtain ⟨s, value⟩ := v
    have hname : r.readAll (spelled ((s, value) :: values) ++ rest) =
        readAll ⟨given, some (s, none)⟩ (value :: (spelled values ++ rest)) :=
      readAll_name hnotes (hvalues _ (.head _)) _
    rw [hname]
    cases hdash : isDashed value with
    | true => exact readAll_dash rfl hdash _
    | false =>
      rw [readAll_word rfl hdash]
      have happend : given ++ (s, value) :: values = given ++ [(s, value)] ++ values := by simp
      have hfresh : s ∉ given.map (·.1) := by
        rw [List.map_append, List.map_cons] at hnew
        intro hmem
        exact (List.nodup_append.1 hnew).2.2 s hmem s (.head _) rfl
      refine ih (.of_pending hfresh) (fun w hw => hvalues w (.tail _ hw)) ?_ (happend ▸ hnew)
      obtain ⟨w, hw, hwdash⟩ := hdashed
      rcases List.mem_cons.1 hw with rfl | hw
      · rw [hdash] at hwdash
        cases hwdash
      · exact ⟨w, hw, hwdash⟩

theorem readAll_report (hnotes : r.Notes given) (hnew : .report ∉ given.map (·.1)) (report : Bool) :
    r.readAll (if report then ["--report"] else []) =
      .ok ⟨given ++ if report then [(.report, "")] else [], none⟩ := by
  cases report with
  | false =>
    show r.readAll [] = .ok ⟨given ++ [], none⟩
    rw [List.append_nil]
    exact hnotes
  | true =>
    have htake : r.take .report "" = .ok ⟨given ++ [(.report, "")], none⟩ := by
      unfold take
      rw [show orStop r.settle = _ from hnotes]
      show orStop (note ⟨given, none⟩ .report "") = _
      rw [note_new hnew]
      rfl
    show (do readAll (← r.take .report "") []) = _
    rw [htake]
    rfl

end Reading

end FirstClaim.CommandLine
