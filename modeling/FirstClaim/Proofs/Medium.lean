import FirstClaim.Medium
import FirstClaim.Proofs.FileTree.Directories

/-!
# Writing that may break off

A file that is written holds what its medium keeps of the content. Either all of it was taken
(`Medium.kept_of_ok`), or writing broke off behind a proper beginning (`Medium.exists_kept`). Before
that, nothing has changed (`FileTree.writeOn_cases`).
-/

set_option autoImplicit false

namespace FirstClaim

variable {content : ByteArray}

namespace Room

variable {r : Room}

theorem taken_of_ok (h : r.result content = .ok ()) : r.taken content = content := by
  cases r with
  | none => rfl
  | some bound =>
    simp only [result] at h
    split at h
    · cases h
    · rename_i hbound
      refine ByteArray.ext ?_
      rw [taken, Option.elim_some, ByteArray.data_extract]
      exact Array.extract_eq_self_of_le (Nat.not_lt.1 hbound)

theorem exists_taken (h : r.result content ≠ .ok ()) :
    ∃ n, n < content.size ∧ r.taken content = content.extract 0 n := by
  cases r with
  | none => exact absurd rfl h
  | some bound =>
    refine ⟨bound.1, Nat.not_le.1 fun hle => h ?_, rfl⟩
    exact if_neg (Nat.not_lt.2 hle)

end Room

namespace Medium

variable {m : Medium}

theorem kept_of_ok (h : m.room.result content = .ok ()) :
    m.kept content = if m.keeps then content else .empty := by
  rw [kept, Room.taken_of_ok h]

theorem exists_kept (h : m.room.result content ≠ .ok ()) :
    ∃ n, n < content.size ∧ m.kept content = content.extract 0 n := by
  obtain ⟨n, hn, htaken⟩ := Room.exists_taken h
  unfold kept
  split
  · exact ⟨n, hn, htaken⟩
  · exact ⟨0, Nat.zero_lt_of_lt hn, by simp⟩

end Medium

namespace FileTree

variable {t : FileTree} {media : Media} {path : String}

/-- **A write is refused**, and then nothing changes, or else the file holds what its medium
keeps. -/
theorem writeOn_cases (t : FileTree) (media : Media) (path : String) (content : ByteArray) :
    (∃ e, t.writeOn media path content = (t, .error e)) ∨
      ∃ m written, m = media.file (t.leadsTo path) ∧ t.write path (m.kept content) = .ok written ∧
        t.writeOn media path content = (written, m.room.result content) := by
  unfold writeOn
  cases hpath : t.resolve path with
  | error e => exact .inl ⟨e, rfl⟩
  | ok place =>
    dsimp only
    cases hwrite : t.write path ((media.file place).kept content) with
    | error e => exact .inl ⟨e, rfl⟩
    | ok written => exact .inr ⟨_, written, by rw [resolve_ok hpath], hwrite, rfl⟩

end FileTree

end FirstClaim
