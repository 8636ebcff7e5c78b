import FirstClaim.Path

/-!
# Joined paths

A path that goes on from a directory has the names of both in turn (`names_join`); it begins where
the directory does and ends as the path behind does. The name of a file with an extension comes
apart at its last dot (`splitName_extension`), and no other name has one (`splitName_eq_some`).
-/

set_option autoImplicit false

namespace FirstClaim.Path

/-! ## Names -/

theorem pieces_ne_nil (cs : List Char) : pieces cs ≠ [] := by
  cases cs with
  | nil => exact List.cons_ne_nil _ _
  | cons c cs =>
    rw [pieces]
    split
    · exact List.cons_ne_nil _ _
    · split <;> exact List.cons_ne_nil _ _

theorem pieces_append (xs ys : List Char) :
    pieces (xs ++ '/' :: ys) = pieces xs ++ pieces ys := by
  induction xs with
  | nil => rfl
  | cons c xs ih =>
    rw [List.cons_append, pieces, pieces, ih]
    split
    · rfl
    · obtain ⟨piece, rest, hpieces⟩ := List.exists_cons_of_ne_nil (pieces_ne_nil xs)
      rw [hpieces]
      rfl

theorem pieces_of_no_slash {cs : List Char} (h : '/' ∉ cs) : pieces cs = [cs] := by
  induction cs with
  | nil => rfl
  | cons c cs ih =>
    obtain ⟨hc, hcs⟩ := not_or.1 (mt List.mem_cons.2 h)
    rw [pieces, if_neg (Ne.symm hc), ih hcs]

theorem names_slash (a b : String) : names (a ++ "/" ++ b) = names a ++ names b := by
  have htext : (a ++ "/" ++ b).toList = a.toList ++ '/' :: b.toList := by simp
  simp only [names, htext, pieces_append, List.filter_append, List.map_append]

theorem names_of_no_slash {path : String} (hne : path ≠ "") (h : '/' ∉ path.toList) :
    names path = [path] := by
  have hnil : path.toList ≠ [] := by simpa using hne
  rw [names, pieces_of_no_slash h]
  simp [hnil]

theorem isAbsolute_of_no_slash {path : String} (h : '/' ∉ path.toList) :
    isAbsolute path = false := by
  rw [isAbsolute, beq_eq_false_iff_ne]
  intro hhead
  exact h (List.mem_of_head? hhead)

theorem join_cases {directory path : String} (hdir : directory ≠ "") (h : isAbsolute path = false) :
    (∃ d, directory = d ++ "/" ∧ join directory path = d ++ "/" ++ path) ∨
      join directory path = directory ++ "/" ++ path := by
  have hempty : directory.isEmpty = false := by simpa using hdir
  unfold join
  rw [if_neg (by simp [h]), hempty, Bool.false_or]
  split
  · rename_i hslash
    left
    obtain ⟨ds, hds⟩ : ∃ ds, directory.toList = ds ++ ['/'] :=
      List.getLast?_eq_some_iff.1 (beq_iff_eq.1 hslash)
    have hdirectory : directory = String.ofList ds ++ "/" := by
      rw [← String.toList_inj, hds]
      simp
    exact ⟨String.ofList ds, hdirectory, by rw [← hdirectory]⟩
  · exact .inr rfl

/-- **The names on a joined path are those of the directory and those behind it.** -/
theorem names_join {directory path : String} (hdir : directory ≠ "") (h : isAbsolute path = false) :
    names (join directory path) = names directory ++ names path := by
  obtain ⟨d, rfl, hjoin⟩ | hjoin := join_cases hdir h
  · have hend : names (d ++ "/") = names d := by
      have hslash := names_slash d ""
      rw [String.append_empty] at hslash
      rw [hslash, show names "" = [] from rfl, List.append_nil]
    rw [hjoin, names_slash, hend]
  · rw [hjoin, names_slash]

/-! ## Both ends -/

theorem isAbsolute_join {directory path : String} (hdir : directory ≠ "")
    (h : isAbsolute path = false) : isAbsolute (join directory path) = isAbsolute directory := by
  obtain ⟨d, rfl, hjoin⟩ | hjoin := join_cases hdir h
  · rw [hjoin]
    simp [isAbsolute]
  · rw [hjoin]
    have hnil : directory.toList ≠ [] := by simpa using hdir
    obtain ⟨c, cs, hcons⟩ := List.exists_cons_of_ne_nil hnil
    simp [isAbsolute, hcons]

theorem endsInSlash_join {directory path : String} (hdir : directory ≠ "") (hpath : path ≠ "")
    (h : isAbsolute path = false) : endsInSlash (join directory path) = endsInSlash path := by
  have hlast : ∀ d : String, (d ++ path).toList.getLast? = path.toList.getLast? := by
    intro d
    have hnil : path.toList ≠ [] := by simpa using hpath
    rw [String.toList_append, List.getLast?_append, List.getLast?_eq_some_getLast hnil]
    rfl
  obtain ⟨d, -, hjoin⟩ | hjoin := join_cases hdir h
  · rw [hjoin, endsInSlash, hlast, endsInSlash]
  · rw [hjoin, endsInSlash, hlast, endsInSlash]

theorem mem_join {directory path : String} (hdir : directory ≠ "") (h : isAbsolute path = false)
    {c : Char} (hc : c ≠ '/') :
    c ∈ (join directory path).toList ↔ c ∈ directory.toList ∨ c ∈ path.toList := by
  obtain ⟨d, rfl, hjoin⟩ | hjoin := join_cases hdir h
  · rw [hjoin]
    simp [hc]
  · rw [hjoin]
    simp [hc]

theorem join_ne_empty {directory path : String} (hdir : directory ≠ "")
    (h : isAbsolute path = false) : join directory path ≠ "" := by
  obtain ⟨d, -, hjoin⟩ | hjoin := join_cases hdir h
  · rw [hjoin]
    simp
  · rw [hjoin]
    simp

/-! ## Extensions -/

/-- **A name with an extension behind it comes apart again**, whatever dots the name has. -/
theorem splitName_extension {name extension : List Char} (hname : name ≠ [])
    (hext : '.' ∉ extension) :
    splitName (name ++ '.' :: extension) = (name, some extension) := by
  have hreverse : (name ++ '.' :: extension).reverse =
      extension.reverse ++ '.' :: name.reverse := by
    simp
  have hbehind : (extension.reverse ++ '.' :: name.reverse).takeWhile (· ≠ '.') =
      extension.reverse := by
    rw [List.takeWhile_append_of_pos (fun c hc => by
      have hne : c ≠ '.' := fun heq => hext (heq ▸ List.mem_reverse.1 hc)
      simpa using hne)]
    simp
  unfold splitName
  dsimp only
  rw [hreverse, hbehind]
  have hdrop : (extension.reverse ++ '.' :: name.reverse).drop (extension.reverse.length + 1) =
      name.reverse := by
    rw [← List.drop_drop, List.drop_left]
    rfl
  rw [hdrop, if_neg (by simpa using hname), List.reverse_reverse, List.reverse_reverse]

/-- A name whose only dot, if any, stands in front has no extension. -/
theorem splitName_no_extension {file : List Char} (h : '.' ∉ file.tail) :
    splitName file = (file, none) := by
  have hshort : file.length ≤ (file.reverse.takeWhile (· ≠ '.')).length + 1 := by
    cases file with
    | nil => exact Nat.zero_le _
    | cons c cs =>
      rw [List.reverse_cons, List.takeWhile_append_of_pos (fun d hd => by
        have hne : d ≠ '.' := fun heq => h (heq ▸ List.mem_reverse.1 hd)
        simpa using hne)]
      simp
  unfold splitName
  dsimp only
  rw [if_pos (List.drop_eq_nil_of_le (by rw [List.length_reverse]; exact hshort))]

/-- **A name has an extension if it is put together from a first part, a dot and the extension.** -/
theorem splitName_eq_some {file name extension : List Char} :
    splitName file = (name, some extension) ↔
      name ≠ [] ∧ '.' ∉ extension ∧ file = name ++ '.' :: extension := by
  refine ⟨fun h => ?_, fun ⟨hname, hext, hfile⟩ => hfile ▸ splitName_extension hname hext⟩
  by_cases hdot : '.' ∈ file.tail
  · -- the last dot of the name is not its first character
    obtain ⟨behind, before, hsplit, hbehind⟩ :=
      List.eq_append_cons_of_mem (List.mem_reverse.2 hdot)
    have htail : file.tail = before.reverse ++ '.' :: behind.reverse := by
      rw [← List.reverse_reverse file.tail, hsplit]
      simp
    cases file with
    | nil => cases hdot
    | cons c cs =>
      rw [List.tail_cons] at htail
      have hext : '.' ∉ behind.reverse := fun hmem => hbehind (List.mem_reverse.1 hmem)
      have hfile : c :: cs = (c :: before.reverse) ++ '.' :: behind.reverse := by
        rw [htail, List.cons_append]
      rw [hfile, splitName_extension (List.cons_ne_nil _ _) hext] at h
      cases h
      exact ⟨List.cons_ne_nil _ _, hext, hfile⟩
  · rw [splitName_no_extension hdot] at h
    cases h

end FirstClaim.Path
