import FirstClaim.Proofs.RuleSet.Session

/-!
# Ids that tell rules apart

Ids come from rule files, from callers and from the supply, and nothing refuses one that a rule has
already: two rules with one id can stand in a set, and then only the first one is ever found
(`shared_id_first_only`). As long as no id comes in twice (`Orderly`) they stay apart:

* `IdsFrom.nodup`: ids that are apart stay apart when new ones are brought (`Change.Orderly`);
  `changed_nodup` carries this through changes in turn.
* `Distinct.get?_getElem?`, `get?_add`, `Distinct.delete_delete`: among rules with ids of their own,
  an id leads to its rule, to a new one too, and to none once the rule is gone.

`session_distinct` puts this together for every set that has been edited.
-/

set_option autoImplicit false

namespace FirstClaim.RuleSet

/-- No two rules have the same id. -/
def Distinct (s : RuleSet) : Prop :=
  s.records.Pairwise fun r t => r.id ≠ t.id

instance (s : RuleSet) : Decidable s.Distinct :=
  inferInstanceAs (Decidable (List.Pairwise _ _))

/-! ## Bringing in ids -/

/-- The ids that a rule set is made with are all different, those of the input as well as those
that are generated. -/
def Origin.Orderly (origin : Origin) (supply : IdSupply) : Prop :=
  (idsOf origin.input ++ drawn origin.make supply).Nodup

/-- The ids that a change brings, with a record or generated, are all different and none of them is
in the set. -/
def Change.Orderly (s : RuleSet) (supply : IdSupply) (c : Change) : Prop :=
  (c.given ++ drawn (c.run s) supply).Nodup ∧ ∀ id ∈ c.given ++ drawn (c.run s) supply, id ∉ s.ids

/-- Each change in turn brings only ids that are new to the set at that time. -/
def OrderlyFrom (s : RuleSet) (supply : IdSupply) : List Change → Prop
  | [] => True
  | c :: changes =>
    c.Orderly s supply ∧ OrderlyFrom ((c.run s).run supply).1 ((c.run s).run supply).2 changes

theorem IdsFrom.nodup {s s' : RuleSet} {brought : List String} (h : s.IdsFrom brought s')
    (hs : s.ids.Nodup) (hbrought : brought.Nodup) (hnew : ∀ id ∈ brought, id ∉ s.ids) :
    s'.ids.Nodup := by
  obtain ⟨kept, hperm, hsub⟩ := h.ids
  have hall : (s.ids ++ brought).Nodup :=
    List.nodup_append.2 ⟨hs, hbrought, fun id hid other hother heq =>
      hnew other hother (heq ▸ hid)⟩
  exact hperm.nodup_iff.1 (hall.sublist hsub)

/-- **Changes that bring only new ids keep the ids apart.** -/
theorem changed_nodup : ∀ {changes : List Change} {s : RuleSet} {supply : IdSupply},
    s.ids.Nodup → OrderlyFrom s supply changes →
    ((s.changed changes).run supply).1.ids.Nodup
  | [], _, _, h, _ => h
  | c :: changes, s, supply, h, horderly => by
    obtain ⟨⟨hbrought, hnew⟩, hchanges⟩ := horderly
    rw [run_changed_cons]
    have hstep := (c.idsFrom s supply).nodup h hbrought hnew
    exact changed_nodup hstep hchanges

/-- Where every rule has an id, rules with different ids are all there is to ids being apart. -/
theorem Identified.distinct {s : RuleSet} (h : s.Identified) (hids : s.ids.Nodup) :
    s.Distinct := by
  have hapart := List.pairwise_filterMap.1 hids
  refine hapart.imp_of_mem fun {r t} hr _ hne heq => ?_
  obtain ⟨id, hid⟩ := Option.isSome_iff_exists.1 (h r hr)
  exact hne id hid id (heq ▸ hid) rfl

/-! ## What an id leads to -/

variable {s s' : RuleSet} {r : RuleRecord} {id : String}

theorem Distinct.firstWith (h : s.Distinct) {k : Nat} (hk : s.records[k]? = some r)
    (hid : r.id = some id) :
    s.FirstWith id (s.records.take k) r (s.records.drop (k + 1)) := by
  obtain ⟨hlt, rfl⟩ := List.getElem?_eq_some_iff.1 hk
  refine ⟨?_, hid, fun t ht heq => ?_⟩
  · rw [List.getElem_cons_drop, List.take_append_drop]
  · obtain ⟨j, hj, rfl⟩ := List.mem_take_iff_getElem.1 ht
    exact List.pairwise_iff_getElem.1 h j k (by omega) hlt (by omega) (heq.trans hid.symm)

/-- **Among rules with ids of their own, the id of a rule leads to it.** -/
theorem Distinct.get?_getElem? (h : s.Distinct) {k : Nat} (hk : s.records[k]? = some r)
    (hid : r.id = some id) : s.get? id = some r :=
  get?_eq_some_iff.2 ⟨_, _, h.firstWith hk hid⟩

/-- **A new id leads to the rule that was added with it.** -/
theorem get?_add {supply : IdSupply} (h : (Change.add r).Orderly s supply) :
    let added := ((s.add r).run supply).1
    added.2.get? added.1 = some { r with id := some added.1 } := by
  intro added
  obtain ⟨id, hrun, hid⟩ := s.run_add r supply
  have hadded : added = (id, { s with records := s.records ++ [{ r with id := some id }] }) := by
    simp only [added, hrun]
  have hdrawn : drawn ((Change.add r).run s) supply = supply.next (lacking [r]) :=
    drawn_of_run (a := added.2) (by
      change (((s.add r).run supply).1.2, ((s.add r).run supply).2) = _
      rw [hrun, hadded])
  have hnot : id ∉ s.ids := by
    refine h.2 id ?_
    change id ∈ r.id.toList ++ drawn ((Change.add r).run s) supply
    rw [hdrawn, hid]
    exact .head _
  rw [hadded]
  refine get?_eq_some_iff.2 ⟨s.records, [], rfl, rfl, fun t ht heq => hnot ?_⟩
  exact mem_ids.2 ⟨t, ht, heq⟩

/-- **A rule that is gone cannot be deleted again.** -/
theorem Distinct.delete_delete (h : s.Distinct) (hdelete : s.delete id = .ok (r, s')) :
    s'.delete id = .error ⟨id⟩ := by
  obtain ⟨before, after, hfirst, rfl⟩ := delete_ok hdelete
  refine delete_error fun hmem => ?_
  obtain ⟨t, ht, hid⟩ := mem_ids.1 hmem
  rcases List.mem_append.1 ht with ht | ht
  · exact hfirst.others t ht hid
  · -- a rule behind the one that was deleted has another id
    unfold Distinct at h
    rw [hfirst.records] at h
    obtain ⟨-, hrest, -⟩ := List.pairwise_append.1 h
    exact (List.pairwise_cons.1 hrest).1 t ht (hfirst.id_eq.trans hid.symm)

/-! ## Edited sets -/

/-- **Ids tell rules apart, as long as no id comes in that is there already.** The id of every rule
leads to it, the id of a new rule leads to the new rule, and a rule is deleted only once. -/
theorem session_distinct (origin : Origin) (changes : List Change) (supply : IdSupply)
    (horigin : origin.Orderly supply)
    (hchanges : OrderlyFrom (origin.make.run supply).1 (origin.make.run supply).2 changes) :
    let s := ((session origin changes).run supply).1
    s.Distinct ∧
      (∀ (k : Nat) (r : RuleRecord), s.records[k]? = some r →
        ∃ id, r.id = some id ∧ s.get? id = some r) ∧
      (∀ (r : RuleRecord) (supply' : IdSupply), (Change.add r).Orderly s supply' →
        let added := ((s.add r).run supply').1
        added.2.get? added.1 = some { r with id := some added.1 }) ∧
      ∀ (id : String) (r : RuleRecord) (s' : RuleSet), s.delete id = .ok (r, s') →
        s'.delete id = .error ⟨id⟩ := by
  intro s
  have hmade : (origin.make.run supply).1.ids.Nodup :=
    (origin.make_spec supply).2.nodup_iff.2 horigin
  have hids : s.ids.Nodup := changed_nodup hmade hchanges
  have hidentified : s.Identified := identified_session origin changes supply
  have hdistinct : s.Distinct := hidentified.distinct hids
  refine ⟨hdistinct, fun k r hk => ?_, fun r supply' h => get?_add h,
    fun id r s' hdelete => hdistinct.delete_delete hdelete⟩
  obtain ⟨id, hid⟩ := Option.isSome_iff_exists.1
    (hidentified r (List.mem_of_getElem? hk))
  exact ⟨id, hid, hdistinct.get?_getElem? hk hid⟩

def counting : IdSupply :=
  { number := BitVec.ofNat 128 }

/-- A rule comes with an id and another one without. -/
def draft : Origin :=
  .records "draft" [{ id := some "a", pattern := "x" }, { pattern := "y" }]

/-- The id of a rule that is deleted comes in again with another rule. -/
def redraft : List Change :=
  [.add { id := some "b", pattern := "z" }, .delete "a", .addEmpty,
    .add { id := some "a", pattern := "w" }, .move "a" "b"]

theorem session_distinct_redraft :
    draft.Orderly counting ∧
      OrderlyFrom (draft.make.run counting).1 (draft.make.run counting).2 redraft ∧
      ((session draft redraft).run counting).1.records.map (·.pattern) = ["y", "w", "z", ""] ∧
      ((session draft redraft).run counting).1.Distinct ∧
      ((session draft redraft).run counting).1.get? "a" =
        some { id := some "a", pattern := "w" } := by
  have horigin : draft.Orderly counting := by
    unfold Origin.Orderly
    decide +kernel
  have hchanges :
      OrderlyFrom (draft.make.run counting).1 (draft.make.run counting).2 redraft := by
    simp only [redraft, OrderlyFrom, Change.Orderly]
    decide +kernel
  obtain ⟨hdistinct, hget, -⟩ := session_distinct draft redraft counting horigin hchanges
  refine ⟨horigin, hchanges, by decide +kernel, hdistinct, ?_⟩
  obtain ⟨id, hid, hfound⟩ := hget 1 { id := some "a", pattern := "w" } (by decide +kernel)
  cases hid
  exact hfound

/-- Two rules that come with the same id. -/
def twins : List RuleRecord :=
  [{ id := some "a", pattern := "x" }, { id := some "a", pattern := "y" }]

/-- **Two rules may share an id**, also where no id is generated at all. Then the second one is not
found, a further rule with that id is not found either, and a deletion can be repeated. -/
theorem shared_id_first_only :
    let made := (Origin.records "twins" twins).make.run counting
    drawn (Origin.records "twins" twins).make counting = [] ∧
      ¬ made.1.Distinct ∧
      made.1.records[1]? = some { id := some "a", pattern := "y" } ∧
      made.1.get? "a" = some { id := some "a", pattern := "x" } ∧
      (((made.1.add { id := some "a", pattern := "z" }).run made.2).1.2.get? "a").map (·.pattern) =
        some "x" ∧
      (made.1.delete "a").bind (·.2.delete "a") =
        .ok ({ id := some "a", pattern := "y" }, ⟨"twins", []⟩) := by
  decide +kernel

end FirstClaim.RuleSet
