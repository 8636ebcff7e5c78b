import FirstClaim.Proofs.Engine.Lines
import FirstClaim.Proofs.Engine.Turn

/-!
# One line of a text

`IsLine` says that a part of a text is one of its lines and how it ends.

* `findAll_line`: what a pattern that works line by line finds in a line it finds there in the text
  (`shift_mem_findAll`), and everything else that it finds lies before or behind the line.
* `apply_line`: rules that work line by line keep the end of the line and work on the line as if it
  were a text of its own.
* `apply_of_first`, `apply_of_claim`: what a claim at the beginning of a text says of the output.
-/

set_option autoImplicit false

namespace FirstClaim

/-- `line` is a line of the text `front ++ line ++ stop ++ back`: it begins with the text or behind
a line end, and it ends with the text or at the line end `stop`. -/
structure IsLine (front line stop back : String) : Prop where
  unbroken : ∀ c ∈ line.toList, Regex.isLineEnd c = false
  starts : front = "" ∨ ∃ before z, front = before ++ z ∧
    Regex.LineEnd before (line ++ stop ++ back) z
  stops : (stop = "" ∧ back = "") ∨ Regex.LineEnd (front ++ line) back stop

namespace Regex

variable {front line stop back : String} {r : Regex}

/-- **What is found in a line** is found there in the text; all else lies before or behind it. -/
theorem findAll_line (h : IsLine front line stop back) (hn : r.node.Linewise)
    (hproductive : r.node.productive = true) (hconsumes : r.node.consumes = true) :
    ∃ before behind, r.findAll (front ++ line ++ stop ++ back) =
        before ++ (r.findAll line).map (Match.shift front.utf8ByteSize) ++ behind ∧
      (∀ m ∈ before, m.whole.stop ≤ front.utf8ByteSize) ∧
      ∀ m ∈ behind, (front ++ line).utf8ByteSize ≤ m.whole.start := by
  have hback : ∃ behind, r.findAll (line ++ stop ++ back) = r.findAll line ++ behind ∧
      ∀ m ∈ behind, line.utf8ByteSize ≤ m.whole.start := by
    rcases h.stops with ⟨rfl, rfl⟩ | hstop
    · exact ⟨[], by simp, by simp⟩
    · refine ⟨_, findAll_lines hn hproductive hconsumes hstop.of_append, fun m hm => ?_⟩
      obtain ⟨k, -, rfl⟩ := List.mem_map.1 hm
      simp only [Match.shift, Capture.shift, String.utf8ByteSize_append]
      omega
  obtain ⟨behind, hline, hbehind⟩ := hback
  have hshifted : ∀ m ∈ behind.map (Match.shift front.utf8ByteSize),
      (front ++ line).utf8ByteSize ≤ m.whole.start := fun m hm => by
    obtain ⟨k, hk, rfl⟩ := List.mem_map.1 hm
    have hle := hbehind k hk
    simp only [Match.shift, Capture.shift, String.utf8ByteSize_append]
    omega
  have htext : front ++ line ++ stop ++ back = front ++ (line ++ stop ++ back) := by
    simp only [String.append_assoc]
  rw [htext]
  -- the line is the first one, or a line end stands right before it
  rcases h.starts with rfl | ⟨before, z, rfl, hstart⟩
  · refine ⟨[], behind.map (Match.shift "".utf8ByteSize), ?_, by simp, hshifted⟩
    rw [String.empty_append, hline, List.nil_append, ← List.map_append]
    exact (List.map_id'' Match.shift_zero _).symm
  · refine ⟨r.findAll before, _, ?_, fun m hm => ?_, hshifted⟩
    · rw [findAll_lines hn hproductive hconsumes hstart, hline, List.map_append,
        List.append_assoc]
    · have hpart : m.In before.toList := (findAll_ordered r before).parts m hm
      have hle := hpart.stop_le
      rw [String.utf8Len_toList] at hle
      rw [String.utf8ByteSize_append]
      omega

theorem shift_mem_findAll (h : IsLine front line stop back) (hn : r.node.Linewise)
    (hproductive : r.node.productive = true) (hconsumes : r.node.consumes = true) {m : Match}
    (hm : m ∈ r.findAll line) :
    m.shift front.utf8ByteSize ∈ r.findAll (front ++ line ++ stop ++ back) := by
  obtain ⟨before, behind, hall, -, -⟩ := findAll_line h hn hproductive hconsumes
  rw [hall]
  exact List.mem_append_left _ (List.mem_append_right _ (List.mem_map_of_mem hm))

end Regex

namespace Engine

variable {front line stop back : String} {rules : List Rule}

theorem apply_empty (e : Engine) : e.apply "" = "" := by
  rw [apply, transform_empty]
  rfl

/-- **Rules that work line by line** work on a line as if it were a text of its own. -/
theorem apply_line (hrules : ∀ rule ∈ rules, rule.linewise = true)
    (h : IsLine front line stop back) :
    (Engine.mk rules).apply (front ++ line ++ stop ++ back) =
      (Engine.mk rules).apply front ++ (Engine.mk rules).apply line ++ stop ++
        (Engine.mk rules).apply back := by
  have hback : (Engine.mk rules).apply (line ++ stop ++ back) =
      (Engine.mk rules).apply line ++ stop ++ (Engine.mk rules).apply back := by
    rcases h.stops with ⟨rfl, rfl⟩ | hstop
    · simp [apply_empty]
    · exact apply_lines hrules hstop.of_append
  have hall : (Engine.mk rules).apply (front ++ (line ++ stop ++ back)) =
      (Engine.mk rules).apply front ++
        ((Engine.mk rules).apply line ++ stop ++ (Engine.mk rules).apply back) := by
    rcases h.starts with rfl | ⟨before, z, rfl, hstart⟩
    · rw [String.empty_append, apply_empty, String.empty_append, hback]
    · have hfront := apply_lines hrules hstart.last
      rw [String.append_empty, apply_empty, String.append_empty] at hfront
      rw [apply_lines hrules hstart, hfront, hback]
  simpa only [String.append_assoc] using hall

/-! ## A claim at the beginning of a text -/

section First

variable {e : Engine} {text : String} {c : Claim}

theorem claims_eq_cons (hc : c ∈ (e.transform text).1.claims) (hstart : c.start = 0) :
    ∃ cs, (e.transform text).1.claims = c :: cs := by
  have hon := (e.transform_report text).1
  obtain ⟨before, cs, hclaims⟩ := List.append_of_mem hc
  have hapart := hon.apart
  simp only [hclaims] at hapart
  have hnone : before = [] := List.eq_nil_iff_forall_not_mem.2 fun d hd => by
    have hmem : d ∈ (e.transform text).1.claims := by
      rw [hclaims]
      exact List.mem_append_left _ hd
    have hne := hon.nonempty d hmem
    have hbefore : d.stop ≤ c.start := (List.pairwise_append.1 hapart).2.2 d hd c (.head _)
    omega
  exact ⟨cs, by rw [hclaims, hnone, List.nil_append]⟩

/-- Its replacement stands at the beginning of the output, before what the other claims make of the
text behind it. -/
theorem apply_of_first (hc : c ∈ (e.transform text).1.claims) (hstart : c.start = 0) :
    ∃ cs, (e.transform text).1.claims = c :: cs ∧ e.apply text =
      c.replacement ++ String.ofList (splice c.stop (dropBytes c.stop text.toList) cs) := by
  obtain ⟨cs, hclaims⟩ := claims_eq_cons hc hstart
  have htake : takeBytes 0 text.toList = [] := takeBytes_append [] text.toList
  refine ⟨cs, hclaims, ?_⟩
  rw [apply, (e.transform_report text).2, hclaims, splice, hstart, Nat.sub_zero, Nat.sub_zero,
    htake, List.nil_append, String.ofList_append, String.ofList_toList]

/-- **A claim on a whole text** leaves nothing to other rules. -/
theorem apply_of_claim (hc : c ∈ (e.transform text).1.claims) (hstart : c.start = 0)
    (hstop : c.stop = text.utf8ByteSize) : e.apply text = c.replacement := by
  have hon := (e.transform_report text).1
  obtain ⟨cs, hclaims, hout⟩ := apply_of_first hc hstart
  have hapart := hon.apart
  simp only [hclaims] at hapart
  have hnone : cs = [] := List.eq_nil_iff_forall_not_mem.2 fun d hd => by
    have hmem : d ∈ (e.transform text).1.claims := by
      rw [hclaims]
      exact List.mem_cons_of_mem c hd
    have hne := hon.nonempty d hmem
    have hle := (hon.inside d hmem).stop_le
    have hbehind : c.stop ≤ d.start := (List.pairwise_cons.1 hapart).1 d hd
    rw [String.utf8Len_toList] at hle
    omega
  have hdrop : dropBytes text.utf8ByteSize text.toList = [] := by
    have hall := dropBytes_append text.toList []
    rwa [List.append_nil, String.utf8Len_toList] at hall
  rw [hout, hnone, hstop, hdrop, splice, String.ofList_nil, String.append_empty]

end First

end Engine

end FirstClaim
