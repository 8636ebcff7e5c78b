import FirstClaim.Proofs.Builtin.Rules
import FirstClaim.Proofs.Engine.Complete
import FirstClaim.Proofs.Engine.Report

/-!
# Bullet items

The rule for bullet items comes last and shares a sign with the rule for bold text. It is never in
the way of the rules before it: the mark of an item contains its sign only once, before a gap, while
all other matches begin with a sign of a heading or with a doubled sign.

* `bullet_match`: the match of the bullet rule is the mark of the line.
* `not_opens`, `inline_behind`: so no match of a rule before it begins in the mark.
* `bullet_claimed`: a match of the bullet rule that no other match reaches is claimed.

`builtin_bullet` puts this together for a line of any text.
-/

set_option autoImplicit false

namespace FirstClaim.Builtin

open String (utf8Len)
open Regex

/-- A sign of a bullet item between gaps, the second of which is not empty. -/
structure IsMark (indent : List Char) (sign : Char) (gap : List Char) : Prop where
  leading : ∀ c ∈ indent, isGap c = true
  marker : sign = '-' ∨ sign = '*'
  trailing : ∀ c ∈ gap, isGap c = true
  nonempty : gap ≠ []

/-- The line `mark ++ rest` is a bullet item; its mark goes on as long as there are gaps. -/
structure IsBullet (mark rest : String) : Prop where
  shape : ∃ indent sign gap, mark.toList = indent ++ sign :: gap ∧ IsMark indent sign gap
  longest : ∀ c, rest.toList.head? = some c → isGap c = false

namespace IsMark

variable {indent gap : List Char} {sign : Char}

theorem sign_not_gap (h : IsMark indent sign gap) : isGap sign = false := by
  rcases h.marker with rfl | rfl <;> rfl

theorem behind_eq_gap (h : IsMark indent sign gap) {before behind : List Char} {c : Char}
    (hsplit : indent ++ sign :: gap = before ++ c :: behind) (hc : isGap c = false) :
    c = sign ∧ behind = gap := by
  have hnot : ∀ l : List Char, (∀ d ∈ l, isGap d = true) → c ∉ l := fun l hl hmem =>
    Bool.noConfusion (hc.symm.trans (hl c hmem))
  rcases List.append_eq_append_iff.1 hsplit with ⟨more, rfl, hmore⟩ | ⟨more, rfl, hmore⟩
  · cases more with
    | nil =>
      obtain ⟨rfl, rfl⟩ := List.cons.inj hmore
      exact ⟨rfl, rfl⟩
    | cons d more =>
      -- the character would stand in the gap
      obtain ⟨-, rfl⟩ := List.cons.inj hmore
      exact absurd (by simp) (hnot _ h.trailing)
  · cases more with
    | nil =>
      obtain ⟨rfl, rfl⟩ := List.cons.inj hmore
      exact ⟨rfl, rfl⟩
    | cons d more =>
      -- it would stand before the sign
      obtain ⟨rfl, -⟩ := List.cons.inj hmore
      exact absurd (by simp) (hnot _ h.leading)

end IsMark

/-! ## The match of the bullet rule -/

theorem dropWhile_gaps {gap rest : List Char} (hgap : ∀ c ∈ gap, isGap c = true)
    (hrest : ∀ c, rest.head? = some c → isGap c = false) :
    (gap ++ rest).dropWhile isGap = rest := by
  rw [List.dropWhile_append_of_pos hgap]
  cases rest with
  | nil => rfl
  | cons c rest => rw [List.dropWhile_cons_of_neg (by simp [hrest c rfl])]

/-- The pattern of bullet items takes the mark, with all of the gap. -/
theorem bullet_prefers {text indent gap rest : List Char} {sign : Char} {q : Place}
    (h : IsMark indent sign gap) (hrest : ∀ c, rest.head? = some c → isGap c = false)
    (hq : q.In text) (hstart : (Look.lineStart true).holds q = true)
    (hafter : q.after = indent ++ sign :: (gap ++ rest)) :
    ∃ q', bullet.node.Prefers (q, []) (q', []) ∧ q'.In text ∧ q'.after = rest := by
  have hsign : (q.past gaps.contains).after = sign :: (gap ++ rest) := by
    rw [Place.after_past, hafter, funext contains_gaps]
    refine dropWhile_gaps h.leading fun c hc => ?_
    rw [← Option.some.inj hc]
    exact h.sign_not_gap
  have hbehind : (q.past gaps.contains).advance.after = gap ++ rest := Place.after_advance hsign
  obtain ⟨c, more, rfl⟩ := List.exists_cons_of_ne_nil h.nonempty
  have hgap : gaps.contains c = true := (contains_gaps c).trans (h.trailing c (.head _))
  have hreads : CharSet.contains ⟨[⟨0x2A, 0x2A⟩, ⟨0x2D, 0x2D⟩]⟩ sign = true := by
    rcases h.marker with rfl | rfl <;> rfl
  refine ⟨(q.past gaps.contains).advance.past gaps.contains, ?_, hq.past.advance.past, ?_⟩
  · exact .cat (.look hstart) (.cat (.star rfl) (.cat (.read rfl hsign hreads)
      (.plus rfl hbehind hgap)))
  · rw [Place.after_past, hbehind, funext contains_gaps]
    exact dropWhile_gaps h.trailing hrest

/-- **The match of the bullet rule is the mark of the line.** -/
theorem bullet_match {mark rest : String} (h : IsBullet mark rest) :
    ⟨⟨0, mark.utf8ByteSize, mark⟩, []⟩ ∈ bullet.findAll (mark ++ rest) := by
  obtain ⟨indent, sign, gap, hshape, hmark⟩ := h.shape
  have hafter : (Place.start (mark ++ rest).toList).after = mark.toList ++ rest.toList :=
    String.toList_append
  obtain ⟨q, hprefers, hq, hrest⟩ := bullet_prefers hmark h.longest (.start _) rfl
    (hafter.trans (by rw [hshape, List.append_assoc, List.cons_append]))
  have hmem := findAll_of_prefers (r := bullet) rfl rfl hprefers
  obtain ⟨hsize, hwhole⟩ := (Place.In.start _).passed hq (hafter.trans (by rw [hrest]))
  have hzero : (Place.start (mark ++ rest).toList).offset = 0 := rfl
  rw [hzero, Nat.zero_add, String.utf8Len_toList] at hsize
  rw [hzero, ← hsize, String.ofList_toList] at hwhole
  have hmatch : (End.thread 0 (q, [])).toMatch bullet.groupBound
      (Place.start (mark ++ rest).toList) = ⟨⟨0, mark.utf8ByteSize, mark⟩, []⟩ :=
    congrArg (Match.mk · []) hwhole
  rwa [hmatch] at hmem

/-! ## The rules before it -/

/-- **Nowhere in a mark begins a match of another rule.** -/
theorem not_opens {mark rest : String} (h : IsBullet mark rest) {before behind : List Char}
    (hsplit : mark.toList = before ++ behind) (hbehind : behind ≠ []) :
    ¬ Opens (behind ++ rest.toList) := by
  rintro ⟨c, more, hc, hopens⟩
  obtain ⟨indent, sign, gap, hshape, hmark⟩ := h.shape
  obtain ⟨d, behind, rfl⟩ := List.exists_cons_of_ne_nil hbehind
  obtain ⟨rfl, rfl⟩ := List.cons.inj hc
  have hnogap : isGap d = false := by
    rcases hopens with rfl | ⟨rfl | rfl | rfl, -⟩ <;> rfl
  obtain ⟨rfl, rfl⟩ := hmark.behind_eq_gap (hshape.symm.trans hsplit) hnogap
  rcases hopens with rfl | ⟨-, hdoubled⟩
  · -- the sign of a bullet item is no sign of a heading
    rcases hmark.marker with heq | heq <;> cases heq
  · -- behind the sign stands a gap
    obtain ⟨g, gap, rfl⟩ := List.exists_cons_of_ne_nil hmark.nonempty
    have hgap := hmark.trailing g (.head _)
    rw [Option.some.inj hdoubled, hnogap] at hgap
    cases hgap

/-- **All other matches in the line lie behind the mark.** -/
theorem inline_behind {mark rest : String} (h : IsBullet mark rest) {r : Regex}
    (hr : r ∈ inlineRegexes) {m : Match} (hm : m ∈ r.findAll (mark ++ rest)) :
    mark.utf8ByteSize ≤ m.whole.start := by
  obtain ⟨-, hproductive, hconsumes⟩ := linewise_regexes r (List.mem_append_left _ hr)
  obtain ⟨s, t, ⟨before, htext, -, hoffset, -⟩, -, ht, rfl⟩ :=
    exists_attempt_of_mem_findAll hproductive hconsumes hm
  refine Nat.le_of_not_lt fun hlt => ?_
  have hlt' : utf8Len before < utf8Len mark.toList := by
    rw [hoffset, String.utf8Len_toList]
    exact hlt
  rw [String.toList_append] at htext
  obtain ⟨behind, hsplit, hbehind⟩ := exists_append_of_utf8Len_le htext.symm hlt'.le
  have hne : behind ≠ [] := by
    rintro rfl
    rw [hsplit, List.append_nil] at hlt'
    exact Nat.lt_irrefl _ hlt'
  exact not_opens h hsplit hne (hbehind ▸ opens_of_attempt hr ht)

/-! ## The claim -/

/-- **A match of the bullet rule is claimed** unless a match of another rule reaches into it. -/
theorem bullet_claimed {text : String} {m : Match} (hm : m ∈ bullet.findAll text)
    (hapart : ∀ r ∈ inlineRegexes, ∀ k ∈ r.findAll text,
      k.whole.stop ≤ m.whole.start ∨ m.whole.stop ≤ k.whole.start) :
    m.filled 4 "• " ∈ ((Engine.mk Config.builtin.toRules).transform text).1.claims := by
  obtain ⟨rule, hrule, htemplate, hb⟩ := bullet_rule
  have hfound : m ∈ rule.found text :=
    Rule.mem_found.2 ⟨bullet, hb, hm, nonempty_of_mem_findAll rfl rfl hm⟩
  refine Engine.filled_mem_claims hrule htemplate hb hfound fun c hc hlt => ?_
  obtain ⟨hindex, hskipped⟩ := Engine.transform_owners hc
  obtain ⟨k, hk, htakes⟩ :=
    Engine.exists_takes (List.getElem?_eq_getElem hindex) hskipped hc rfl
  obtain ⟨r, hbuild, hmem, -⟩ := Rule.mem_found.1 (Report.mem_eligible.1 hk).1
  rw [Claim.Misses, htakes.1, htakes.2]
  exact hapart r (mem_inlineRegexes hlt (List.getElem?_eq_getElem hindex) hbuild) k hmem

theorem filled_mark (mark : String) (start stop : Nat) :
    Match.filled 4 "• " ⟨⟨start, stop, mark⟩, []⟩ = ⟨4, mark, "• ", start, stop⟩ := by
  have hexpand : Template.expand "• " [] = "• " := by decide +kernel
  rw [Match.filled, Match.call, List.map_nil, hexpand]
  rfl

/-- In the text around the line all other matches lie before or behind the mark as well. -/
theorem inline_apart {front mark rest stop back : String}
    (h : IsLine front (mark ++ rest) stop back) (hmark : IsBullet mark rest) {r : Regex}
    (hr : r ∈ inlineRegexes) {m : Match}
    (hm : m ∈ r.findAll (front ++ (mark ++ rest) ++ stop ++ back)) :
    m.whole.stop ≤ front.utf8ByteSize ∨ (front ++ mark).utf8ByteSize ≤ m.whole.start := by
  obtain ⟨hn, hproductive, hconsumes⟩ := linewise_regexes r (List.mem_append_left _ hr)
  obtain ⟨before, behind, hall, hbefore, hbehind⟩ := findAll_line h hn hproductive hconsumes
  rw [hall] at hm
  rcases List.mem_append.1 hm with hm | hm
  · rcases List.mem_append.1 hm with hm | hm
    · exact .inl (hbefore m hm)
    · obtain ⟨k, hk, rfl⟩ := List.mem_map.1 hm
      have hle := inline_behind hmark hr hk
      refine .inr ?_
      simp only [Match.shift, Capture.shift, String.utf8ByteSize_append]
      omega
  · have hle := hbehind m hm
    simp only [String.utf8ByteSize_append] at hle ⊢
    exact .inr (by omega)

/-- **The mark of a bullet item is always claimed by the bullet rule**, which puts a bullet and a
space in its place. No match of a rule before it overlaps the mark, so the other rules only ever see
what stands behind it. -/
theorem builtin_bullet {front mark rest stop back : String}
    (h : IsLine front (mark ++ rest) stop back) (hmark : IsBullet mark rest) :
    ⟨4, mark, "• ", front.utf8ByteSize, (front ++ mark).utf8ByteSize⟩ ∈
        ((Engine.mk Config.builtin.toRules).transform
          (front ++ (mark ++ rest) ++ stop ++ back)).1.claims ∧
      (∀ i < 4, ∀ rule r, Config.builtin.toRules[i]? = some rule → rule.build = .ok r →
        ∀ m ∈ r.findAll (front ++ (mark ++ rest) ++ stop ++ back),
          m.whole.stop ≤ front.utf8ByteSize ∨ (front ++ mark).utf8ByteSize ≤ m.whole.start) ∧
      ∃ out, (Engine.mk Config.builtin.toRules).apply (front ++ (mark ++ rest) ++ stop ++ back) =
        (Engine.mk Config.builtin.toRules).apply front ++ ("• " ++ out) ++ stop ++
          (Engine.mk Config.builtin.toRules).apply back := by
  have hmatch := bullet_match hmark
  refine ⟨?_, fun i hi rule r hrule hb m hm => ?_, ?_⟩
  -- the claim is made on the whole text, where the match lies behind the lines before
  · obtain ⟨hn, hproductive, hconsumes⟩ :=
      linewise_regexes bullet (List.mem_append_right _ (.head _))
    have hmem := shift_mem_findAll h hn hproductive hconsumes hmatch
    have hshift : Match.shift front.utf8ByteSize ⟨⟨0, mark.utf8ByteSize, mark⟩, []⟩ =
        ⟨⟨front.utf8ByteSize, (front ++ mark).utf8ByteSize, mark⟩, []⟩ := by
      rw [Match.shift, Capture.shift, Nat.zero_add, String.utf8ByteSize_append, Nat.add_comm]
      rfl
    rw [hshift] at hmem
    have hclaim := bullet_claimed hmem fun r hr k hk => inline_apart h hmark hr hk
    rwa [filled_mark] at hclaim
  · exact inline_apart h hmark (mem_inlineRegexes hi hrule hb) hm
  -- for the output it is enough to look at the line alone
  · have hclaim := bullet_claimed hmatch fun r hr k hk => .inr (inline_behind hmark hr hk)
    rw [filled_mark] at hclaim
    obtain ⟨_, -, hout⟩ := Engine.apply_of_first hclaim rfl
    exact ⟨_, by rw [Engine.apply_line Engine.builtin_linewise h, hout]⟩

/-- A star as the sign of an item whose text begins with more stars, between other lines. -/
theorem builtin_bullet_stars :
    IsLine "# a\r" (" *\t" ++ "** b** c") "\n" "d" ∧ IsBullet " *\t" "** b** c" ∧
      ⟨4, " *\t", "• ", 4, 7⟩ ∈ ((Engine.mk Config.builtin.toRules).transform
        ("# a\r" ++ (" *\t" ++ "** b** c") ++ "\n" ++ "d")).1.claims := by
  have hline : IsLine "# a\r" (" *\t" ++ "** b** c") "\n" "d" :=
    ⟨by simp [isLineEnd], .inr ⟨"# a", "\r", by decide, .cr (by decide)⟩, .inr (.lf (by decide))⟩
  have hmark : IsBullet " *\t" "** b** c" :=
    ⟨⟨[' '], '*', ['\t'], by decide, by simp [isGap], .inr rfl, by simp [isGap], by decide⟩,
      by simp [isGap]⟩
  exact ⟨hline, hmark, (builtin_bullet hline hmark).1⟩

end FirstClaim.Builtin
