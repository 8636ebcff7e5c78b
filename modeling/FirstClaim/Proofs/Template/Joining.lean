import FirstClaim.Proofs.Template.Grammar

/-!
# Templates that are put together

A template that is cut in two is expanded part by part (`expand_append`), unless the cut may lie
inside a reference (`CutsReference`): the digits behind a `$` go on behind the cut.
-/

set_option autoImplicit false

namespace FirstClaim.Template

variable {n : Nat} {as bs cs es : List Char} {ts us : List Token}

/-- The first text ends in a `$` with digits behind it, if any, and the second one begins with a
digit. -/
def CutsReference (as bs : List Char) : Prop :=
  (∃ before ds, as = before ++ '$' :: ds ∧ ∀ c ∈ ds, c.isDigit = true) ∧ StartsWithDigit bs

theorem CutsReference.prepend (h : CutsReference as bs) (cs : List Char) :
    CutsReference (cs ++ as) bs := by
  obtain ⟨⟨before, ds, rfl, hds⟩, hbs⟩ := h
  exact ⟨⟨cs ++ before, ds, by rw [List.append_assoc], hds⟩, hbs⟩

/-- Digits behind a `$` do not reach over a cut outside of references. -/
theorem prefix_of_uncut (hcut : ¬ CutsReference ('$' :: cs) bs) (hes : es <+: cs ++ bs)
    (hdigit : ∀ c ∈ es, c.isDigit = true) : es <+: cs := by
  rcases List.prefix_or_prefix_of_prefix hes (List.prefix_append cs bs) with hle | hge
  · exact hle
  · have hcs : ∀ c ∈ cs, c.isDigit = true := fun c hc => hdigit c (hge.subset hc)
    exact prefix_of_digits hes hdigit fun hbs => hcut ⟨⟨[], cs, rfl, hcs⟩, hbs⟩

theorem Longest.append {ds : List Char} (h : Longest n cs ds)
    (hcut : ¬ CutsReference ('$' :: cs) bs) : Longest n (cs ++ bs) ds :=
  h.extend (List.prefix_append cs bs) fun _ hes hnames => prefix_of_uncut hcut hes hnames.digit

/-- **The tokens of two templates in turn are those of the joined one.** -/
theorem Tokenised.append (h : Tokenised n as ts) (h' : Tokenised n bs us)
    (hcut : ¬ CutsReference as bs) : Tokenised n (as ++ bs) (ts ++ us) := by
  induction h with
  | nil => exact h'
  | @literal c cs ts hc _ ih =>
    exact .literal hc (ih fun hcs => hcut (hcs.prepend [c]))
  | @group ds cs ts hds _ ih =>
    have hrest := ih fun hcs => hcut (hcs.prepend ('$' :: ds))
    have hlongest := hds.append hcut
    rw [List.append_assoc] at hlongest
    have htokens := Tokenised.group hlongest hrest
    rw [← List.append_assoc] at htokens
    exact htokens
  | @dollar cs ts hnone _ ih =>
    refine .dollar (fun es hes hnames => ?_) (ih fun hcs => hcut (hcs.prepend ['$']))
    exact hnone es (prefix_of_uncut hcut hes hnames.digit) hnames

/-- **A joined template is expanded part by part**, wherever it is cut outside of references. -/
theorem expand_append (a b : String) (groups : List (Option String))
    (hcut : ¬ CutsReference a.toList b.toList) :
    expand (a ++ b) groups = expand a groups ++ expand b groups := by
  have hlargest := Nat.min_le_right groups.length largestNumber
  obtain ⟨ts, hts⟩ := exists_tokenised hlargest a.toList
  obtain ⟨us, hus⟩ := exists_tokenised hlargest b.toList
  have happend := hts.append hus hcut
  rw [← String.toList_append] at happend
  refine String.toList_injective ?_
  rw [expand_of_tokenised happend, String.toList_append, expand_of_tokenised hts,
    expand_of_tokenised hus, List.flatMap_append]

/-- A cut right behind a lone `$`, before another one. -/
theorem expand_append_dollars :
    ¬ CutsReference "a$".toList "$12".toList ∧
      expand ("a$" ++ "$12") [some "b"] = expand "a$" [some "b"] ++ expand "$12" [some "b"] := by
  have hcut : ¬ CutsReference "a$".toList "$12".toList := by
    rintro ⟨-, c, rest, hb, hc⟩
    obtain ⟨rfl, -⟩ := List.cons.inj hb
    cases hc
  exact ⟨hcut, expand_append "a$" "$12" [some "b"] hcut⟩

/-! A cut inside a reference may change the result. -/

example : expand ("$" ++ "1") [some "b"] = "b" ∧
    expand "$" [some "b"] ++ expand "1" [some "b"] = "$1" := by decide +kernel

end FirstClaim.Template
