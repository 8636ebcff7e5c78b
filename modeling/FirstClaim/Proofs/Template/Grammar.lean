import FirstClaim.Template
import Mathlib.Data.List.TakeWhile

/-!
# The grammar of templates

`Tokenised n cs ts` says how a template is cut for `n` groups: a `$` takes the longest run of digits
behind it whose number lies in `1 .. n` (`Longest`) and stands for itself where there is none, and
every other character stands for itself. Numbers have no bound and may begin with zeros.

* `finds_groupReference`: the search from the longest run down finds the longest reference, although
  it does not read large numbers.
* `exists_tokenised`, `Tokenised.unique`: a template is cut in one way.
* `expandRest_of_tokenised`: the loop puts in the image of one token after the other.

The main statement is `expand_eq_images`.
-/

set_option autoImplicit false

namespace FirstClaim.Template

/-! ## References -/

def number (ds : List Char) : Nat :=
  Nat.ofDigitChars 10 ds 0

/-- Digits that name one of `n` groups. -/
structure NamesGroup (n : Nat) (ds : List Char) : Prop where
  digit : ∀ c ∈ ds, c.isDigit = true
  pos : 1 ≤ number ds
  le : number ds ≤ n

/-- The longest beginning of a text that names one of `n` groups. -/
structure Longest (n : Nat) (cs ds : List Char) : Prop where
  starts : ds <+: cs
  names : NamesGroup n ds
  longest : ∀ es, es <+: cs → NamesGroup n es → es.length ≤ ds.length

/-- The first character of a text is a digit. -/
def StartsWithDigit (cs : List Char) : Prop :=
  ∃ c rest, cs = c :: rest ∧ c.isDigit = true

variable {n : Nat} {cs ds es : List Char} {c : Char}

theorem NamesGroup.ne_nil (h : NamesGroup n ds) : ds ≠ [] := by
  rintro rfl
  exact absurd h.pos (by decide)

theorem Longest.unique (h : Longest n cs ds) (h' : Longest n cs es) : ds = es := by
  have hlength := Nat.le_antisymm (h'.longest ds h.starts h.names)
    (h.longest es h'.starts h'.names)
  have hprefix := List.prefix_of_prefix_length_le h.starts h'.starts (Nat.le_of_eq hlength)
  exact hprefix.eq_of_length hlength

/-- The longest reference stays the longest one in a longer text without longer references. -/
theorem Longest.extend (h : Longest n cs ds) {more : List Char} (hmore : cs <+: more)
    (hback : ∀ es, es <+: more → NamesGroup n es → es <+: cs) : Longest n more ds :=
  ⟨h.starts.trans hmore, h.names, fun es hes hnames =>
    h.longest es (hback es hes hnames) hnames⟩

theorem prefix_of_digits (hes : es <+: ds ++ cs) (hdigit : ∀ c ∈ es, c.isDigit = true)
    (hcs : ¬ StartsWithDigit cs) : es <+: ds := by
  rcases List.prefix_or_prefix_of_prefix hes (List.prefix_append ds cs) with hle | ⟨more, rfl⟩
  · exact hle
  · cases more with
    | nil => exact (List.append_nil ds).symm ▸ List.prefix_rfl
    | cons c more =>
      obtain ⟨rest, hrest⟩ := (List.prefix_append_right_inj ds).1 hes
      exact absurd ⟨c, more ++ rest, hrest.symm, hdigit c (by simp)⟩ hcs

/-! ## The search -/

/-- What a search for a reference at the beginning of a text may find: no beginning names a group,
or the longest one that does is found with its number and its length. -/
def Finds (n : Nat) (cs : List Char) : Option (Nat × Nat) → Prop
  | none => ∀ ds, ds <+: cs → ¬ NamesGroup n ds
  | some (index, length) => ∃ ds, Longest n cs ds ∧ number ds = index ∧ ds.length = length

theorem Finds.unique {a b : Option (Nat × Nat)} (ha : Finds n cs a) (hb : Finds n cs b) :
    a = b := by
  match a, b with
  | none, none => rfl
  | none, some (_, _) =>
    obtain ⟨ds, hds, -⟩ := hb
    exact absurd hds.names (ha ds hds.starts)
  | some (_, _), none =>
    obtain ⟨ds, hds, -⟩ := ha
    exact absurd hds.names (hb ds hds.starts)
  | some (_, _), some (_, _) =>
    obtain ⟨ds, hds, rfl, rfl⟩ := ha
    obtain ⟨es, hes, rfl, rfl⟩ := hb
    rw [hds.unique hes]

/-- What is found in digits is found in every text that goes on without a digit. -/
theorem Finds.append {found : Option (Nat × Nat)} (h : Finds n ds found)
    (hcs : ¬ StartsWithDigit cs) : Finds n (ds ++ cs) found := by
  have hback : ∀ es, es <+: ds ++ cs → NamesGroup n es → es <+: ds :=
    fun _ hes hnames => prefix_of_digits hes hnames.digit hcs
  cases found with
  | none => exact fun es hes hnames => h es (hback es hes hnames) hnames
  | some found =>
    obtain ⟨es, hes, hfound⟩ := h
    exact ⟨es, hes.extend (List.prefix_append ds cs) hback, hfound⟩

theorem number?_eq_some {index : Nat} :
    number? ds = some index ↔ ds ≠ [] ∧ number ds ≤ largestNumber ∧ number ds = index := by
  have hread : number? ds =
      if ds.isEmpty ∨ largestNumber < number ds then none else some (number ds) := rfl
  rw [hread]
  grind

/-- A number that is not read names no group that can be named. -/
theorem number?_filter {count : Nat} (hds : ∀ c ∈ ds, c.isDigit = true) (index : Nat) :
    (number? ds).filter (fun k => 1 ≤ k ∧ k ≤ count) = some index ↔
      NamesGroup (min count largestNumber) ds ∧ number ds = index := by
  rw [Option.filter_eq_some_iff, number?_eq_some]
  constructor
  · rintro ⟨⟨-, hlargest, rfl⟩, hbounds⟩
    obtain ⟨hpos, hcount⟩ := of_decide_eq_true hbounds
    exact ⟨⟨hds, hpos, Nat.le_min.2 ⟨hcount, hlargest⟩⟩, rfl⟩
  · rintro ⟨hnames, rfl⟩
    obtain ⟨hcount, hlargest⟩ := Nat.le_min.1 hnames.le
    exact ⟨⟨hnames.ne_nil, hlargest, rfl⟩, decide_eq_true ⟨hnames.pos, hcount⟩⟩

/-- Once no longer run names a group, the search goes on with the shorter ones. -/
theorem finds_longestReference {count : Nat} (hds : ∀ c ∈ ds, c.isDigit = true) {length : Nat}
    (hlength : length ≤ ds.length)
    (hlonger : ∀ es, es <+: ds → NamesGroup (min count largestNumber) es → es.length ≤ length) :
    Finds (min count largestNumber) ds (longestReference count ds length) := by
  induction length with
  | zero =>
    intro es hes hnames
    exact hnames.ne_nil (List.length_eq_zero_iff.1 (Nat.le_zero.1 (hlonger es hes hnames)))
  | succ length ih =>
    have hdigit : ∀ c ∈ ds.take (length + 1), c.isDigit = true :=
      fun c hc => hds c (List.mem_of_mem_take hc)
    have htake : (ds.take (length + 1)).length = length + 1 := List.length_take_of_le hlength
    rw [longestReference]
    split
    · rename_i index hindex
      obtain ⟨hnames, rfl⟩ := (number?_filter hdigit index).1 hindex
      refine ⟨_, ⟨List.take_prefix _ _, hnames, fun es hes hes' => ?_⟩, rfl, htake⟩
      rw [htake]
      exact hlonger es hes hes'
    · rename_i hnone
      refine ih (Nat.le_of_succ_le hlength) fun es hes hnames => ?_
      have hle := hlonger es hes hnames
      have hne : es.length ≠ length + 1 := by
        intro heq
        obtain rfl : es = ds.take (length + 1) := by
          rw [List.prefix_iff_eq_take.1 hes, heq]
        rw [(number?_filter hdigit _).2 ⟨hnames, rfl⟩] at hnone
        cases hnone
      omega

/-- **The search finds the longest reference** to one of the groups that can be named. -/
theorem finds_groupReference (count : Nat) (cs : List Char) :
    Finds (min count largestNumber) cs (groupReference (cs.takeWhile Char.isDigit) count) := by
  have hds : ∀ c ∈ cs.takeWhile Char.isDigit, c.isDigit = true :=
    List.all_eq_true.1 List.all_takeWhile
  have hdigits : Finds (min count largestNumber) (cs.takeWhile Char.isDigit)
      (groupReference (cs.takeWhile Char.isDigit) count) :=
    finds_longestReference hds (Nat.le_refl _) fun es hes _ => hes.length_le
  have hrest : ¬ StartsWithDigit (cs.dropWhile Char.isDigit) := by
    rintro ⟨c, rest, hdrop, hc⟩
    have hhead := List.head?_dropWhile_not Char.isDigit cs
    rw [hdrop, List.head?_cons] at hhead
    simp [hc] at hhead
  have hfinds := hdigits.append hrest
  rw [List.takeWhile_append_dropWhile] at hfinds
  exact hfinds

/-! ## Tokens -/

/-- A piece of a template: a character that is copied, or a `$` with digits that name a group. -/
inductive Token where
  | literal (c : Char)
  | group (index : Nat) (digits : List Char)

def Token.source : Token → List Char
  | .literal c => [c]
  | .group _ digits => '$' :: digits

/-- The text that replaces a token: a group that took no part in the match stays as written. -/
def Token.image (groups : List (Option String)) : Token → List Char
  | .literal c => [c]
  | .group index digits =>
    match groups[index - 1]? with
    | some (some text) => text.toList
    | _ => '$' :: digits

/-- How a template is cut into tokens for `n` groups. -/
inductive Tokenised (n : Nat) : List Char → List Token → Prop where
  | nil : Tokenised n [] []
  | literal {c : Char} {cs : List Char} {ts : List Token} (hc : c ≠ '$')
      (h : Tokenised n cs ts) : Tokenised n (c :: cs) (.literal c :: ts)
  | group {ds cs : List Char} {ts : List Token} (hds : Longest n (ds ++ cs) ds)
      (h : Tokenised n cs ts) : Tokenised n ('$' :: (ds ++ cs)) (.group (number ds) ds :: ts)
  | dollar {cs : List Char} {ts : List Token} (hnone : ∀ ds, ds <+: cs → ¬ NamesGroup n ds)
      (h : Tokenised n cs ts) : Tokenised n ('$' :: cs) (.literal '$' :: ts)

variable {ts us : List Token} {groups : List (Option String)}

theorem exists_tokenised (hn : n ≤ largestNumber) : ∀ cs, ∃ ts, Tokenised n cs ts
  | [] => ⟨[], .nil⟩
  | c :: cs => by
    by_cases hc : c = '$'
    · subst hc
      have hfinds := finds_groupReference n cs
      rw [Nat.min_eq_left hn] at hfinds
      cases hfound : groupReference (cs.takeWhile Char.isDigit) n with
      | none =>
        rw [hfound] at hfinds
        obtain ⟨ts, hts⟩ := exists_tokenised hn cs
        exact ⟨_, .dollar hfinds hts⟩
      | some found =>
        rw [hfound] at hfinds
        obtain ⟨ds, hds, -⟩ := hfinds
        obtain ⟨rest, rfl⟩ := hds.starts
        obtain ⟨ts, hts⟩ := exists_tokenised hn rest
        exact ⟨_, .group hds hts⟩
    · obtain ⟨ts, hts⟩ := exists_tokenised hn cs
      exact ⟨_, .literal hc hts⟩
termination_by cs => cs.length

/-- **A template is cut in one way.** -/
theorem Tokenised.unique (h : Tokenised n cs ts) (h' : Tokenised n cs us) : ts = us := by
  induction h generalizing us with
  | nil =>
    cases h'
    rfl
  | literal hc _ ih =>
    cases h' with
    | literal _ h' => rw [ih h']
    | group _ _ => exact absurd rfl hc
    | dollar _ _ => exact absurd rfl hc
  | @group ds cs ts hds _ ih =>
    generalize hall : '$' :: (ds ++ cs) = all at h'
    cases h' with
    | nil => cases hall
    | literal hc _ =>
      cases hall
      exact absurd rfl hc
    | group hes h' =>
      obtain ⟨-, hrest⟩ := List.cons.inj hall
      rw [← hrest] at hes
      -- both are the longest reference at this place
      obtain rfl := hds.unique hes
      obtain rfl := List.append_cancel_left hrest
      rw [ih h']
    | dollar hnone _ =>
      cases hall
      exact absurd hds.names (hnone ds hds.starts)
  | @dollar cs ts hnone _ ih =>
    generalize hall : '$' :: cs = all at h'
    cases h' with
    | nil => cases hall
    | literal hc _ =>
      cases hall
      exact absurd rfl hc
    | group hes _ =>
      cases hall
      exact absurd hes.names (hnone _ hes.starts)
    | dollar _ h' =>
      cases hall
      rw [ih h']

theorem Tokenised.source_eq (h : Tokenised n cs ts) : ts.flatMap Token.source = cs := by
  induction h with
  | nil => rfl
  | literal _ _ ih => rw [List.flatMap_cons, ih]; rfl
  | group _ _ ih => rw [List.flatMap_cons, ih]; rfl
  | dollar _ _ ih => rw [List.flatMap_cons, ih]; rfl

theorem Token.image_of_absent (h : ∀ g ∈ groups, g = none) (t : Token) :
    t.image groups = t.source := by
  cases t with
  | literal c => rfl
  | group index digits =>
    cases hg : groups[index - 1]? with
    | none => simp only [image, hg, source]
    | some g =>
      obtain rfl := h g (List.mem_of_getElem? hg)
      simp only [image, hg, source]

/-! ## Expansion -/

theorem expandRest_eq (groups : List (Option String)) (out : String) (rest : List Char) :
    expandRest groups out rest =
      match rest.dropWhile (· ≠ '$') with
      | [] => out ++ String.ofList rest
      | _ :: after =>
        let out := out ++ String.ofList (rest.takeWhile (· ≠ '$'))
        match groupReference (after.takeWhile Char.isDigit) groups.length with
        | some (index, length) =>
          let inserted := match groups[index - 1]? with
            | some (some text) => text
            | _ => String.ofList ('$' :: after.take length)
          expandRest groups (out ++ inserted) (after.drop length)
        | none => expandRest groups (out.push '$') after := by
  rw [expandRest]
  cases rest.dropWhile (· ≠ '$') <;> rfl

theorem expandRest_nil (groups : List (Option String)) (out : String) :
    expandRest groups out [] = out := by
  rw [expandRest_eq]
  simp

theorem expandRest_literal (groups : List (Option String)) (out : String) (hc : c ≠ '$')
    (cs : List Char) : expandRest groups out (c :: cs) = expandRest groups (out.push c) cs := by
  have hpush : ∀ more : List Char,
      out ++ String.ofList (c :: more) = out.push c ++ String.ofList more := by
    intro more
    rw [String.ofList_cons, String.push_eq_append, String.append_assoc]
  rw [expandRest_eq groups out, expandRest_eq groups (out.push c)]
  simp only [ne_eq, hc, not_false_eq_true, decide_true, List.dropWhile_cons_of_pos,
    List.takeWhile_cons_of_pos, hpush]

theorem expandRest_dollar (groups : List (Option String)) (out : String) (cs : List Char) :
    expandRest groups out ('$' :: cs) =
      match groupReference (cs.takeWhile Char.isDigit) groups.length with
      | some (index, length) =>
        expandRest groups (out ++ String.ofList (Token.image groups (.group index (cs.take length))))
          (cs.drop length)
      | none => expandRest groups (out.push '$') cs := by
  have himage : ∀ (index : Nat) (digits : List Char),
      String.ofList (Token.image groups (.group index digits)) =
        match groups[index - 1]? with
        | some (some text) => text
        | _ => String.ofList ('$' :: digits) := by
    intro index digits
    rw [Token.image]
    split
    · rw [String.ofList_toList]
    · rfl
  have hdrop : ('$' :: cs).dropWhile (· ≠ '$') = '$' :: cs := rfl
  have htake : ('$' :: cs).takeWhile (· ≠ '$') = [] := rfl
  rw [expandRest_eq]
  simp only [hdrop, htake, himage, String.ofList_nil, String.append_empty]

/-- **The loop puts in the image of one token after the other.** -/
theorem expandRest_of_tokenised (h : Tokenised (min groups.length largestNumber) cs ts)
    (out : String) :
    (expandRest groups out cs).toList = out.toList ++ ts.flatMap (Token.image groups) := by
  -- on the tokens, not on the loop: one turn of the loop may pass many literals
  induction h generalizing out with
  | nil => rw [expandRest_nil, List.flatMap_nil, List.append_nil]
  | literal hc _ ih =>
    rw [expandRest_literal groups out hc, ih]
    simp [Token.image]
  | @group ds cs ts hds _ ih =>
    have hfound := (finds_groupReference groups.length (ds ++ cs)).unique
      (b := some (number ds, ds.length)) ⟨ds, hds, rfl, rfl⟩
    rw [expandRest_dollar, hfound]
    simp only [List.take_left, List.drop_left, ih]
    simp
  | @dollar cs ts hnone _ ih =>
    have hfound := (finds_groupReference groups.length cs).unique (b := none) hnone
    rw [expandRest_dollar, hfound]
    simp only [ih]
    simp [Token.image]

/-- A template without a `$` needs no loop. -/
theorem expand_eq_expandRest (template : String) (groups : List (Option String)) :
    expand template groups = expandRest groups "" template.toList := by
  unfold expand
  split
  · rfl
  · rename_i hnot
    have hdrop : template.toList.dropWhile (· ≠ '$') = [] :=
      List.dropWhile_eq_nil_iff.2 fun c hc =>
        decide_eq_true fun heq => hnot (heq ▸ hc)
    rw [expandRest_eq, hdrop]
    simp

theorem expand_of_tokenised {template : String}
    (h : Tokenised (min groups.length largestNumber) template.toList ts) :
    (expand template groups).toList = ts.flatMap (Token.image groups) := by
  rw [expand_eq_expandRest, expandRest_of_tokenised h]
  rfl

/-- Where no group took part, a template is put in as it is written. -/
theorem expand_of_absent (h : ∀ g ∈ groups, g = none) (template : String) :
    expand template groups = template := by
  obtain ⟨ts, hts⟩ := exists_tokenised (Nat.min_le_right groups.length _) template.toList
  have himages : Token.image groups = Token.source := funext (Token.image_of_absent h)
  have hexpand := expand_of_tokenised hts
  rw [himages, hts.source_eq] at hexpand
  exact String.toList_injective hexpand

/-- **A template is expanded token by token**, for any number of groups that can be counted. How it
is cut depends on that number only, and there is one way to do it. The tokens in turn are the
template, and their images in turn are the result, so what a group puts in is not looked at again
and without groups that take part nothing changes. -/
theorem expand_eq_images (n : Nat) (hn : n ≤ largestNumber) (template : String) :
    ∃ ts, (∀ ts', Tokenised n template.toList ts' ↔ ts' = ts) ∧
      ts.flatMap Token.source = template.toList ∧
      ∀ groups : List (Option String), groups.length = n →
        (expand template groups).toList = (ts.flatMap fun
          | .literal c => [c]
          | .group k digits =>
            match groups[k - 1]? with
            | some (some text) => text.toList
            | _ => '$' :: digits) ∧
        ((∀ g ∈ groups, g = none) → expand template groups = template) := by
  obtain ⟨ts, hts⟩ := exists_tokenised hn template.toList
  refine ⟨ts, fun ts' => ⟨fun h => h.unique hts, fun h => h ▸ hts⟩, hts.source_eq, ?_⟩
  rintro groups rfl
  refine ⟨?_, fun habsent => expand_of_absent habsent template⟩
  rw [← Nat.min_eq_left hn] at hts
  exact expand_of_tokenised hts

/-- Zeros in front belong to a number, and a number without a group starts no reference. -/
theorem expand_eq_images_zeros :
    2 ≤ largestNumber ∧ [some "$1", none].length = 2 ∧
      (∀ g ∈ [none, none], g = (none : Option String)) ∧
      (∃ ts, Tokenised 2 "$010 $2 $99999999999999999999".toList ts ∧
        (expand "$010 $2 $99999999999999999999" [some "$1", none]).toList =
          ts.flatMap (Token.image [some "$1", none])) ∧
      expand "$010 $2 $99999999999999999999" [none, none] = "$010 $2 $99999999999999999999" := by
  have hlargest : 2 ≤ largestNumber := by decide
  obtain ⟨ts, hcut, -, hexpand⟩ := expand_eq_images 2 hlargest "$010 $2 $99999999999999999999"
  exact ⟨hlargest, rfl, by simp, ⟨ts, (hcut ts).2 rfl, (hexpand [some "$1", none] rfl).1⟩,
    (hexpand [none, none] rfl).2 (by simp)⟩

example : expand "$010 $2 $99999999999999999999" [some "$1", none] =
    "$10 $2 $99999999999999999999" := by decide +kernel

end FirstClaim.Template
