import NameTables.Proofs.Path.Spelling
import NameTables.Rule

/-!
# The layout of a dependency rule

A compiler breaks a long rule into lines as it likes, so a rule is the list of its tokens and
what stands between them does not matter.  The tokens are found by two cuts, at the backslashes
and then at the blanks of each piece.  The two are one cut at either, and so the tokens that are
found in a text are the only ones of which it is a layout.

## Main definitions

* `Rule.separates`, `Rule.IsGap`, `Rule.IsToken` — what stands between tokens, and what a token is.
* `Rule.Lays` — a text is some tokens one after another, with gaps around them.

## Main statements

* `Rule.tokens_append_gap_append` — the tokens on the two sides of a gap.
* `Rule.tokens_eq_iff` — the tokens found in a text are the ones it lays out.
* `Rule.paths_ofText_layout` — the paths of a rule do not depend on its layout.
-/

namespace NameTables

namespace Rule

variable {s gap token : Text} {ts : List Text}

/-- Does the character stand between tokens?  Blanks and backslashes do. -/
def separates (c : Char) : Bool := c == '\\' || isBlank c

/-- A text of blanks and backslashes, in any order. -/
def IsGap (s : Text) : Prop := ∀ c ∈ s, separates c = true

-- character by character of the text, not of all that there are
instance : Decidable (IsGap s) := List.decidableBAll (separates · = true) s

/-- A text that is not empty and has neither a blank nor a backslash in it. -/
structure IsToken (s : Text) : Prop where
  /-- There is something in it. -/
  ne_nil : s ≠ []
  /-- Nothing in it stands between tokens. -/
  solid : ∀ c ∈ s, separates c = false

instance : Decidable (IsToken s) :=
  have := List.decidableBAll (separates · = false) s
  decidable_of_iff (s ≠ [] ∧ ∀ c ∈ s, separates c = false)
    ⟨fun h => ⟨h.1, h.2⟩, fun h => ⟨h.1, h.2⟩⟩

/-- `Lays ts s`: the text is the tokens one after another, with a gap before the first one, a gap
after the last one, and between neighbours a gap that is not empty. -/
inductive Lays : List Text → Text → Prop
  /-- No token, nothing but a gap. -/
  | empty {gap : Text} (hgap : IsGap gap) : Lays [] gap
  /-- A single token. -/
  | single {lead token trail : Text} (hlead : IsGap lead) (htoken : IsToken token)
      (htrail : IsGap trail) : Lays [token] (lead ++ token ++ trail)
  /-- A token in front of others. -/
  | more {lead token gap s : Text} {ts : List Text} (hlead : IsGap lead) (htoken : IsToken token)
      (hgap : IsGap gap) (hne : gap ≠ []) (hrest : Lays ts s) :
      Lays (token :: ts) (lead ++ token ++ gap ++ s)

/-! ### One cut -/

/-- The tokens are the non-empty pieces of one cut, at blanks and backslashes alike. -/
theorem tokens_eq_filter (s : Text) : tokens s = (Text.pieces separates s).filter (!·.isEmpty) := by
  have hcut : Text.pieces separates s = _ := (flatMap_splitAt (· == '\\') isBlank s).symm
  rw [hcut, List.filter_flatMap]
  rfl

/-- The tokens on the two sides of a character that separates them. -/
theorem tokens_append_cons (s t : Text) {c : Char} (hc : separates c = true) :
    tokens (s ++ c :: t) = tokens s ++ tokens t := by
  simp only [tokens_eq_filter, Text.pieces, splitAt_append_cons s t hc, List.filter_append]

/-- A gap in front of a text has no token in it. -/
theorem tokens_gap_append (hgap : IsGap gap) (s : Text) : tokens (gap ++ s) = tokens s := by
  induction gap with
  | nil => rfl
  | cons c gap ih =>
    have hc : separates c = true := hgap c List.mem_cons_self
    have hskip : tokens (c :: (gap ++ s)) = tokens (gap ++ s) := tokens_append_cons [] (gap ++ s) hc
    rw [List.cons_append, hskip]
    exact ih fun d hd => hgap d (List.mem_cons_of_mem c hd)

theorem tokens_of_isGap (hgap : IsGap gap) : tokens gap = [] := by
  rw [← List.append_nil gap, tokens_gap_append hgap]
  rfl

/-- **The tokens on the two sides of a gap.** -/
theorem tokens_append_gap_append (s t : Text) (hgap : IsGap gap) (hne : gap ≠ []) :
    tokens (s ++ gap ++ t) = tokens s ++ tokens t := by
  obtain ⟨c, gap, rfl⟩ := List.exists_cons_of_ne_nil hne
  have hrest : IsGap gap := fun d hd => hgap d (List.mem_cons_of_mem c hd)
  rw [List.append_assoc, List.cons_append, tokens_append_cons s _ (hgap c List.mem_cons_self),
    tokens_gap_append hrest]

theorem tokens_append_gap (s : Text) (hgap : IsGap gap) : tokens (s ++ gap) = tokens s := by
  by_cases hne : gap = []
  · rw [hne, List.append_nil]
  · rw [← List.append_nil (s ++ gap), tokens_append_gap_append s [] hgap hne]
    exact List.append_nil _

/-- A token is found whole. -/
theorem tokens_of_isToken (htoken : IsToken token) : tokens token = [token] := by
  rw [tokens_eq_filter, Text.pieces, splitAt_of_forall htoken.solid,
    List.filter_cons_of_pos (by simpa using htoken.ne_nil), List.filter_nil]

/-! ### Every layout, and no other -/

/-- Whatever the layout, the tokens that are laid out are found. -/
theorem Lays.tokens_eq (h : Lays ts s) : tokens s = ts := by
  induction h with
  | empty hgap => exact tokens_of_isGap hgap
  | single hlead htoken htrail =>
    rw [tokens_append_gap _ htrail, tokens_gap_append hlead, tokens_of_isToken htoken]
  | more hlead htoken hgap hne hrest ih =>
    rw [tokens_append_gap_append _ _ hgap hne, tokens_gap_append hlead, tokens_of_isToken htoken,
      ih, List.singleton_append]

theorem IsGap.append {gap' : Text} (h : IsGap gap) (h' : IsGap gap') : IsGap (gap ++ gap') := by
  intro c hc
  rcases List.mem_append.mp hc with hc | hc
  · exact h c hc
  · exact h' c hc

/-- A gap in front makes no difference. -/
theorem Lays.gap_append (hgap : IsGap gap) (h : Lays ts s) : Lays ts (gap ++ s) := by
  cases h with
  | empty h => exact .empty (hgap.append h)
  | single hlead htoken htrail =>
    have hlays := Lays.single (hgap.append hlead) htoken htrail
    simpa only [List.append_assoc] using hlays
  | more hlead htoken hsep hne hrest =>
    have hlays := Lays.more (hgap.append hlead) htoken hsep hne hrest
    simpa only [List.append_assoc] using hlays

theorem isGap_nil : IsGap [] := fun _ hc => absurd hc List.not_mem_nil

/-- Every text is a layout of the tokens that are found in it. -/
theorem lays_tokens (s : Text) : Lays (tokens s) s := by
  induction s using pieces_induction separates with
  | piece l hl =>
    by_cases hne : l = []
    · subst hne
      exact .empty isGap_nil
    · have htoken : IsToken l := ⟨hne, hl⟩
      have hlays := Lays.single isGap_nil htoken isGap_nil
      rwa [List.nil_append, List.append_nil, ← tokens_of_isToken htoken] at hlays
  | cut l c r hl hc ih =>
    have hgap : IsGap [c] := fun d hd => by rwa [List.mem_singleton.mp hd]
    rw [tokens_append_cons l r hc]
    by_cases hne : l = []
    · subst hne
      show Lays (tokens r) ([c] ++ r)
      exact ih.gap_append hgap
    · have htoken : IsToken l := ⟨hne, hl⟩
      have hlays := Lays.more isGap_nil htoken hgap (List.cons_ne_nil c []) ih
      rwa [List.nil_append, List.append_assoc, ← List.singleton_append,
        ← tokens_of_isToken htoken] at hlays

/-- **The tokens that are found in a text are the ones it lays out**: every text lays out one list
of tokens and no other. -/
theorem tokens_eq_iff : tokens s = ts ↔ Lays ts s := by
  constructor
  · rintro rfl
    exact lays_tokens s
  · exact Lays.tokens_eq

/-! ### The paths of a rule -/

/-- The paths of a rule are the tokens of its text that begin with a slash, in order. -/
theorem paths_ofText (s : Text) :
    (ofText s).paths = ((tokens s).filter (·.head? = some '/')).map Path.mk := by
  rw [ofText, List.filter_map]
  exact congrArg (List.map Path.mk)
    (List.filter_congr fun token _ => Path.isAbsolute_eq_decide ⟨token⟩)

/-- **The paths of a rule do not depend on its layout.**  They are the tokens that begin with a
slash, however the tokens are laid out, so a rule that is wrapped in another way is the same rule;
and what stands on the two sides of a gap is read one after the other. -/
theorem paths_ofText_layout :
    (∀ ts s, Lays ts s →
      (ofText s).paths = (ts.filter (·.head? = some '/')).map Path.mk)
    ∧ (∀ ts s s', Lays ts s → Lays ts s' → ofText s = ofText s')
    ∧ ∀ s gap t, IsGap gap → gap ≠ [] →
      (ofText (s ++ gap ++ t)).paths = (ofText s).paths ++ (ofText t).paths := by
  have hpaths : ∀ ts s, Lays ts s →
      (ofText s).paths = (ts.filter (·.head? = some '/')).map Path.mk := by
    intro ts s h
    rw [paths_ofText, tokens_eq_iff.mpr h]
  refine ⟨hpaths, ?_, ?_⟩
  · intro ts s s' h h'
    exact congrArg Rule.mk ((hpaths ts s h).trans (hpaths ts s' h').symm)
  · intro s gap t hgap hne
    simp only [paths_ofText, tokens_append_gap_append s t hgap hne, List.filter_append,
      List.map_append]

/-- A rule with a path in it twice, over two lines with a backslash alone between the paths, and on
one line; and the two with a backslash between them. -/
theorem paths_ofText_layout_of_wrapped :
    let tokens : List Text := ["u.o:".toList, "/b.h".toList, "/b.h".toList]
    let wrapped : Text := "u.o: \\\n /b.h\\/b.h\n".toList
    let plain : Text := "\u2003u.o: /b.h\u00a0/b.h".toList
    Lays tokens wrapped ∧ Lays tokens plain
      ∧ (ofText wrapped).paths = [⟨"/b.h".toList⟩, ⟨"/b.h".toList⟩]
      ∧ ofText plain = ofText wrapped
      ∧ (ofText (wrapped ++ ['\\'] ++ plain)).paths
        = (ofText wrapped).paths ++ (ofText plain).paths := by
  intro tokens wrapped plain
  have htarget : IsToken "u.o:".toList := by decide
  have hheader : IsToken "/b.h".toList := by decide
  have hwrapped : Lays tokens wrapped :=
    .more isGap_nil htarget (show IsGap " \\\n ".toList by decide) (by decide)
      (.more isGap_nil hheader (show IsGap "\\".toList by decide) (by decide)
        (.single isGap_nil hheader (show IsGap "\n".toList by decide)))
  have hplain : Lays tokens plain :=
    .more (show IsGap "\u2003".toList by decide) htarget
      (show IsGap " ".toList by decide) (by decide)
      (.more isGap_nil hheader (show IsGap "\u00a0".toList by decide) (by decide)
        (.single isGap_nil hheader isGap_nil))
  obtain ⟨hpaths, hsame, happend⟩ := paths_ofText_layout
  refine ⟨hwrapped, hplain, ?_, hsame tokens plain wrapped hplain hwrapped, ?_⟩
  · rw [hpaths tokens wrapped hwrapped]
    decide
  · exact happend wrapped ['\\'] plain (by decide) (by decide)

end Rule

end NameTables
