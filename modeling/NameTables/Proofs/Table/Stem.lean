import NameTables.Artefact.Basic
import NameTables.Proofs.Definition.Stem
import NameTables.Proofs.Table.Steps

/-!
# Tables under a stem

The table of the macros under a stem is part of the table of all macros: the entries whose names
go on after the stem, with those of their aliases that do.  Names under the stem are equal exactly
when the whole names are, so redefinitions, self-aliases and repeated aliases are found alike on
both sides, and an alias that stands under the stem while its target does not, or the other way
round, is lost on both.

## Main definitions

* `Entry.under?` — an entry as known under a stem.

## Main statements

* `Table.literalEntries_under`, `Table.entries_build_under` — the two passes under a stem.
* `Artefact.entries_tableOf_stem` — the entries of a header under a stem.
-/

namespace NameTables

/-- An entry as it is known under a stem, if its name goes on after the stem. -/
def Entry.under? (stem : Text) (e : Entry) : Option Entry :=
  (Text.dropStem? stem e.name).map fun name =>
    { e with name := name, aliases := e.aliases.filterMap (Text.dropStem? stem) }

variable {stem : Text}

/-- Names under the stem are equal exactly when the whole names are. -/
theorem Text.dropStem?_inj {s s' r r' : Text} (h : dropStem? stem s = some r)
    (h' : dropStem? stem s' = some r') : r = r' ↔ s = s' := by
  obtain ⟨hs, -⟩ := dropStem?_eq_some_iff.mp h
  obtain ⟨hs', -⟩ := dropStem?_eq_some_iff.mp h'
  rw [hs, hs', List.append_cancel_left_eq]

namespace Entry

theorem under?_eq_none {e : Entry} (h : Text.dropStem? stem e.name = none) :
    under? stem e = none := by
  rw [under?, h, Option.map_none]

theorem under?_eq_some {e : Entry} {name : Text} (h : Text.dropStem? stem e.name = some name) :
    under? stem e
      = some ⟨name, e.value, e.literal, e.aliases.filterMap (Text.dropStem? stem)⟩ := by
  rw [under?, h, Option.map_some]

/-! ### The first pass -/

/-- Defining a name under the stem. -/
theorem under?_revalued_of_some {d d' : Definition} (hd : Definition.under? stem d = some d')
    (value : Int) (e : Entry) :
    under? stem (e.revalued d value) = (under? stem e).map (Entry.revalued d' value) := by
  obtain ⟨hname, hvalue⟩ := Definition.under?_eq_some_iff.mp hd
  cases he : Text.dropStem? stem e.name with
  | none => rw [under?_eq_none he, under?_eq_none (by rw [revalued_name, he]), Option.map_none]
  | some name =>
    rw [under?_eq_some he, under?_eq_some (by rw [revalued_name]; exact he), Option.map_some]
    have hinj := Text.dropStem?_inj he hname
    unfold revalued
    dsimp only
    by_cases h : e.name = d.name
    · rw [if_pos h, if_pos (hinj.mpr h), hvalue]
    · rw [if_neg h, if_neg (mt hinj.mp h)]

/-- Defining a name that is not under the stem. -/
theorem under?_revalued_of_none {d : Definition} (hd : Definition.under? stem d = none)
    (value : Int) (e : Entry) : under? stem (e.revalued d value) = under? stem e := by
  have hname : Text.dropStem? stem d.name = none := Option.map_eq_none_iff.mp hd
  by_cases h : e.name = d.name
  · rw [← h] at hname
    rw [under?_eq_none hname, under?_eq_none (by rw [revalued_name, hname])]
  · rw [revalued, if_neg h]

/-! ### The second pass -/

/-- Adding an alias that is under the stem. -/
theorem under?_addAlias_of_some {a a' : Text} (ha : Text.dropStem? stem a = some a') (e : Entry) :
    under? stem (e.addAlias a) = (under? stem e).map fun e' => e'.addAlias a' := by
  cases he : Text.dropStem? stem e.name with
  | none => rw [under?_eq_none he, under?_eq_none (by rw [addAlias_name, he]), Option.map_none]
  | some name =>
    rw [under?_eq_some he, under?_eq_some (by rw [addAlias_name]; exact he), Option.map_some]
    have hname : name = a' ↔ e.name = a := Text.dropStem?_inj he ha
    have hmem : a' ∈ e.aliases.filterMap (Text.dropStem? stem) ↔ a ∈ e.aliases := by
      rw [List.mem_filterMap]
      constructor
      · rintro ⟨b, hb, hba⟩
        rwa [← (Text.dropStem?_inj hba ha).mp rfl]
      · intro hmem
        exact ⟨a, hmem, ha⟩
    unfold addAlias
    dsimp only
    by_cases h : e.name = a ∨ a ∈ e.aliases
    · rw [if_pos h, if_pos (h.imp hname.mpr hmem.mpr)]
    · rw [if_neg h, if_neg (mt (Or.imp hname.mp hmem.mp) h)]
      simp [ha]

/-- Adding an alias that is not under the stem. -/
theorem under?_addAlias_of_none {a : Text} (ha : Text.dropStem? stem a = none) (e : Entry) :
    under? stem (e.addAlias a) = under? stem e := by
  unfold addAlias
  split_ifs
  · rfl
  · simp [under?, ha]

/-- A value names an entry under the stem exactly when it names the whole entry. -/
theorem targetOf?_under {d d' : Definition} (hvalue : d'.value = d.value) {e : Entry} {name : Text}
    (he : Text.dropStem? stem e.name = some name) :
    Table.targetOf? stem d' = some name ↔ Table.targetOf? [] d = some e.name := by
  obtain ⟨hname, -⟩ := Text.dropStem?_eq_some_iff.mp he
  rw [Table.targetOf?, Table.targetOf?, Text.dropLead?_nil, Text.dropLead?_eq_some_iff, hvalue,
    Option.some.injEq, hname]

/-- Attaching a candidate whose name is under the stem. -/
theorem under?_attached_of_some {d d' : Definition} (hd : Definition.under? stem d = some d')
    (e : Entry) :
    under? stem (e.attached [] d) = (under? stem e).map fun e' => e'.attached stem d' := by
  obtain ⟨hname, hvalue⟩ := Definition.under?_eq_some_iff.mp hd
  cases he : Text.dropStem? stem e.name with
  | none => rw [under?_eq_none he, under?_eq_none (by rw [attached_name, he]), Option.map_none]
  | some name =>
    have htarget := targetOf?_under hvalue he
    have hunder := under?_eq_some he
    unfold attached
    by_cases h : Table.targetOf? [] d = some e.name
    · rw [if_pos h, under?_addAlias_of_some hname, hunder, Option.map_some, Option.map_some,
        if_pos (htarget.mpr h)]
    · rw [if_neg h, hunder, Option.map_some, if_neg (mt htarget.mp h)]

/-- Attaching a candidate whose name is not under the stem. -/
theorem under?_attached_of_none {d : Definition} (hd : Definition.under? stem d = none)
    (e : Entry) : under? stem (e.attached [] d) = under? stem e := by
  have hname : Text.dropStem? stem d.name = none := Option.map_eq_none_iff.mp hd
  unfold attached
  split_ifs
  · exact under?_addAlias_of_none hname e
  · rfl

/-- Attaching candidates one after another. -/
theorem under?_foldl_attached (l : List Definition) (e : Entry) :
    under? stem (l.foldl (Entry.attached []) e)
      = (under? stem e).map fun e' =>
          (l.filterMap (Definition.under? stem)).foldl (Entry.attached stem) e' := by
  induction l generalizing e with
  | nil => simp
  | cons d l ih =>
    rw [List.foldl_cons, ih]
    cases hd : Definition.under? stem d with
    | none => rw [under?_attached_of_none hd, List.filterMap_cons_none hd]
    | some d' =>
      rw [under?_attached_of_some hd, List.filterMap_cons_some hd, Option.map_map]
      rfl

end Entry

namespace Table

/-- The entries of `t'` are those of `t` under the stem. -/
def IsUnder (stem : Text) (t t' : Table) : Prop :=
  t'.entries = t.entries.filterMap (Entry.under? stem)

/-- The table has a name under the stem exactly when the whole table has the whole name. -/
theorem exists_name_under {t t' : Table} (ht : IsUnder stem t t') {d d' : Definition}
    (hd : Definition.under? stem d = some d') :
    (∃ e' ∈ t'.entries, e'.name = d'.name) ↔ ∃ e ∈ t.entries, e.name = d.name := by
  obtain ⟨hname, -⟩ := Definition.under?_eq_some_iff.mp hd
  rw [ht]
  constructor
  · rintro ⟨e', he', hname'⟩
    obtain ⟨e, he, hunder⟩ := List.mem_filterMap.mp he'
    obtain ⟨name, hdrop, rfl⟩ := Option.map_eq_some_iff.mp hunder
    exact ⟨e, he, (Text.dropStem?_inj hdrop hname).mp hname'⟩
  · rintro ⟨e, he, hname'⟩
    rw [← hname'] at hname
    exact ⟨_, List.mem_filterMap.mpr ⟨e, he, Entry.under?_eq_some hname⟩, rfl⟩

/-- A definition under the stem, entered on both sides. -/
theorem isUnder_define {t t' : Table} (ht : IsUnder stem t t') {d d' : Definition}
    (hd : Definition.under? stem d = some d') (value : Int) :
    IsUnder stem (t.define d value) (t'.define d' value) := by
  obtain ⟨hname, hvalue⟩ := Definition.under?_eq_some_iff.mp hd
  unfold IsUnder
  by_cases h : ∃ e ∈ t.entries, e.name = d.name
  · have h' := (exists_name_under ht hd).mpr h
    rw [entries_define_of_mem value h, entries_define_of_mem value h', ht, List.filterMap_map,
      List.map_filterMap]
    exact List.filterMap_congr fun e _ => (Entry.under?_revalued_of_some hd value e).symm
  · rw [entries_define_of_not_mem value h,
      entries_define_of_not_mem value (mt (exists_name_under ht hd).mp h), ht,
      List.filterMap_append, hvalue]
    congr 1
    rw [List.filterMap_cons_some (Entry.under?_eq_some hname)]
    rfl

/-- A definition that is not under the stem, entered on one side. -/
theorem isUnder_define_left {t t' : Table} (ht : IsUnder stem t t') {d : Definition}
    (hd : Definition.under? stem d = none) (value : Int) : IsUnder stem (t.define d value) t' := by
  have hname : Text.dropStem? stem d.name = none := Option.map_eq_none_iff.mp hd
  unfold IsUnder
  by_cases h : ∃ e ∈ t.entries, e.name = d.name
  · rw [entries_define_of_mem value h, ht, List.filterMap_map]
    exact List.filterMap_congr fun e _ => (Entry.under?_revalued_of_none hd value e).symm
  · rw [entries_define_of_not_mem value h, ht, List.filterMap_append,
      List.filterMap_cons_none (Entry.under?_eq_none hname), List.filterMap_nil, List.append_nil]

/-- One step of the first pass, on both sides if the definition is under the stem. -/
theorem isUnder_defineLiteral {t t' : Table} (ht : IsUnder stem t t') {d d' : Definition}
    (hd : Definition.under? stem d = some d') :
    IsUnder stem (t.defineLiteral d) (t'.defineLiteral d') := by
  obtain ⟨-, hvalue⟩ := Definition.under?_eq_some_iff.mp hd
  cases h : Literal.value? d.value with
  | none => rwa [defineLiteral_of_none h, defineLiteral_of_none (hvalue ▸ h)]
  | some value =>
    rw [defineLiteral_of_some h, defineLiteral_of_some (hvalue ▸ h)]
    exact isUnder_define ht hd value

theorem isUnder_defineLiteral_left {t t' : Table} (ht : IsUnder stem t t') {d : Definition}
    (hd : Definition.under? stem d = none) : IsUnder stem (t.defineLiteral d) t' := by
  cases h : Literal.value? d.value with
  | none => rwa [defineLiteral_of_none h]
  | some value =>
    rw [defineLiteral_of_some h]
    exact isUnder_define_left ht hd value

/-- The first pass, on the side of the stem over the definitions under it only. -/
theorem isUnder_foldl_defineLiteral {t t' : Table} (ht : IsUnder stem t t')
    (definitions : List Definition) :
    IsUnder stem (definitions.foldl defineLiteral t)
      ((definitions.filterMap (Definition.under? stem)).foldl defineLiteral t') := by
  induction definitions generalizing t t' with
  | nil => exact ht
  | cons d l ih =>
    cases hd : Definition.under? stem d with
    | none =>
      rw [List.filterMap_cons_none hd]
      exact ih (isUnder_defineLiteral_left ht hd)
    | some d' =>
      rw [List.filterMap_cons_some hd]
      exact ih (isUnder_defineLiteral ht hd)

/-- Whether a definition is a candidate is decided by its value alone. -/
theorem candidates_under (definitions : List Definition) :
    candidates (definitions.filterMap (Definition.under? stem))
      = (candidates definitions).filterMap (Definition.under? stem) := by
  induction definitions with
  | nil => rfl
  | cons d l ih =>
    unfold candidates at ih ⊢
    cases hd : Definition.under? stem d with
    | none =>
      rw [List.filterMap_cons_none hd, ih]
      by_cases hc : isCandidate d
      · rw [List.filter_cons_of_pos hc, List.filterMap_cons_none hd]
      · rw [List.filter_cons_of_neg hc]
    | some d' =>
      have hsame : isCandidate d' = isCandidate d := by
        rw [isCandidate, (Definition.under?_eq_some_iff.mp hd).2, isCandidate]
      rw [List.filterMap_cons_some hd]
      by_cases hc : isCandidate d
      · rw [List.filter_cons_of_pos hc, List.filter_cons_of_pos (hsame.trans hc),
          List.filterMap_cons_some hd, ih]
      · rw [List.filter_cons_of_neg hc, List.filter_cons_of_neg (by rwa [hsame]), ih]

/-- The entries of the table under a stem. -/
theorem entries_build_under (definitions : List Definition) :
    (build stem (definitions.filterMap (Definition.under? stem))).entries
      = (build [] definitions).entries.filterMap (Entry.under? stem) := by
  have hempty : IsUnder stem empty empty := rfl
  have hpass : literalEntries (definitions.filterMap (Definition.under? stem))
      = (literalEntries definitions).filterMap (Entry.under? stem) :=
    isUnder_foldl_defineLiteral hempty definitions
  rw [entries_build, entries_build, hpass, candidates_under, List.map_filterMap, List.filterMap_map]
  exact List.filterMap_congr fun e _ => (Entry.under?_foldl_attached _ e).symm

end Table

/-- **Looking under a stem is looking everywhere and keeping what is under it.**  The entries of
a header under a stem of name characters are its entries under the empty stem whose names go on
after it, without the stem, each with its value and literal and those of its aliases that go on
after the stem. -/
theorem Artefact.entries_tableOf_stem (hstem : ∀ c ∈ stem, Definition.isNameChar c)
    (source : Bytes) :
    (tableOf stem source).entries = (tableOf [] source).entries.filterMap (Entry.under? stem) := by
  rw [tableOf, tableOf, Definition.ofSource_stem hstem]
  exact Table.entries_build_under _

/-- A header in which the stem stands twice in a name, a macro is named exactly as the stem, and
aliases lead into the stem and out of it. -/
theorem Artefact.entries_tableOf_stem_key :
    let source : Bytes := Text.encode
      "#define K_K_ 1\n#define K_ 2\n#define K_A K_\n#define OUT K_K_\n#define K_B K_K_".toList
    let under : List Entry := [⟨"K_".toList, 1, "1".toList, ["B".toList]⟩]
    (∀ c ∈ "K_".toList, Definition.isNameChar c)
      ∧ (tableOf "K_".toList source).entries = under
      ∧ (tableOf [] source).entries.filterMap (Entry.under? "K_".toList) = under := by
  intro source under
  have hstem : ∀ c ∈ "K_".toList, Definition.isNameChar c := List.all_eq_true.mp rfl
  have hunder : (tableOf "K_".toList source).entries = under := by decide +kernel
  exact ⟨hstem, hunder, (Artefact.entries_tableOf_stem hstem source).symm.trans hunder⟩

end NameTables
