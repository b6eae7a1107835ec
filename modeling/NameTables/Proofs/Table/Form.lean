import NameTables.Artefact.Basic
import NameTables.Proofs.Literal.Characters
import NameTables.Proofs.Table.Steps
import NameTables.Proofs.Text.Cutting

/-!
# The form of the entries

Every entry of a table goes back to definitions of its header: its name and aliases are names of
macros, and its literal is one that has its value.  Both passes keep this form.

## Main definitions

* `Definition.IsName` — the form of a name.
* `Entry.WellFormed` — the form of an entry.

## Main statements

* `Entry.WellFormed.revalued`, `Entry.WellFormed.attached` — one step keeps the form.
* `Entry.WellFormed.pieces_display` — the displayed names are told apart again.
* `Table.wellFormed_of_mem_build` — the entries of a table are well formed.
-/

namespace NameTables

/-- The form of a name: name characters, at least one. -/
def Definition.IsName (s : Text) : Prop := s ≠ [] ∧ ∀ c ∈ s, isNameChar c

theorem Definition.WellFormed.isName {d : Definition} (h : d.WellFormed) : IsName d.name :=
  ⟨h.name_ne_nil, h.name_chars⟩

/-- A character that is no name character stands in no name. -/
theorem Definition.IsName.not_mem {s : Text} (h : IsName s) {c : Char}
    (hc : isNameChar c = false) : c ∉ s := by
  intro hmem
  have hname := h.2 c hmem
  rw [hc] at hname
  cases hname

open Definition (IsName)

namespace Entry

/-- The form of an entry. -/
structure WellFormed (e : Entry) : Prop where
  /-- The name is a name. -/
  name : IsName e.name
  /-- So is each alias. -/
  aliases : ∀ a ∈ e.aliases, IsName a
  /-- The literal has the value. -/
  literal : Literal.value? e.literal = some e.value

theorem WellFormed.revalued {e : Entry} (he : e.WellFormed) {d : Definition} {value : Int}
    (hvalue : Literal.value? d.value = some value) : (e.revalued d value).WellFormed := by
  unfold Entry.revalued
  split
  · exact ⟨he.name, he.aliases, hvalue⟩
  · exact he

theorem WellFormed.addAlias {e : Entry} (he : e.WellFormed) {name : Text} (hname : IsName name) :
    (e.addAlias name).WellFormed := by
  unfold Entry.addAlias
  split
  · exact he
  · refine ⟨he.name, fun a ha => ?_, he.literal⟩
    rcases List.mem_append.mp ha with ha | ha
    · exact he.aliases a ha
    · rw [List.mem_singleton.mp ha]
      exact hname

theorem WellFormed.attached {e : Entry} (he : e.WellFormed) {d : Definition}
    (hname : IsName d.name) (stem : Text) : (e.attached stem d).WellFormed := by
  unfold Entry.attached
  split
  · exact he.addAlias hname
  · exact he

/-- The form is kept by one candidate after another. -/
theorem WellFormed.foldl_attached {e : Entry} (he : e.WellFormed) {l : List Definition}
    (hnames : ∀ d ∈ l, IsName d.name) (stem : Text) :
    (l.foldl (Entry.attached stem) e).WellFormed := by
  induction l generalizing e with
  | nil => exact he
  | cons d l ih =>
    rw [List.forall_mem_cons] at hnames
    exact ih (he.attached hnames.1 stem) hnames.2

/-! ### The displayed names -/

/-- No character stands in the displayed names that is neither a slash nor a name character. -/
theorem WellFormed.not_mem_display {e : Entry} (he : e.WellFormed) {c : Char} (hslash : c ≠ '/')
    (hc : Definition.isNameChar c = false) : c ∉ e.display := by
  intro hmem
  rcases List.mem_append.mp hmem with hmem | hmem
  · exact he.name.not_mem hc hmem
  · obtain ⟨a, ha, hmem⟩ := List.mem_flatMap.mp hmem
    rcases List.mem_cons.mp hmem with hmem | hmem
    · exact hslash hmem
    · exact (he.aliases a ha).not_mem hc hmem

/-- No character stands in the literal that is neither a minus sign nor a name character. -/
theorem WellFormed.not_mem_literal {e : Entry} (he : e.WellFormed) {c : Char} (hminus : c ≠ '-')
    (hc : Definition.isNameChar c = false) : c ∉ e.literal := by
  intro hmem
  rcases Literal.chars_of_value? he.literal c hmem with h | h
  · exact hminus h
  · rw [hc] at h
    cases h

/-- A slash in front of each alias can be told from what is in a name, so the displayed names are
told apart again. -/
theorem splitAt_append_flatMap {name : Text} {aliases : List Text} (hname : '/' ∉ name)
    (haliases : ∀ a ∈ aliases, '/' ∉ a) :
    splitAt (· == '/') (name ++ aliases.flatMap ('/' :: ·)) = name :: aliases := by
  induction aliases generalizing name with
  | nil => rw [List.flatMap_nil, List.append_nil, splitAt_of_not_mem hname]
  | cons a aliases ih =>
    rw [List.forall_mem_cons] at haliases
    rw [List.flatMap_cons, List.cons_append, splitAt_append_cons_self, splitAt_of_not_mem hname,
      ih haliases.1 haliases.2, List.singleton_append]

theorem WellFormed.pieces_display {e : Entry} (he : e.WellFormed) :
    Text.pieces (· == '/') e.display = e.name :: e.aliases :=
  splitAt_append_flatMap (he.name.not_mem rfl) fun a ha => (he.aliases a ha).not_mem rfl

end Entry

namespace Table

variable {t : Table}

theorem wellFormed_define (ht : ∀ e ∈ t.entries, e.WellFormed) {d : Definition} {value : Int}
    (hname : IsName d.name) (hvalue : Literal.value? d.value = some value) :
    ∀ e ∈ (t.define d value).entries, e.WellFormed := by
  intro e he
  by_cases h : ∃ e ∈ t.entries, e.name = d.name
  · rw [entries_define_of_mem value h] at he
    obtain ⟨e', he', rfl⟩ := List.mem_map.mp he
    exact (ht e' he').revalued hvalue
  · rw [entries_define_of_not_mem value h] at he
    rcases List.mem_append.mp he with he | he
    · exact ht e he
    · rw [List.mem_singleton.mp he]
      exact ⟨hname, fun a ha => (List.not_mem_nil ha).elim, hvalue⟩

theorem wellFormed_defineLiteral (ht : ∀ e ∈ t.entries, e.WellFormed) {d : Definition}
    (hname : IsName d.name) : ∀ e ∈ (t.defineLiteral d).entries, e.WellFormed := by
  cases h : Literal.value? d.value with
  | none => rwa [defineLiteral_of_none h]
  | some value =>
    rw [defineLiteral_of_some h]
    exact wellFormed_define ht hname h

theorem wellFormed_foldl_defineLiteral (ht : ∀ e ∈ t.entries, e.WellFormed)
    {definitions : List Definition} (hnames : ∀ d ∈ definitions, IsName d.name) :
    ∀ e ∈ (definitions.foldl defineLiteral t).entries, e.WellFormed := by
  induction definitions generalizing t with
  | nil => exact ht
  | cons d l ih =>
    rw [List.forall_mem_cons] at hnames
    exact ih (wellFormed_defineLiteral ht hnames.1) hnames.2

/-- The entries of a table are well formed if the names in the definitions are. -/
theorem wellFormed_of_mem_build {definitions : List Definition}
    (hnames : ∀ d ∈ definitions, IsName d.name) (stem : Text) :
    ∀ e ∈ (build stem definitions).entries, e.WellFormed := by
  intro e he
  rw [entries_build] at he
  obtain ⟨e', he', rfl⟩ := List.mem_map.mp he
  have hempty : ∀ e ∈ empty.entries, e.WellFormed := fun e h => (List.not_mem_nil h).elim
  have hfirst : e'.WellFormed := wellFormed_foldl_defineLiteral hempty hnames e' he'
  exact hfirst.foldl_attached (fun d hd => hnames d (List.mem_filter.mp hd).1) stem

end Table

theorem Artefact.wellFormed_of_mem_entries {stem : Text} {source : Bytes} :
    ∀ e ∈ (tableOf stem source).entries, e.WellFormed :=
  Table.wellFormed_of_mem_build (fun _ hd => (Definition.wellFormed_of_mem_ofSource hd).isName) stem

end NameTables
