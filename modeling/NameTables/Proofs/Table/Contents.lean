import Mathlib.Data.List.Induction
import Mathlib.Data.List.Nodup
import Mathlib.Tactic.SplitIfs
import NameTables.Proofs.Table.Steps

/-!
# What a table holds

The first pass leaves an entry for each name that is given an integer value, in the order in which
the names come first, with the value given last.  The second leaves the names as they are and
gives each entry the names of the candidates that refer to it, in the order in which these come
first.  A candidate that refers to no entry is left over.

## Main definitions

* `Table.lastLiteral?` — the definition that gives a name its value.
* `Table.EntriesOf` — the entries that the first pass makes of some definitions.
* `Table.aliasNames` — the names of the candidates that refer to an entry.
* `Table.Refers` — a definition refers to an entry of a table.

## Main statements

* `Table.EntriesOf.defineLiteral`, `Table.entriesOf_literalEntries` — the first pass, step by step
  and as a whole.
* `Table.names_build`, `Table.exists_lastLiteral?_of_mem_build`, `Table.aliases_of_mem_build`,
  `Table.unresolved_build` — what a table holds.
-/

namespace NameTables

/-! ### First occurrences -/

section FirstOccurrences

variable {α : Type} [BEq α] [LawfulBEq α]

theorem eraseDups_concat (l : List α) (a : α) [Decidable (a ∈ l)] :
    (l ++ [a]).eraseDups = if a ∈ l then l.eraseDups else l.eraseDups ++ [a] := by
  rw [List.eraseDups_append]
  split_ifs with h
  · have hgone : [a].removeAll l = [] := by simp [List.removeAll, h]
    rw [hgone, List.eraseDups_nil, List.append_nil]
  · have hstays : [a].removeAll l = [a] := by simp [List.removeAll, h]
    rw [hstays]
    rfl

theorem nodup_eraseDups (l : List α) : l.eraseDups.Nodup := by
  classical
  induction l using List.reverseRecOn with
  | nil => exact List.nodup_nil
  | append_singleton l a ih =>
    rw [eraseDups_concat]
    split_ifs with h
    · exact ih
    · refine List.nodup_append.mpr ⟨ih, List.nodup_singleton a, ?_⟩
      intro b hb c hc
      rw [List.mem_singleton.mp hc]
      rintro rfl
      exact h (List.mem_eraseDups.mp hb)

/-- Which first occurrences are kept does not depend on what stands between them. -/
theorem eraseDups_filter (p : α → Bool) (l : List α) :
    (l.filter p).eraseDups = l.eraseDups.filter p := by
  classical
  induction l using List.reverseRecOn with
  | nil => rfl
  | append_singleton l a ih =>
    rw [List.filter_append, eraseDups_concat]
    by_cases ha : p a
    · rw [List.filter_cons_of_pos ha, List.filter_nil, eraseDups_concat]
      by_cases hmem : a ∈ l
      · rw [if_pos hmem, if_pos (List.mem_filter.mpr ⟨hmem, ha⟩), ih]
      · rw [if_neg hmem, if_neg fun h => hmem (List.mem_filter.mp h).1, ih, List.filter_append,
          List.filter_cons_of_pos ha, List.filter_nil]
    · rw [List.filter_cons_of_neg ha, List.filter_nil, List.append_nil, ih]
      split_ifs
      · rfl
      · rw [List.filter_append, List.filter_cons_of_neg ha, List.filter_nil, List.append_nil]

/-- An element that comes last and nowhere else is the last first occurrence. -/
theorem getLast?_eraseDups {l : List α} {a : α} (hlast : l.getLast? = some a)
    (honce : l.count a ≤ 1) : l.eraseDups.getLast? = some a := by
  classical
  obtain ⟨front, rfl⟩ := List.getLast?_eq_some_iff.mp hlast
  rw [List.count_append, List.count_singleton_self] at honce
  have hnew : a ∉ front := List.count_eq_zero.mp (by omega)
  rw [eraseDups_concat, if_neg hnew, List.getLast?_concat]

/-- What is appended comes behind the first occurrences there are. -/
theorem eraseDups_prefix_append (l r : List α) : l.eraseDups <+: (l ++ r).eraseDups :=
  ⟨_, List.eraseDups_append.symm⟩

end FirstOccurrences

namespace Table

/-! ### The definition that gives a value -/

/-- The last definition of a name that has an integer value. -/
def lastLiteral? (definitions : List Definition) (name : Text) : Option Definition :=
  ((literals definitions).filter fun d => d.name = name).getLast?

theorem lastLiteral?_append (a b : List Definition) (name : Text) :
    lastLiteral? (a ++ b) name = (lastLiteral? b name).or (lastLiteral? a name) := by
  rw [lastLiteral?, literals_append, List.filter_append, List.getLast?_append]
  rfl

theorem lastLiteral?_eq_none_iff {definitions : List Definition} {name : Text} :
    lastLiteral? definitions name = none ↔ ¬ ∃ d ∈ literals definitions, d.name = name := by
  simp [lastLiteral?]

theorem lastLiteral?_singleton {d : Definition} {value : Int}
    (hvalue : Literal.value? d.value = some value) (name : Text) :
    lastLiteral? [d] name = if d.name = name then some d else none := by
  have hliterals : literals [d] = [d] := by simp [literals, hvalue]
  rw [lastLiteral?, hliterals]
  split_ifs with h <;> simp [h]

/-! ### The first pass -/

/-- What the first pass makes of definitions: an entry for each name that is given an integer
value, in the order in which the names come first, with the value given last. -/
structure EntriesOf (definitions : List Definition) (entries : List Entry) : Prop where
  /-- The names, each where it comes first. -/
  names : entries.map Entry.name = ((literals definitions).map Definition.name).eraseDups
  /-- The value and the literal are those of the last definition of the name. -/
  last : ∀ e ∈ entries, ∃ d, lastLiteral? definitions e.name = some d
    ∧ e.literal = d.value ∧ Literal.value? d.value = some e.value
  /-- Aliases are left for the second pass. -/
  aliases : ∀ e ∈ entries, e.aliases = []

namespace EntriesOf

variable {definitions : List Definition} {entries : List Entry}

theorem exists_name_iff (h : EntriesOf definitions entries) {name : Text} :
    (∃ e ∈ entries, e.name = name) ↔ ∃ d ∈ literals definitions, d.name = name := by
  have hmem : name ∈ entries.map Entry.name ↔ name ∈ (literals definitions).map Definition.name := by
    rw [h.names, List.mem_eraseDups]
  simpa only [List.mem_map] using hmem

/-- A definition without an integer value changes nothing. -/
theorem concat_of_none (h : EntriesOf definitions entries) {d : Definition}
    (hd : Literal.value? d.value = none) : EntriesOf (definitions ++ [d]) entries := by
  have hliterals : literals (definitions ++ [d]) = literals definitions := by
    simp [literals, hd]
  refine ⟨?_, fun e he => ?_, h.aliases⟩
  · rw [hliterals, h.names]
  · rw [lastLiteral?, hliterals]
    exact h.last e he

/-- A definition with an integer value gives its name that value and no other name. -/
theorem define {t : Table} (h : EntriesOf definitions t.entries) {d : Definition} {value : Int}
    (hd : Literal.value? d.value = some value) :
    EntriesOf (definitions ++ [d]) (t.define d value).entries := by
  have hliterals : literals (definitions ++ [d]) = literals definitions ++ [d] := by
    simp [literals, hd]
  have hlast : ∀ name, lastLiteral? (definitions ++ [d]) name
      = if d.name = name then some d else lastLiteral? definitions name := by
    intro name
    rw [lastLiteral?_append, lastLiteral?_singleton hd]
    split_ifs <;> rfl
  have hnames : ((literals (definitions ++ [d])).map Definition.name).eraseDups
      = if ∃ e ∈ t.entries, e.name = d.name then t.entries.map Entry.name
        else t.entries.map Entry.name ++ [d.name] := by
    rw [hliterals, List.map_append, List.map_singleton, eraseDups_concat, h.names]
    refine if_congr ?_ rfl rfl
    rw [h.exists_name_iff, List.mem_map]
  by_cases hmem : ∃ e ∈ t.entries, e.name = d.name
  · rw [entries_define_of_mem value hmem]
    rw [if_pos hmem] at hnames
    refine ⟨?_, fun e he => ?_, fun e he => ?_⟩
    · rw [hnames, List.map_map]
      exact List.map_congr_left fun e _ => Entry.revalued_name d value e
    · obtain ⟨e', he', rfl⟩ := List.mem_map.mp he
      rw [hlast, Entry.revalued_name, Entry.revalued]
      by_cases hname : e'.name = d.name
      · rw [if_pos hname.symm, if_pos hname]
        exact ⟨d, rfl, rfl, hd⟩
      · rw [if_neg (Ne.symm hname), if_neg hname]
        exact h.last e' he'
    · obtain ⟨e', he', rfl⟩ := List.mem_map.mp he
      rw [Entry.revalued_aliases]
      exact h.aliases e' he'
  · rw [entries_define_of_not_mem value hmem]
    rw [if_neg hmem] at hnames
    refine ⟨?_, fun e he => ?_, fun e he => ?_⟩
    · rw [hnames, List.map_append, List.map_singleton]
    · rw [hlast]
      rcases List.mem_append.mp he with he | he
      · rw [if_neg fun hname => hmem ⟨e, he, hname.symm⟩]
        exact h.last e he
      · rw [List.mem_singleton.mp he, if_pos rfl]
        exact ⟨d, rfl, rfl, hd⟩
    · rcases List.mem_append.mp he with he | he
      · exact h.aliases e he
      · rw [List.mem_singleton.mp he]

/-- One step of the first pass. -/
theorem defineLiteral {t : Table} (h : EntriesOf definitions t.entries) (d : Definition) :
    EntriesOf (definitions ++ [d]) (t.defineLiteral d).entries := by
  cases hd : Literal.value? d.value with
  | none =>
    rw [defineLiteral_of_none hd]
    exact h.concat_of_none hd
  | some value =>
    rw [defineLiteral_of_some hd]
    exact h.define hd

end EntriesOf

/-- The first pass as a whole. -/
theorem entriesOf_literalEntries (definitions : List Definition) :
    EntriesOf definitions (literalEntries definitions) := by
  induction definitions using List.reverseRecOn with
  | nil =>
    exact ⟨rfl, fun e he => (List.not_mem_nil he).elim, fun e he => (List.not_mem_nil he).elim⟩
  | append_singleton definitions d ih =>
    rw [literalEntries, List.foldl_concat]
    exact ih.defineLiteral d

@[simp] theorem unresolved_defineLiteral (t : Table) (d : Definition) :
    (t.defineLiteral d).unresolved = t.unresolved := by
  cases hd : Literal.value? d.value with
  | none => rw [defineLiteral_of_none hd]
  | some value =>
    rw [defineLiteral_of_some hd, define]
    split <;> rfl

theorem unresolved_foldl_defineLiteral (definitions : List Definition) (t : Table) :
    (definitions.foldl defineLiteral t).unresolved = t.unresolved := by
  induction definitions generalizing t with
  | nil => rfl
  | cons d l ih => rw [List.foldl_cons, ih, unresolved_defineLiteral]

/-! ### The second pass -/

theorem targetOf?_eq_some_iff {stem name : Text} {d : Definition} :
    targetOf? stem d = some name ↔ d.value = stem ++ name :=
  Text.dropLead?_eq_some_iff

/-- The names of the definitions, other than `name` itself, whose value is the stem and `name`. -/
def aliasNames (stem name : Text) (definitions : List Definition) : List Text :=
  (definitions.filter fun d => d.value = stem ++ name ∧ d.name ≠ name).map Definition.name

theorem aliasNames_append (stem name : Text) (a b : List Definition) :
    aliasNames stem name (a ++ b) = aliasNames stem name a ++ aliasNames stem name b := by
  simp [aliasNames]

/-- The candidates give an entry the names of those that refer to it, each where it comes first. -/
theorem aliases_foldl_attached (stem : Text) (l : List Definition) {e : Entry}
    (he : e.aliases = []) :
    (l.foldl (Entry.attached stem) e).aliases = (aliasNames stem e.name l).eraseDups := by
  induction l using List.reverseRecOn with
  | nil => exact he
  | append_singleton l d ih =>
    rw [List.foldl_concat, Entry.attached, Entry.foldl_attached_name, aliasNames_append]
    by_cases htarget : targetOf? stem d = some e.name
    · have hvalue := targetOf?_eq_some_iff.mp htarget
      rw [if_pos htarget, Entry.addAlias, Entry.foldl_attached_name, ih]
      by_cases hself : e.name = d.name
      · have hnone : aliasNames stem e.name [d] = [] := by simp [aliasNames, hself]
        rw [if_pos (.inl hself), hnone, List.append_nil, ih]
      · have hone : aliasNames stem e.name [d] = [d.name] := by
          simp [aliasNames, hvalue, Ne.symm hself]
        rw [hone, eraseDups_concat]
        by_cases hmem : d.name ∈ aliasNames stem e.name l
        · rw [if_pos (.inr (List.mem_eraseDups.mpr hmem)), if_pos hmem, ih]
        · have hnew : ¬ (e.name = d.name ∨ d.name ∈ (aliasNames stem e.name l).eraseDups) := by
            rw [List.mem_eraseDups, not_or]
            exact ⟨hself, hmem⟩
          rw [if_neg hnew, if_neg hmem]
    · have hvalue : d.value ≠ stem ++ e.name := fun h => htarget (targetOf?_eq_some_iff.mpr h)
      have hnone : aliasNames stem e.name [d] = [] := by simp [aliasNames, hvalue]
      rw [if_neg htarget, hnone, List.append_nil, ih]

/-- The value of the definition is the stem and the name of an entry. -/
def Refers (stem : Text) (t : Table) (d : Definition) : Prop :=
  ∃ e ∈ t.entries, d.value = stem ++ e.name

instance (stem : Text) (t : Table) (d : Definition) : Decidable (Refers stem t d) :=
  inferInstanceAs (Decidable (∃ e ∈ t.entries, d.value = stem ++ e.name))

/-- What a definition refers to is a matter of the names in the table. -/
theorem refers_iff_mem_names {stem : Text} {t : Table} {d : Definition} :
    Refers stem t d ↔ ∃ name ∈ t.entries.map Entry.name, d.value = stem ++ name := by
  simp [Refers]

theorem names_attach (stem : Text) (t : Table) (d : Definition) :
    (attach stem t d).entries.map Entry.name = t.entries.map Entry.name := by
  rw [entries_attach, List.map_map]
  exact List.map_congr_left fun e _ => Entry.attached_name stem e d

/-- A candidate is left over if it refers to no entry. -/
theorem unresolved_attach (stem : Text) (t : Table) (d : Definition) :
    (attach stem t d).unresolved = t.unresolved ++ [d].filter fun d => ¬ Refers stem t d := by
  unfold attach
  split
  · next i h =>
    obtain ⟨target, htarget, hi⟩ := Option.bind_eq_some_iff.mp h
    obtain ⟨e, he, hname⟩ := exists_position_iff.mp ⟨i, hi⟩
    have hrefers : Refers stem t d := by
      refine ⟨e, he, ?_⟩
      rw [hname]
      exact targetOf?_eq_some_iff.mp htarget
    simp [hrefers, change]
  · next h =>
    have hrefers : ¬ Refers stem t d := by
      rintro ⟨e, he, hvalue⟩
      rw [targetOf?_eq_some_iff.mpr hvalue, Option.bind_some] at h
      exact position?_eq_none_iff.mp h ⟨e, he, rfl⟩
    simp [hrefers]

theorem unresolved_foldl_attach (stem : Text) (l : List Definition) (t : Table) :
    (l.foldl (attach stem) t).unresolved
      = t.unresolved ++ l.filter fun d => ¬ Refers stem t d := by
  induction l generalizing t with
  | nil => simp
  | cons d l ih =>
    have hsame : ∀ d', Refers stem (attach stem t d) d' ↔ Refers stem t d' := by
      intro d'
      rw [refers_iff_mem_names, names_attach, refers_iff_mem_names]
    have hsplit : (d :: l).filter (fun d => ¬ Refers stem t d)
        = [d].filter (fun d => ¬ Refers stem t d) ++ l.filter fun d => ¬ Refers stem t d :=
      List.filter_append [d] l
    rw [List.foldl_cons, ih, unresolved_attach, List.append_assoc, hsplit]
    simp only [hsame]

/-! ### Both passes -/

/-- The names in a table are those that are given an integer value, in the order in which they
come first. -/
theorem names_build (stem : Text) (definitions : List Definition) :
    (build stem definitions).entries.map Entry.name
      = ((literals definitions).map Definition.name).eraseDups := by
  rw [entries_build, List.map_map, ← (entriesOf_literalEntries definitions).names]
  exact List.map_congr_left fun e _ => Entry.foldl_attached_name stem _ e

theorem nodup_names_build (stem : Text) (definitions : List Definition) :
    ((build stem definitions).entries.map Entry.name).Nodup := nodup_names _

/-- What is said of the name of some entry is said of some name that is given an integer value. -/
theorem exists_mem_build_iff (stem : Text) (definitions : List Definition) (p : Text → Prop) :
    (∃ e ∈ (build stem definitions).entries, p e.name)
      ↔ ∃ d ∈ literals definitions, p d.name := by
  have hmem : ∀ name, name ∈ (build stem definitions).entries.map Entry.name
      ↔ name ∈ (literals definitions).map Definition.name := by
    intro name
    rw [names_build, List.mem_eraseDups]
  constructor
  · rintro ⟨e, he, hp⟩
    obtain ⟨d, hd, hname⟩ := List.mem_map.mp ((hmem e.name).mp (List.mem_map_of_mem he))
    exact ⟨d, hd, hname ▸ hp⟩
  · rintro ⟨d, hd, hp⟩
    obtain ⟨e, he, hname⟩ := List.mem_map.mp ((hmem d.name).mpr (List.mem_map_of_mem hd))
    exact ⟨e, he, hname ▸ hp⟩

theorem refers_build_iff {stem : Text} {definitions : List Definition} {d : Definition} :
    Refers stem (build stem definitions) d
      ↔ ∃ target ∈ literals definitions, d.value = stem ++ target.name :=
  exists_mem_build_iff stem definitions fun name => d.value = stem ++ name

variable {stem : Text} {definitions : List Definition} {e : Entry}

/-- The value and the literal of an entry are those of the last definition of its name. -/
theorem exists_lastLiteral?_of_mem_build (he : e ∈ (build stem definitions).entries) :
    ∃ d, lastLiteral? definitions e.name = some d
      ∧ e.literal = d.value ∧ Literal.value? d.value = some e.value := by
  rw [entries_build] at he
  obtain ⟨e', he', rfl⟩ := List.mem_map.mp he
  simpa using (entriesOf_literalEntries definitions).last e' he'

/-- The aliases of an entry are the names of the candidates that refer to it, in the order in which
they come first. -/
theorem aliases_of_mem_build (he : e ∈ (build stem definitions).entries) :
    e.aliases = (aliasNames stem e.name (candidates definitions)).eraseDups := by
  rw [entries_build] at he
  obtain ⟨e', he', rfl⟩ := List.mem_map.mp he
  rw [Entry.foldl_attached_name]
  exact aliases_foldl_attached stem _ ((entriesOf_literalEntries definitions).aliases e' he')

/-- What is left over are the candidates that refer to no entry. -/
theorem unresolved_build (stem : Text) (definitions : List Definition) :
    (build stem definitions).unresolved
      = (candidates definitions).filter fun d => ¬ Refers stem (build stem definitions) d := by
  have hsame : ∀ d, Refers stem (definitions.foldl defineLiteral empty) d
      ↔ Refers stem (build stem definitions) d := by
    intro d
    rw [refers_iff_mem_names, refers_iff_mem_names, names_build]
    exact (entriesOf_literalEntries definitions).names ▸ Iff.rfl
  rw [build, ← candidates, unresolved_foldl_attach, unresolved_foldl_defineLiteral]
  simp only [hsame]
  rfl

end Table

end NameTables
