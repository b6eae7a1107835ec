import NameTables.Proofs.Artefact.Slots
import NameTables.Proofs.Table.Counts

/-!
# What comes of a header

A header comes to nothing if none of its macros has an integer value.  Otherwise an array of records
is always made, and a flat array unless the value of some entry is at or past the limit: the names
of the entries are told apart, so the entry chosen as the bound is the one that takes no slot, and
its index counts with those that are assigned.

## Main definitions

* `Artefact.Extracts` — some line of a header defines a macro with an integer value.
* `Artefact.TooWide` — a flat array is asked for, and some name has too great a value.

## Main statements

* `Slots.exists_index_iff` — the indices that size an array are those of the entries.
* `Slots.exists_error_iff` — when a table has no slots.
* `Artefact.generate_eq_error_iff` — when no artefact is made, and why.
* `Artefact.generate_outcome` — what comes of a header, with its counts.
-/

namespace NameTables

/-! ### The width of a flat array -/

namespace Slots

/-- The index of a bound is that of the one entry with its name. -/
theorem boundIndex?_eq_some_iff {t : Table} {bound : Text} {i : Nat} :
    boundIndex? t (some bound) = some i
      ↔ ∃ e ∈ t.entries, e.name = bound ∧ indexOf? e.value = some i := by
  rw [boundIndex?, Option.bind_some, Option.bind_eq_some_iff]
  refine exists_congr fun e => ?_
  rw [Table.find?_eq_some_iff, and_assoc]

theorem mem_keys_assignedIn_iff {t : Table} {bound : Option Text} {i : Nat} :
    i ∈ (assignedIn t bound).map Prod.fst
      ↔ ∃ e ∈ t.entries, some e.name ≠ bound ∧ indexOf? e.value = some i := by
  rw [assignedIn, Ranking.mem_keys_ofList]
  simp [List.mem_map, List.mem_filterMap, and_assoc]

/-- The indices that size an array are those of the entries, the bound's with the others. -/
theorem exists_index_iff {t : Table} (bound : Option Text) {i : Nat} :
    i ∈ (assignedIn t bound).map Prod.fst ++ (boundIndex? t bound).toList
      ↔ ∃ e ∈ t.entries, indexOf? e.value = some i := by
  rw [List.mem_append, mem_keys_assignedIn_iff, Option.mem_toList]
  constructor
  · rintro (⟨e, he, -, hindex⟩ | hbound)
    · exact ⟨e, he, hindex⟩
    · cases bound with
      | none => cases hbound
      | some name =>
        obtain ⟨e, he, -, hindex⟩ := boundIndex?_eq_some_iff.mp hbound
        exact ⟨e, he, hindex⟩
  · rintro ⟨e, he, hindex⟩
    by_cases hname : some e.name = bound
    · right
      subst hname
      exact boundIndex?_eq_some_iff.mpr ⟨e, he, rfl, hindex⟩
    · exact .inl ⟨e, he, hname, hindex⟩

/-- When a table has no slots, and how far they would have to reach. -/
theorem ofTable_eq_error_iff {t : Table} {bound : Option Text} {failure : Failure} :
    ofTable t bound = .error failure
      ↔ ∃ n, greatest? t bound = some n ∧ limit ≤ n
          ∧ failure = .settings (.tooSparse n limit) := by
  rw [ofTable]
  cases greatest? t bound with
  | none => simp
  | some n =>
    by_cases hn : n + 1 ≤ limit
    · simp [hn, Nat.not_le.mpr hn]
    · simp [hn, Nat.le_of_lt_succ (Nat.not_le.mp hn), eq_comm]

/-- A table has no slots if the value of an entry is at or past the limit. -/
theorem exists_error_iff {t : Table} (bound : Option Text) :
    (∃ failure, ofTable t bound = .error failure) ↔ ∃ e ∈ t.entries, (limit : Int) ≤ e.value := by
  simp only [ofTable_eq_error_iff]
  constructor
  · rintro ⟨failure, n, hn, hlimit, -⟩
    obtain ⟨hmem, -⟩ := List.max?_eq_some_iff.mp hn
    obtain ⟨e, he, hindex⟩ := (exists_index_iff bound).mp hmem
    refine ⟨e, he, ?_⟩
    rw [indexOf?_eq_some_iff.mp hindex]
    exact Int.ofNat_le.mpr hlimit
  · rintro ⟨e, he, hlimit⟩
    obtain ⟨i, hi⟩ := Int.eq_ofNat_of_zero_le ((Int.natCast_nonneg limit).trans hlimit)
    have hmem := (exists_index_iff bound).mpr ⟨e, he, indexOf?_eq_some_iff.mpr hi⟩
    cases hn : greatest? t bound with
    | none =>
      rw [greatest?, List.max?_eq_none_iff] at hn
      rw [hn] at hmem
      cases hmem
    | some n =>
      have hle : i ≤ n := (List.max?_eq_some_iff.mp hn).2 i hmem
      exact ⟨_, n, rfl, by omega, rfl⟩

/-- Whatever is wrong with the slots of a table is a matter of the request. -/
theorem exists_fault_of_ofTable {t : Table} {bound : Option Text} {failure : Failure}
    (h : ofTable t bound = .error failure) : ∃ fault, failure = .settings fault := by
  obtain ⟨n, -, -, rfl⟩ := ofTable_eq_error_iff.mp h
  exact ⟨_, rfl⟩

end Slots

namespace Table

/-- Some entry is at or past a limit exactly when some name's last definition of an integer value
is. -/
theorem exists_le_value_build_iff {stem : Text} {definitions : List Definition} {limit : Int} :
    (∃ e ∈ (build stem definitions).entries, limit ≤ e.value)
      ↔ ∃ name d value, lastLiteral? definitions name = some d
          ∧ Literal.value? d.value = some value ∧ limit ≤ value := by
  constructor
  · rintro ⟨e, he, hlimit⟩
    obtain ⟨d, hlast, -, hvalue⟩ := exists_lastLiteral?_of_mem_build he
    exact ⟨e.name, d, e.value, hlast, hvalue, hlimit⟩
  · rintro ⟨name, d, value, hlast, hvalue, hlimit⟩
    have hdefined : ∃ d ∈ literals definitions, d.name = name := by
      by_contra hnone
      rw [lastLiteral?_eq_none_iff.mpr hnone] at hlast
      cases hlast
    obtain ⟨e, he, rfl⟩ := (exists_mem_build_iff stem _ (· = name)).mpr hdefined
    obtain ⟨d', hlast', -, hvalue'⟩ := exists_lastLiteral?_of_mem_build he
    -- the entry has the value of the same definition
    obtain rfl : d' = d := Option.some.inj (hlast'.symm.trans hlast)
    obtain rfl : e.value = value := Option.some.inj (hvalue'.symm.trans hvalue)
    exact ⟨e, he, hlimit⟩

/-- Only a flat array can fail to be written, and only for the width it would need. -/
theorem exists_error_of_render_iff {t : Table} (request : Request) :
    (∃ failure, t.render request = .error failure)
      ↔ (∃ arrayName bound, request.shape = .slots arrayName bound)
          ∧ ∃ e ∈ t.entries, (Slots.limit : Int) ≤ e.value := by
  obtain ⟨stem, shape, comment⟩ := request
  cases shape with
  | records typeName valueType arrayName order =>
    constructor
    · rintro ⟨failure, h⟩
      cases h
    · rintro ⟨⟨_, _, h⟩, -⟩
      cases h
  | slots arrayName bound =>
    have hslots : (∃ failure, t.render ⟨stem, .slots arrayName bound, comment⟩ = .error failure)
        ↔ ∃ failure, Slots.ofTable t bound = .error failure := by
      simp only [render, Slots.render]
      cases Slots.ofTable t bound <;> simp [Except.map]
    rw [hslots, Slots.exists_error_iff]
    exact ⟨fun h => ⟨⟨_, _, rfl⟩, h⟩, fun h => h.2⟩

theorem exists_fault_of_render {t : Table} {request : Request} {failure : Failure}
    (h : t.render request = .error failure) : ∃ fault, failure = .settings fault := by
  obtain ⟨stem, shape, comment⟩ := request
  cases shape with
  | records typeName valueType arrayName order => cases h
  | slots arrayName bound =>
    simp only [render, Slots.render] at h
    cases hs : Slots.ofTable t bound with
    | ok slots =>
      rw [hs] at h
      cases h
    | error failure' =>
      rw [hs] at h
      cases h
      exact Slots.exists_fault_of_ofTable hs

end Table

/-! ### The outcome -/

namespace Artefact

open Definition (linesOf ofLine? ofSource)

/-- Some line of the header defines a macro under the stem with an integer value. -/
def Extracts (stem : Text) (source : Bytes) : Prop :=
  ∃ line ∈ linesOf source, ∃ d, ofLine? stem line.decodeLossy = some d
    ∧ ∃ value, Literal.value? d.value = some value

/-- A flat array is asked for, and the last integer value that some name is given is 65536 or
more. -/
def TooWide (request : Request) (source : Bytes) : Prop :=
  (∃ arrayName bound, request.shape = .slots arrayName bound)
    ∧ ∃ name d value, Table.lastLiteral? (ofSource request.stem source) name = some d
        ∧ Literal.value? d.value = some value ∧ 65536 ≤ value

variable {source : Bytes} {sourceName : Text} {request : Request}

/-- A header with such a line has an entry, and no other has. -/
theorem extracts_iff {stem : Text} :
    Extracts stem source ↔ (tableOf stem source).entries ≠ [] := by
  have hmem := Table.exists_mem_build_iff stem (ofSource stem source) fun _ => True
  constructor
  · rintro ⟨line, hline, d, hd, hvalue⟩
    have hliteral : d ∈ Table.literals (ofSource stem source) :=
      Table.mem_literals.mpr ⟨List.mem_filterMap.mpr ⟨line, hline, hd⟩, hvalue⟩
    obtain ⟨e, he, -⟩ := hmem.mpr ⟨d, hliteral, trivial⟩
    exact List.ne_nil_of_mem he
  · intro hne
    obtain ⟨e, he⟩ := List.exists_mem_of_ne_nil _ hne
    obtain ⟨d, hliteral, -⟩ := hmem.mp ⟨e, he, trivial⟩
    obtain ⟨hd, hvalue⟩ := Table.mem_literals.mp hliteral
    obtain ⟨line, hline, hd⟩ := List.mem_filterMap.mp hd
    exact ⟨line, hline, d, hd, hvalue⟩

/-- When no artefact is made, and why. -/
theorem generate_eq_error_iff {failure : Failure} :
    generate source sourceName request = .error failure ↔
      (¬ Extracts request.stem source ∧ failure = .nothingExtracted request.stem sourceName)
        ∨ (Extracts request.stem source
          ∧ (tableOf request.stem source).render request = .error failure) := by
  rw [extracts_iff, generate]
  simp only [List.isEmpty_iff]
  split_ifs with hempty
  · simp [hempty, eq_comm]
  · simp only [hempty, not_true, ne_eq, not_false_eq_true, false_and, true_and, false_or]
    cases (tableOf request.stem source).render request <;> simp [Except.map]

/-- A table is too wide for the request when its header is. -/
theorem tooWide_iff :
    TooWide request source
      ↔ ∃ failure, (tableOf request.stem source).render request = .error failure := by
  rw [Table.exists_error_of_render_iff, tableOf, Table.exists_le_value_build_iff]
  rfl

/-- **What comes of a header.**  Nothing is extracted exactly when no line defines a macro under
the stem with an integer value.  If one does, the request cannot be met exactly when it asks for a
flat array and the last integer value of some name is 65536 or more.  In every other case there is
an artefact, and its counts are those of the header: the names with an integer value, the pairs of
such a name and another that is defined as the stem and it, and the definitions of anything else. -/
theorem generate_outcome (source : Bytes) (sourceName : Text) (request : Request) :
    (generate source sourceName request = .error (.nothingExtracted request.stem sourceName)
        ↔ ¬ Extracts request.stem source)
      ∧ (Extracts request.stem source →
          ((∃ fault, generate source sourceName request = .error (.settings fault))
            ↔ TooWide request source))
      ∧ (Extracts request.stem source → ¬ TooWide request source →
          ∃ artefact, generate source sourceName request = .ok artefact
            ∧ (Table.entryNames (ofSource request.stem source)).encard = artefact.entries
            ∧ (Table.aliasPairs request.stem (ofSource request.stem source)).encard
                = artefact.aliases
            ∧ artefact.unresolved
                = (Table.candidates (ofSource request.stem source)).countP fun d =>
                    ¬ ∃ target ∈ Table.literals (ofSource request.stem source),
                        d.value = request.stem ++ target.name) := by
  refine ⟨?_, fun hextracts => ?_, fun hextracts hwide => ?_⟩
  · rw [generate_eq_error_iff]
    constructor
    · rintro (⟨hnone, -⟩ | ⟨-, hrender⟩)
      · exact hnone
      · obtain ⟨fault, hfault⟩ := Table.exists_fault_of_render hrender
        cases hfault
    · intro hnone
      exact .inl ⟨hnone, rfl⟩
  · rw [tooWide_iff]
    constructor
    · rintro ⟨fault, h⟩
      rcases generate_eq_error_iff.mp h with ⟨hnone, -⟩ | ⟨-, hrender⟩
      · exact absurd hextracts hnone
      · exact ⟨_, hrender⟩
    · rintro ⟨failure, hrender⟩
      obtain ⟨fault, rfl⟩ := Table.exists_fault_of_render hrender
      exact ⟨fault, generate_eq_error_iff.mpr (.inr ⟨hextracts, hrender⟩)⟩
  · cases hmade : generate source sourceName request with
    | error failure =>
      rcases generate_eq_error_iff.mp hmade with ⟨hnone, -⟩ | ⟨-, hrender⟩
      · exact absurd hextracts hnone
      · exact absurd (tooWide_iff.mpr ⟨failure, hrender⟩) hwide
    | ok artefact =>
      obtain ⟨-, -, hentries, haliases, hunresolved⟩ := generate_eq_ok_iff.mp hmade
      refine ⟨artefact, rfl, ?_, ?_, ?_⟩
      · rw [hentries]
        exact Table.encard_entryNames request.stem _
      · rw [haliases]
        exact Table.encard_aliasPairs request.stem _
      · rw [hunresolved]
        exact Table.length_unresolved_build request.stem _

/-- A name brought under the limit by its second definition, with an alias that is defined twice
and an alias of that; and a name brought to the limit. -/
theorem generate_outcome_at_redefinition :
    let below : Bytes := Text.encode
      "#define K_A 70000\n#define K_B K_A\n#define K_A 7\n#define K_B K_A\n#define K_C K_B".toList
    let past : Bytes := Text.encode "#define K_A 7\n#define K_A 0x10000".toList
    let request : Request := ⟨"K_".toList, .slots "keys".toList (some "A".toList), "made".toList⟩
    (Extracts request.stem below ∧ ¬ TooWide request below
        ∧ (Table.entryNames (ofSource request.stem below)).encard = 1
        ∧ (Table.aliasPairs request.stem (ofSource request.stem below)).encard = 1)
      ∧ Extracts request.stem past ∧ TooWide request past := by
  intro below past request
  have hbelow : tableOf request.stem below
      = ⟨[⟨"A".toList, 7, "7".toList, ["B".toList]⟩], [("A".toList, 0)],
          [⟨"C".toList, "K_B".toList⟩], (tableOf request.stem below).indexed⟩ := rfl
  have hpast : generate past "a.h".toList request
      = .error (.settings (.tooSparse 65536 65536)) := rfl
  obtain ⟨-, -, hcounts⟩ := generate_outcome below "a.h".toList request
  obtain ⟨-, hwide, -⟩ := generate_outcome past "a.h".toList request
  have hextracts : Extracts request.stem below := by
    rw [extracts_iff, hbelow]
    exact List.cons_ne_nil _ _
  have hextracts' : Extracts request.stem past := extracts_iff.mpr (by decide)
  have hnot : ¬ TooWide request below := by
    rw [tooWide_iff, hbelow]
    rintro ⟨failure, hfailure⟩
    cases hfailure
  obtain ⟨artefact, hok, hnames, hpairs, -⟩ := hcounts hextracts hnot
  obtain ⟨-, -, hentries, haliases, -⟩ := generate_eq_ok_iff.mp hok
  rw [hentries, hbelow] at hnames
  rw [haliases, hbelow] at hpairs
  exact ⟨⟨hextracts, hnot, hnames, hpairs⟩, hextracts', (hwide hextracts').mp ⟨_, hpast⟩⟩

end Artefact

end NameTables
