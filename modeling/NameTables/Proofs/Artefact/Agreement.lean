import NameTables.Proofs.Artefact.Records
import NameTables.Proofs.Artefact.Slots

/-!
# The two shapes agree

The slots of a flat array and the rows of an ascending array of records are rankings of the same
entries: one by index, the other by value, and of several entries with one value both keep the
last.  So where no bound is given, the slots that are filled are the rows whose value is not
negative, and what is read from the two artefacts of one header is the same.

## Main definitions

* `Slots.filled` — the slots that are not empty, with their indices.
* `Records.Cells.slot?` — what a row would be in a flat array.

## Main statements

* `Table.mem_byValue_iff`, `Slots.find?_assignedIn` — which entry stands for a value.
* `Slots.filled_eq_ascending` — the filled slots are the rows whose value is not negative.
* `Artefact.shapes_agree` — the two shapes of a table, and what is read from the two artefacts of
  a header.
-/

namespace NameTables

namespace Table

variable {t : Table}

/-! ### Rows by value -/

/-- The entry that stands for a value is the last one that has it. -/
theorem mem_byValue_iff {value : Int} {e : Entry} :
    (value, e) ∈ t.byValue ↔ (t.entries.filter fun e => e.value = value).getLast? = some e := by
  rw [byValue, Ranking.mem_ofList_iff, List.filter_map, List.map_map]
  have hsnd : Prod.snd ∘ (fun e : Entry => (e.value, e)) = id := rfl
  rw [hsnd, List.map_id]
  rfl

theorem value_of_mem_byValue {p : Int × Entry} (h : p ∈ t.byValue) : p.2.value = p.1 := by
  obtain ⟨e, -, rfl⟩ := List.mem_map.mp (Ranking.mem_of_mem_ofList h)
  rfl

/-- The rows with their values. -/
theorem byValue_eq_map (t : Table) :
    t.byValue = (t.ordered .ascending).map fun e => (e.value, e) := by
  rw [ordered, List.map_map]
  refine (List.map_id _).symm.trans (List.map_congr_left fun p hp => ?_)
  exact Prod.ext (value_of_mem_byValue hp).symm rfl

/-- The rows ascend strictly. -/
theorem pairwise_ascending (t : Table) :
    (t.ordered .ascending).Pairwise fun e e' => e.value < e'.value := by
  have hsorted : Ranking.Sorted t.byValue := Ranking.sorted_ofList _
  rw [Ranking.Sorted, byValue_eq_map, List.pairwise_map] at hsorted
  exact hsorted

/-- Every value that an entry has is the value of one row. -/
theorem existsUnique_ascending {e : Entry} (he : e ∈ t.entries) :
    ∃! row, row ∈ t.ordered .ascending ∧ row.value = e.value := by
  have hkey : e.value ∈ t.byValue.map Prod.fst := by
    rw [byValue, Ranking.mem_keys_ofList, List.map_map]
    exact List.mem_map_of_mem he
  rw [byValue_eq_map, List.map_map] at hkey
  obtain ⟨row, hrow, hvalue⟩ := List.mem_map.mp hkey
  refine ⟨row, ⟨hrow, hvalue⟩, ?_⟩
  rintro row' ⟨hrow', hvalue'⟩
  -- two rows with one value would not ascend
  have hnodup : ((t.ordered .ascending).map Entry.value).Nodup :=
    List.pairwise_map.mpr ((pairwise_ascending t).imp fun h => h.ne)
  exact List.inj_on_of_nodup_map hnodup hrow' hrow (hvalue'.trans hvalue.symm)

end Table

namespace Slots

variable {t : Table}

/-! ### Slots by index -/

/-- The slots that are not empty, with their indices. -/
def filled (s : Slots) : List (Nat × Entry) :=
  (List.range s.size).filterMap fun i => (s.get? i).map fun e => (i, e)

/-- To keep an entry if its index is `i` is to keep it if its value is `i`. -/
theorem guard_indexOf? (i : Nat) (e : Entry) :
    (((indexOf? e.value).map (·, e)).filter fun p => p.1 = i).map Prod.snd
      = Option.guard (fun e : Entry => e.value = (i : Int)) e := by
  by_cases hvalue : e.value = i
  · have hindex : indexOf? i = some i := rfl
    simp [Option.guard, hindex, hvalue]
  · cases hindex : indexOf? e.value with
    | none => simp [Option.guard, hvalue]
    | some n =>
      have hn : n ≠ i := by
        rintro rfl
        exact hvalue (indexOf?_eq_some_iff.mp hindex)
      simp [Option.guard, Option.filter, hn, hvalue]

/-- The entry that is assigned to an index is the last one with that value that is not the bound. -/
theorem find?_assignedIn (t : Table) (bound : Option Text) (i : Nat) :
    Ranking.find? (assignedIn t bound) i
      = (t.entries.filter fun e => e.value = (i : Int) ∧ some e.name ≠ bound).getLast? := by
  rw [assignedIn, Ranking.find?_ofList, List.filter_filterMap, List.map_filterMap]
  simp only [guard_indexOf?, List.filterMap_eq_filter, List.filter_filter, Bool.decide_and]

theorem find?_assignedIn_none (t : Table) (i : Nat) :
    Ranking.find? (assignedIn t none) i
      = (t.entries.filter fun e => e.value = (i : Int)).getLast? := by
  rw [find?_assignedIn]
  simp only [ne_eq, reduceCtorEq, not_false_eq_true, and_true]

/-- Where no bound is given, the entry that is assigned to an index is the last one with that
value. -/
theorem mem_assignedIn_iff {i : Nat} {e : Entry} :
    (i, e) ∈ assignedIn t none
      ↔ (t.entries.filter fun e => e.value = (i : Int)).getLast? = some e := by
  have hsorted : Ranking.Sorted (assignedIn t none) := Ranking.sorted_ofList _
  rw [← hsorted.find?_eq_some_iff, find?_assignedIn_none]

theorem filled_of_ofTable {bound : Option Text} {slots : Slots}
    (h : ofTable t bound = .ok slots) : slots.filled = assignedIn t bound := by
  obtain ⟨hassigned, hlt⟩ := assigned_of_ofTable h
  rw [← hassigned]
  refine Ranking.filterMap_range_find? ?_ hlt
  rw [hassigned]
  exact Ranking.sorted_ofList _

/-- Slots taken for rows, by value. -/
theorem map_assignedIn_eq (t : Table) :
    (assignedIn t none).map (fun (i, e) => ((i : Int), e))
      = t.byValue.filter fun p => 0 ≤ p.1 := by
  have hassigned : Ranking.Sorted (assignedIn t none) := Ranking.sorted_ofList _
  have hvalue : Ranking.Sorted t.byValue := Ranking.sorted_ofList _
  refine Ranking.Sorted.ext ?_ (hvalue.filter _) fun value e => ?_
  · exact List.pairwise_map.mpr (hassigned.imp fun h => Int.ofNat_lt.mpr h)
  · rw [List.mem_filter, Table.mem_byValue_iff, decide_eq_true_eq, List.mem_map]
    constructor
    · rintro ⟨p, hp, hpair⟩
      obtain ⟨rfl, rfl⟩ := Prod.mk.inj hpair
      exact ⟨mem_assignedIn_iff.mp hp, Int.natCast_nonneg _⟩
    · rintro ⟨hlast, hnonneg⟩
      obtain ⟨i, rfl⟩ := Int.eq_ofNat_of_zero_le hnonneg
      exact ⟨(i, e), mem_assignedIn_iff.mpr hlast, rfl⟩

/-- The filled slots are the rows whose value is not negative. -/
theorem filled_eq_ascending {slots : Slots} (h : ofTable t none = .ok slots) :
    slots.filled.map (fun (i, e) => ((i : Int), e))
      = ((t.ordered .ascending).filter fun e => 0 ≤ e.value).map fun e => (e.value, e) := by
  rw [filled_of_ofTable h, map_assignedIn_eq, Table.byValue_eq_map, List.filter_map]
  rfl

end Slots

/-! ### Reading both artefacts -/

namespace Records.Cells

/-- The names of a row as a flat array shows them. -/
def display (row : Cells) : Text := row.name ++ row.aliases.flatMap ('/' :: ·)

/-- The value and the names of a row, unless its value has no slot in a flat array. -/
def slot? (row : Cells) : Option (Int × Text) :=
  ((Literal.value? row.literal).filter (0 ≤ ·)).map (·, row.display)

/-- The rows that have a slot are those of the entries whose value is not negative. -/
theorem filterMap_slot?_map_ofEntry {entries : List Entry}
    (hentries : ∀ e ∈ entries, e.WellFormed) :
    (entries.map ofEntry).filterMap slot?
      = (entries.filter fun e => 0 ≤ e.value).map fun e => (e.value, e.display) := by
  induction entries with
  | nil => rfl
  | cons e entries ih =>
    rw [List.forall_mem_cons] at hentries
    have hslot : (ofEntry e).slot?
        = ((some e.value).filter (0 ≤ ·)).map (·, e.display) := by
      rw [← hentries.1.literal]
      rfl
    rw [List.map_cons, List.filterMap_cons, hslot, ih hentries.2]
    by_cases hvalue : 0 ≤ e.value
    · simp [Option.filter, hvalue]
    · simp [Option.filter, hvalue]

end Records.Cells

namespace Artefact

variable {stem comment arrayName : Text} {source : Bytes} {sourceName : Text} {artefact : Artefact}

theorem read?_slots {bound : Option Text}
    (h : generate source sourceName ⟨stem, .slots arrayName bound, comment⟩ = .ok artefact) :
    ∃ slots, Slots.ofTable (tableOf stem source) bound = .ok slots
      ∧ Slots.read? comment arrayName artefact.text
        = some (slots.size, slots.filled.map fun (i, e) => (i, e.display)) := by
  obtain ⟨-, hrender, -⟩ := generate_eq_ok_iff.mp h
  obtain ⟨slots, hslots, htext⟩ := Slots.exists_of_render hrender
  have hassigned : slots.assigned = slots.filled :=
    (Slots.assigned_of_ofTable hslots).1.trans (Slots.filled_of_ofTable hslots).symm
  have hquote : ∀ p ∈ slots.assigned, '\x22' ∉ p.2.display := by
    intro p hp
    rw [(Slots.assigned_of_ofTable hslots).1] at hp
    have hform := wellFormed_of_mem_entries p.2 (Slots.mem_entries_of_mem_assignedIn hp)
    exact hform.not_mem_display (by decide) rfl
  have hread := Slots.read?_text hquote comment arrayName
  rw [htext, hassigned] at hread
  exact ⟨slots, hslots, hread⟩

/-- An array of records is made of every header that has an entry. -/
theorem exists_generate_records (hentries : (tableOf stem source).entries ≠ [])
    (sourceName comment typeName valueType arrayName : Text) (order : RowOrder) :
    ∃ artefact, generate source sourceName
      ⟨stem, .records typeName valueType arrayName order, comment⟩ = .ok artefact :=
  ⟨⟨_, _, _, _⟩, generate_eq_ok_iff.mpr ⟨hentries, rfl, rfl, rfl, rfl⟩⟩

/-- **The two shapes agree.**  Where no bound is given, the slots of a flat array that are filled
are the rows by value whose value is not negative, in the same order.  The rows by value ascend
strictly, each value that an entry has is that of one row, and each row is one of the rows in the
order of the header.  So a reader gets the same names for the same values, in the same order, from
a flat array of a header and from an array of records of it by value, which is made whenever the
flat array is. -/
theorem shapes_agree :
    (∀ t : Table,
        (∀ slots, Slots.ofTable t none = .ok slots →
          slots.filled.map (fun (i, e) => ((i : Int), e))
            = ((t.ordered .ascending).filter fun e => 0 ≤ e.value).map fun e => (e.value, e))
        ∧ (t.ordered .ascending).Pairwise (fun e e' => e.value < e'.value)
        ∧ (∀ e ∈ t.entries, ∃! row, row ∈ t.ordered .ascending ∧ row.value = e.value)
        ∧ ∀ row ∈ t.ordered .ascending, row ∈ t.ordered .encounter)
      ∧ ∀ (stem : Text) (source : Bytes) (sourceName comment arrayName : Text) (flat : Artefact),
          generate source sourceName ⟨stem, .slots arrayName none, comment⟩ = .ok flat →
            ∀ (sourceName' comment' typeName valueType arrayName' : Text),
              ∃ sorted size assigned rows,
                generate source sourceName'
                    ⟨stem, .records typeName valueType arrayName' .ascending, comment'⟩
                  = .ok sorted
                ∧ Slots.read? comment arrayName flat.text = some (size, assigned)
                ∧ Records.read? (Records.opening comment' typeName valueType arrayName')
                    sorted.text = some rows
                ∧ assigned.map (fun (i, names) => ((i : Int), names))
                    = rows.filterMap Records.Cells.slot? := by
  refine ⟨fun t => ⟨fun slots hslots => Slots.filled_eq_ascending hslots,
    Table.pairwise_ascending t, fun e he => Table.existsUnique_ascending he,
    fun row hrow => Table.mem_entries_of_mem_ordered hrow⟩, ?_⟩
  intro stem source sourceName comment arrayName flat hflat
    sourceName' comment' typeName valueType arrayName'
  obtain ⟨hentries, -⟩ := generate_eq_ok_iff.mp hflat
  obtain ⟨slots, hslots, hread⟩ := read?_slots hflat
  obtain ⟨sorted, hsorted⟩ :=
    exists_generate_records hentries sourceName' comment' typeName valueType arrayName' .ascending
  refine ⟨sorted, _, _, _, hsorted, hread, read?_records hsorted, ?_⟩
  have hagree := congrArg (List.map fun p : Int × Entry => (p.1, p.2.display))
    (Slots.filled_eq_ascending hslots)
  rw [Records.Cells.filterMap_slot?_map_ofEntry wellFormed_of_mem_ordered]
  rw [List.map_map, List.map_map] at hagree
  rw [List.map_map]
  exact hagree

/-- A value below zero, a value that two entries share though one of them had another at first, and
an alias. -/
theorem shapes_agree_at_shared_value :
    let source : Bytes := Text.encode
      "#define K_C 3\n#define K_N -1\n#define K_A 2\n#define K_B 0x1\n#define K_A 1\n#define K_Z K_B".toList
    let b : Entry := ⟨"B".toList, 1, "0x1".toList, ["Z".toList]⟩
    let c : Entry := ⟨"C".toList, 3, "3".toList, []⟩
    (∃ slots, Slots.ofTable (tableOf "K_".toList source) none = .ok slots
        ∧ slots.filled.map (fun (i, e) => ((i : Int), e)) = [(1, b), (3, c)])
      ∧ ∃ flat sorted size assigned rows,
        generate source "a.h".toList ⟨"K_".toList, .slots "keys".toList none, "made".toList⟩ = .ok flat
          ∧ generate source "a.h".toList
              ⟨"K_".toList, .records "key_t".toList "int".toList "keys".toList .ascending,
                "made".toList⟩ = .ok sorted
          ∧ Slots.read? "made".toList "keys".toList flat.text = some (size, assigned)
          ∧ Records.read? (Records.opening "made".toList "key_t".toList "int".toList "keys".toList)
              sorted.text = some rows
          ∧ assigned.map (fun (i, names) => ((i : Int), names))
              = [(1, "B/Z".toList), (3, "C".toList)]
          ∧ rows.filterMap Records.Cells.slot? = [(1, "B/Z".toList), (3, "C".toList)] := by
  intro source b c
  obtain ⟨htable, hheader⟩ := shapes_agree
  constructor
  · have hfits : ∃ slots, Slots.ofTable (tableOf "K_".toList source) none = .ok slots := ⟨_, rfl⟩
    obtain ⟨slots, hslots⟩ := hfits
    exact ⟨slots, hslots, (htable _).1 slots hslots⟩
  · have hmade : ∃ flat, generate source "a.h".toList
        ⟨"K_".toList, .slots "keys".toList none, "made".toList⟩ = .ok flat := ⟨_, rfl⟩
    obtain ⟨flat, hflat⟩ := hmade
    obtain ⟨sorted, size, assigned, rows, hsorted, hread, hrows, hagree⟩ :=
      hheader "K_".toList source "a.h".toList "made".toList "keys".toList flat hflat
        "a.h".toList "made".toList "key_t".toList "int".toList "keys".toList
    have hcells : rows = ((tableOf "K_".toList source).ordered .ascending).map
        Records.Cells.ofEntry := Option.some.inj (hrows.symm.trans (read?_records hsorted))
    have hslots : rows.filterMap Records.Cells.slot?
        = [(1, "B/Z".toList), (3, "C".toList)] := by
      rw [hcells]
      rfl
    exact ⟨flat, sorted, size, assigned, rows, hflat, hsorted, hread, hrows, hagree.trans hslots,
      hslots⟩

end Artefact

end NameTables
