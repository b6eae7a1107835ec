import Mathlib.Tactic.IntervalCases
import NameTables.Proofs.Artefact.Agreement
import NameTables.Proofs.Artefact.Outcome

/-!
# The slots of a table as a vector

A flat array is filled by computing its length, making a vector of empty slots and writing each
entry at its index.  The length is one more than the greatest value of an entry, if that is not
negative: the entry that is the bound takes no slot, but its value counts with the others, so the
length is the same whatever the bound.  No number on the way is too great for a machine word, since
a literal fits a signed one, and no write is outside the vector.

## Main definitions

* `Slots.vector` — the slots in order.
* `Slots.vector?` — the same vector as it is computed, in machine words and by checked writes.

## Main statements

* `Slots.greatest?_eq` — the index that sizes the array does not depend on the bound.
* `Slots.fill?_eq` — the writes stay inside the vector and leave each slot with its entry.
* `Slots.vector?_eq` — nothing overflows on the way.
* `Slots.ofTable_build` — the slots of a table, or why it has none.
-/

namespace NameTables

/-! ### The values of a table -/

/-- The value of a literal is that of a signed word. -/
theorem Literal.lt_of_value? {s : Text} {v : Int} (h : value? s = some v) : v < 2 ^ 63 := by
  obtain ⟨m, hm, rfl⟩ := Option.map_eq_some_iff.mp h
  have hle : m ≤ greatest := of_decide_eq_true (Option.filter_eq_some_iff.mp hm).2
  rw [greatest] at hle
  split_ifs <;> omega

namespace Table

theorem lt_of_mem_build {stem : Text} {definitions : List Definition} :
    ∀ e ∈ (build stem definitions).entries, e.value < 2 ^ 63 := by
  intro e he
  obtain ⟨d, -, -, hvalue⟩ := exists_lastLiteral?_of_mem_build he
  exact Literal.lt_of_value? hvalue

theorem greatest?_eq_some_iff {t : Table} {m : Int} :
    t.greatest? = some m ↔ (∃ e ∈ t.entries, e.value = m) ∧ ∀ e ∈ t.entries, e.value ≤ m := by
  simp [greatest?, List.max?_eq_some_iff]

end Table

namespace Slots

variable {t : Table} {bound : Option Text} {slots : Slots}

/-! ### How many slots -/

/-- The index that sizes the array is that of the greatest value, whatever the bound. -/
theorem greatest?_eq (t : Table) (bound : Option Text) :
    greatest? t bound = t.greatest?.bind indexOf? := by
  refine Option.ext fun n => ?_
  rw [greatest?, List.max?_eq_some_iff, Option.bind_eq_some_iff]
  simp only [exists_index_iff, indexOf?_eq_some_iff]
  constructor
  · rintro ⟨⟨e, he, hvalue⟩, hle⟩
    refine ⟨n, Table.greatest?_eq_some_iff.mpr ⟨⟨e, he, hvalue⟩, fun e' he' => ?_⟩, rfl⟩
    -- a negative value is less than any index
    cases hindex : indexOf? e'.value with
    | none => cases hvalue' : e'.value with
      | ofNat i =>
        rw [hvalue'] at hindex
        cases hindex
      | negSucc i => omega
    | some i =>
      have hvalue' := indexOf?_eq_some_iff.mp hindex
      have hi := hle i ⟨e', he', hvalue'⟩
      omega
  · rintro ⟨m, hm, rfl⟩
    obtain ⟨hmem, hle⟩ := Table.greatest?_eq_some_iff.mp hm
    refine ⟨hmem, ?_⟩
    rintro i ⟨e, he, hvalue⟩
    have hi := hle e he
    omega

/-! ### Writing into a vector -/

/-- The slots in order. -/
def vector (s : Slots) : List (Option Entry) := (List.range s.size).map s.get?

@[simp]
theorem length_vector (s : Slots) : s.vector.length = s.size := by simp [vector]

theorem getElem?_vector {i : Nat} (hi : i < slots.size) :
    slots.vector[i]? = some (slots.get? i) := by
  rw [vector, List.getElem?_map, List.getElem?_range hi, Option.map_some]

/-- Write an entry at its index, which must be one of the vector. -/
def write? (v : List (Option Entry)) (p : Nat × Entry) : Option (List (Option Entry)) :=
  if p.1 < v.length then some (v.set p.1 (some p.2)) else none

/-- A vector of empty slots into which entries are written one after another. -/
def fill? (size : Nat) (assigned : Ranking Nat Entry) : Option (List (Option Entry)) :=
  assigned.foldlM write? (List.replicate size none)

/-- Writing at ascending indices of a vector changes these and nothing else. -/
theorem exists_foldlM_write? {r : Ranking Nat Entry} (hsorted : Ranking.Sorted r)
    {v : List (Option Entry)} (hlt : ∀ p ∈ r, p.1 < v.length) :
    ∃ v', r.foldlM write? v = some v' ∧ v'.length = v.length
      ∧ ∀ i, v'[i]? = ((Ranking.find? r i).map some).or v[i]? := by
  induction r generalizing v with
  | nil => exact ⟨v, rfl, rfl, fun i => rfl⟩
  | cons p r ih =>
    obtain ⟨k, e⟩ := p
    obtain ⟨hk, hlt⟩ := List.forall_mem_cons.mp hlt
    obtain ⟨hhead, htail⟩ := List.pairwise_cons.mp hsorted
    obtain ⟨v', hfold, hlength, hget⟩ := ih htail (v := v.set k (some e)) (by simpa using hlt)
    refine ⟨v', ?_, by simpa using hlength, fun i => ?_⟩
    · rw [List.foldlM_cons, write?, if_pos hk]
      exact hfold
    · rw [hget, Ranking.find?_cons]
      by_cases hi : k = i
      · subst hi
        -- the later indices are greater
        have hnone : Ranking.find? r k = none := by
          rw [Option.eq_none_iff_forall_ne_some]
          intro e' he'
          exact absurd (hhead _ ((Ranking.Sorted.find?_eq_some_iff htail).mp he')) (lt_irrefl _)
        rw [hnone, if_pos rfl, List.getElem?_set_self hk]
        rfl
      · rw [if_neg hi, List.getElem?_set_ne hi]

/-- The writes stay inside the vector and leave each slot with its entry. -/
theorem fill?_eq {s : Slots} (hsorted : Ranking.Sorted s.assigned)
    (hlt : ∀ p ∈ s.assigned, p.1 < s.size) : fill? s.size s.assigned = some s.vector := by
  obtain ⟨v, hfold, hlength, hget⟩ := exists_foldlM_write? hsorted
    (v := List.replicate s.size none) (by simpa using hlt)
  rw [fill?, hfold, Option.some.injEq]
  refine List.ext_getElem? fun i => ?_
  rw [List.length_replicate] at hlength
  by_cases hi : i < s.size
  · rw [hget, getElem?_vector hi, List.getElem?_replicate, if_pos hi, get?]
    cases Ranking.find? s.assigned i <;> rfl
  · rw [List.getElem?_eq_none (by omega), List.getElem?_eq_none (by simpa using hi)]

/-! ### Machine words -/

/-- The numbers of a machine word are below this one. -/
def wordLimit : Int := 2 ^ 64

/-- The machine word that holds a number. -/
def word? (n : Int) : Option Nat := if 0 ≤ n ∧ n < wordLimit then some n.toNat else none

/-- The slots of a table as they are computed: every index, the length and the number in the failure
are machine words, and there is no result where one does not hold its number or a write is outside
the vector. -/
def vector? (t : Table) (bound : Option Text) : Option (Except Failure (List (Option Entry))) :=
  let assigned := Ranking.ofList <| (t.entries.filter fun e => some e.name ≠ bound).filterMap
    fun e => (word? e.value).map (·, e)
  let boundIndex := bound.bind fun name => (t.find? name).bind fun e => word? e.value
  match (assigned.map Prod.fst ++ boundIndex.toList).max? with
  | none => (fill? 0 assigned).map .ok
  | some n =>
    (word? (n + 1)).bind fun size =>
      if size ≤ limit then (fill? size assigned).map .ok
      else (word? (size - 1)).map fun greatest => .error (.settings (.tooSparse greatest limit))

theorem word?_natCast {n : Nat} (hn : (n : Int) < wordLimit) : word? n = some n := by
  rw [word?, if_pos ⟨Int.natCast_nonneg n, hn⟩, Int.toNat_natCast]

/-- A value that fits a signed word is an index exactly if it is not negative. -/
theorem word?_eq_indexOf? {value : Int} (hvalue : value < 2 ^ 63) :
    word? value = indexOf? value := by
  cases value with
  | ofNat n => exact word?_natCast (hvalue.trans (by decide))
  | negSucc n => rfl

/-- **Nothing overflows.**  Where the values of a table fit a signed word, its slots are computed in
machine words and written into a vector without a step that fails. -/
theorem vector?_eq (ht : ∀ e ∈ t.entries, e.value < 2 ^ 63) (bound : Option Text) :
    vector? t bound = some ((ofTable t bound).map vector) := by
  have hassigned : Ranking.ofList ((t.entries.filter fun e => some e.name ≠ bound).filterMap
      fun e => (word? e.value).map (·, e)) = assignedIn t bound := by
    rw [assignedIn]
    congr 1
    refine List.filterMap_congr fun e he => ?_
    rw [word?_eq_indexOf? (ht e (List.mem_filter.mp he).1)]
  have hbound : (bound.bind fun name => (t.find? name).bind fun e => word? e.value)
      = boundIndex? t bound := by
    refine Option.bind_congr fun name _ => Option.bind_congr fun e he => ?_
    exact word?_eq_indexOf? (ht e (Table.find?_eq_some_iff.mp he).1)
  have hfill : ∀ {s : Slots}, ofTable t bound = .ok s →
      fill? s.size s.assigned = some s.vector := by
    intro s hs
    obtain ⟨hs, hlt⟩ := assigned_of_ofTable hs
    exact fill?_eq (hs ▸ Ranking.sorted_ofList _) hlt
  rw [vector?, hassigned, hbound, ← greatest?]
  cases hgreatest : greatest? t bound with
  | none =>
    have hok : ofTable t bound = .ok ⟨0, assignedIn t bound⟩ := by rw [ofTable, hgreatest]
    rw [hok]
    exact congrArg (Option.map Except.ok) (hfill hok)
  | some n =>
    have hn : (n : Int) < 2 ^ 63 := by
      obtain ⟨e, he, hindex⟩ := (exists_index_iff bound).mp (List.max?_eq_some_iff.mp hgreatest).1
      rw [← indexOf?_eq_some_iff.mp hindex]
      exact ht e he
    have hsize : word? ((n : Int) + 1) = some (n + 1) :=
      word?_natCast (n := n + 1) (by rw [wordLimit]; omega)
    dsimp only
    rw [hsize, Option.bind_some]
    by_cases hlimit : n + 1 ≤ limit
    · have hok : ofTable t bound = .ok ⟨n + 1, assignedIn t bound⟩ := by
        rw [ofTable, hgreatest]
        exact if_pos hlimit
      rw [if_pos hlimit, hok]
      exact congrArg (Option.map Except.ok) (hfill hok)
    · have herror : ofTable t bound = .error (.settings (.tooSparse n limit)) :=
        ofTable_eq_error_iff.mpr ⟨n, hgreatest, by omega, rfl⟩
      have hback : word? (((n + 1 : Nat) : Int) - 1) = some n := by
        rw [Nat.cast_add, Nat.cast_one, add_sub_cancel_right]
        exact word?_natCast (by rw [wordLimit]; omega)
      rw [if_neg hlimit, herror, hback]
      rfl

/-! ### The slots of a table -/

/-- Slots reach as far as the greatest index. -/
theorem size_of_ofTable (h : ofTable t bound = .ok slots) :
    slots.size = (greatest? t bound).elim 0 (· + 1) := by
  unfold ofTable at h
  split at h
  · next hnone =>
    cases h
    rw [hnone]
    rfl
  · next n hsome =>
    split_ifs at h
    cases h
    rw [hsome]
    rfl

/-- The wording of the failure names the greatest value of an entry. -/
theorem message_of_ofTable {failure : Failure} (h : ofTable t bound = .error failure) :
    ∃ greatest, t.greatest? = some greatest
      ∧ failure.message = "Configuration error: values up to ".toList ++ Text.ofInt greatest
          ++ " are too sparse for a flat array (limit 65536)".toList := by
  obtain ⟨n, hn, -, rfl⟩ := ofTable_eq_error_iff.mp h
  rw [greatest?_eq, Option.bind_eq_some_iff] at hn
  obtain ⟨greatest, hgreatest, hindex⟩ := hn
  obtain rfl := indexOf?_eq_some_iff.mp hindex
  have hmessage : (Failure.settings (.tooSparse n limit)).message
      = "Configuration error: ".toList ++ ("values up to ".toList ++ Text.ofNat n
          ++ " are too sparse for a flat array (limit ".toList ++ Text.ofNat limit
          ++ ")".toList) := rfl
  have hlead : "Configuration error: values up to ".toList
      = "Configuration error: ".toList ++ "values up to ".toList := by decide
  have hlimit : " are too sparse for a flat array (limit 65536)".toList
      = " are too sparse for a flat array (limit ".toList ++ (Text.ofNat limit ++ ")".toList) := by
    decide +kernel
  have hgreatest' : Text.ofInt n = Text.ofNat n := rfl
  refine ⟨n, hgreatest, ?_⟩
  simp only [hmessage, hlead, hlimit, hgreatest', List.append_assoc]

/-- As many slots as there are numbers from 0 to the greatest value of an entry. -/
theorem size_eq_of_greatest? (h : ofTable t bound = .ok slots) {m : Int}
    (hm : t.greatest? = some m) (hnonneg : 0 ≤ m) : (slots.size : Int) = m + 1 := by
  obtain ⟨n, rfl⟩ := Int.eq_ofNat_of_zero_le hnonneg
  rw [size_of_ofTable h, greatest?_eq, hm]
  rfl

theorem size_eq_zero (h : ofTable t bound = .ok slots) (hm : ∀ m, t.greatest? = some m → m < 0) :
    slots.size = 0 := by
  have hnone : greatest? t bound = none := by
    rw [greatest?_eq, Option.bind_eq_none_iff]
    intro m hgreatest
    obtain ⟨n, rfl⟩ := Int.eq_negSucc_of_lt_zero (hm m hgreatest)
    rfl
  rw [size_of_ofTable h, hnone]
  rfl

/-- **The slots of a table.**  For every header and every bound, the slots are computed without an
overflow or a write outside the vector.  There are none exactly if the value of some entry is 65536
or more, and the failure then names the greatest; otherwise there is one for every number up to the
greatest value, and each holds the last of the entries with its value that are not the bound. -/
theorem ofTable_build (stem : Text) (definitions : List Definition) (bound : Option Text) :
    let t := Table.build stem definitions
    vector? t bound = some ((ofTable t bound).map vector)
      ∧ ((∃ fault, ofTable t bound = .error (.settings fault))
          ↔ ∃ e ∈ t.entries, 65536 ≤ e.value)
      ∧ (∀ failure, ofTable t bound = .error failure →
          ∃ greatest, t.greatest? = some greatest
            ∧ failure.message = "Configuration error: values up to ".toList
                ++ Text.ofInt greatest
                ++ " are too sparse for a flat array (limit 65536)".toList)
      ∧ ((∀ e ∈ t.entries, e.value < 65536) →
          ∃ slots, ofTable t bound = .ok slots
            ∧ (∀ m, t.greatest? = some m → 0 ≤ m → (slots.vector.length : Int) = m + 1)
            ∧ ((∀ m, t.greatest? = some m → m < 0) → slots.vector.length = 0)
            ∧ ∀ i < slots.vector.length, slots.vector[i]? = some (t.entries.filter fun e =>
                e.value = (i : Int) ∧ some e.name ≠ bound).getLast?) := by
  intro t
  have herror : (∃ failure, ofTable t bound = .error failure) ↔ ∃ e ∈ t.entries, 65536 ≤ e.value :=
    exists_error_iff bound
  refine ⟨vector?_eq Table.lt_of_mem_build bound, ?_, fun failure => message_of_ofTable,
    fun hlt => ?_⟩
  · rw [← herror]
    constructor
    · rintro ⟨fault, hfault⟩
      exact ⟨_, hfault⟩
    · rintro ⟨failure, hfailure⟩
      obtain ⟨fault, rfl⟩ := exists_fault_of_ofTable hfailure
      exact ⟨fault, hfailure⟩
  · cases hslots : ofTable t bound with
    | error failure =>
      obtain ⟨e, he, hle⟩ := herror.mp ⟨failure, hslots⟩
      exact absurd (hlt e he) (not_lt.mpr hle)
    | ok slots =>
      refine ⟨slots, rfl, ?_, ?_, fun i hi => ?_⟩
      · rw [length_vector]
        exact fun m => size_eq_of_greatest? hslots
      · rw [length_vector]
        exact size_eq_zero hslots
      · rw [length_vector] at hi
        rw [getElem?_vector hi, get?, (assigned_of_ofTable hslots).1, find?_assignedIn]

/-- A value below zero, a value that two entries share, and a bound that takes the greatest value
after another entry; and a bound that has no entry, with values at the limit and past it. -/
theorem ofTable_build_at_shared_bound :
    let low : List Definition := [⟨"N".toList, "-2".toList⟩, ⟨"A".toList, "3".toList⟩,
      ⟨"B".toList, "1".toList⟩, ⟨"C".toList, "1".toList⟩, ⟨"M".toList, "3".toList⟩]
    let high : List Definition := [⟨"A".toList, "0x10000".toList⟩, ⟨"B".toList, "70000".toList⟩]
    (∃ slots, ofTable (Table.build [] low) (some "M".toList) = .ok slots
        ∧ vector? (Table.build [] low) (some "M".toList) = some (.ok slots.vector)
        ∧ slots.vector = [none, some ⟨"C".toList, 1, "1".toList, []⟩, none,
            some ⟨"A".toList, 3, "3".toList, []⟩])
      ∧ ∃ failure, ofTable (Table.build [] high) (some "M".toList) = .error failure
        ∧ failure.message = "Configuration error: values up to ".toList ++ "70000".toList
            ++ " are too sparse for a flat array (limit 65536)".toList := by
  intro low high
  constructor
  · obtain ⟨hvector, -, -, hslots⟩ := ofTable_build [] low (some "M".toList)
    obtain ⟨slots, hok, hlength, -, hget⟩ := hslots (by decide)
    have hfour : slots.vector.length = 4 := by
      have hcast := hlength 3 (by decide) (by decide)
      omega
    rw [hok] at hvector
    refine ⟨slots, hok, hvector, List.ext_getElem? fun i => ?_⟩
    rw [hfour] at hget
    by_cases hi : i < 4
    · rw [hget i hi]
      interval_cases i <;> decide
    · rw [List.getElem?_eq_none (by omega), List.getElem?_eq_none (by simpa using hi)]
  · obtain ⟨-, hfails, hmessage, -⟩ := ofTable_build [] high (some "M".toList)
    obtain ⟨fault, hfault⟩ := hfails.mpr (by decide)
    obtain ⟨greatest, hgreatest, hnames⟩ := hmessage _ hfault
    obtain rfl : greatest = 70000 := Option.some.inj (hgreatest.symm.trans (by decide))
    exact ⟨_, hfault, hnames⟩

end Slots

end NameTables
