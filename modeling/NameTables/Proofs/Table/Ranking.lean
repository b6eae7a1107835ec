import Mathlib.Data.List.Induction
import Mathlib.Data.List.Sort
import NameTables.Table.Order

/-!
# Rankings are sorted

Inserting under a key keeps the keys in strictly ascending order, so each key stands once, and
what stands under it is the one pair with that key.  A ranking by numbers below a bound is
therefore read off by asking for each number in turn.

## Main definitions

* `Ranking.Sorted` — the keys ascend strictly.

## Main statements

* `Ranking.sorted_ofList` — every ranking of a list is sorted.
* `Ranking.mem_of_mem_ofList` — it holds pairs of the list only.
* `Ranking.find?_ofList` — under a key stands the last pair of the list with that key.
* `Ranking.Sorted.ext` — a sorted ranking is told by its members.
* `Ranking.filterMap_range_find?` — a sorted ranking is read off key by key.
-/

namespace NameTables

namespace Ranking

variable {κ α : Type}

section Members

variable [DecidableEq κ] [LT κ] [DecidableLT κ]

theorem mem_of_mem_insert {k : κ} {a : α} {r : Ranking κ α} {p : κ × α}
    (h : p ∈ insert k a r) : p = (k, a) ∨ p ∈ r := by
  induction r with
  | nil => exact .inl (List.mem_singleton.mp h)
  | cons entry r ih =>
    obtain ⟨k', a'⟩ := entry
    unfold insert at h
    split_ifs at h
    · exact (List.mem_cons.mp h).imp id (List.mem_cons_of_mem _)
    · exact List.mem_cons.mp h
    · rcases List.mem_cons.mp h with h | h
      · exact .inr (List.mem_cons.mpr (.inl h))
      · exact (ih h).imp id (List.mem_cons_of_mem _)

theorem mem_of_mem_foldl_insert {l : List (κ × α)} {r : Ranking κ α} {p : κ × α}
    (h : p ∈ l.foldl (fun r (k, a) => insert k a r) r) : p ∈ r ∨ p ∈ l := by
  induction l generalizing r with
  | nil => exact .inl h
  | cons q l ih =>
    rcases ih h with h | h
    · rcases mem_of_mem_insert h with h | h
      · exact .inr (List.mem_cons.mpr (.inl h))
      · exact .inl h
    · exact .inr (List.mem_cons_of_mem _ h)

/-- The ranking of a list holds pairs of the list only. -/
theorem mem_of_mem_ofList {l : List (κ × α)} {p : κ × α} (h : p ∈ ofList l) : p ∈ l :=
  (mem_of_mem_foldl_insert h).resolve_left List.not_mem_nil

/-- Under a key stands the last pair of the list with that key. -/
theorem find?_ofList (l : List (κ × α)) (k : κ) :
    find? (ofList l) k = ((l.filter fun p => p.1 = k).map Prod.snd).getLast? := by
  induction l using List.reverseRecOn with
  | nil => rfl
  | append_singleton l p ih =>
    have hconcat : ofList (l ++ [p]) = insert p.1 p.2 (ofList l) := List.foldl_concat _ _ p l
    rw [hconcat, find?_insert, List.filter_append, List.map_append, List.getLast?_append, ih]
    by_cases h : p.1 = k
    · simp [h]
    · simp [h]

end Members

variable [LinearOrder κ]

/-- The keys ascend strictly. -/
def Sorted (r : Ranking κ α) : Prop := r.Pairwise fun p q => p.1 < q.1

theorem Sorted.insert {r : Ranking κ α} (h : Sorted r) (k : κ) (a : α) :
    Sorted (Ranking.insert k a r) := by
  induction r with
  | nil => exact List.pairwise_singleton _ _
  | cons entry r ih =>
    obtain ⟨k', a'⟩ := entry
    obtain ⟨hhead, htail⟩ := List.pairwise_cons.mp h
    unfold Ranking.insert
    split_ifs with heq hlt
    · subst heq
      exact List.pairwise_cons.mpr ⟨hhead, htail⟩
    · refine List.pairwise_cons.mpr ⟨fun p hp => ?_, h⟩
      rcases List.mem_cons.mp hp with rfl | hp
      · exact hlt
      · exact lt_trans hlt (hhead p hp)
    · refine List.pairwise_cons.mpr ⟨fun p hp => ?_, ih htail⟩
      rcases mem_of_mem_insert hp with rfl | hp
      · exact lt_of_le_of_ne (not_lt.mp hlt) (Ne.symm heq)
      · exact hhead p hp

/-- Every ranking of a list is sorted. -/
theorem sorted_ofList (l : List (κ × α)) : Sorted (ofList l) := by
  suffices key : ∀ r : Ranking κ α, Sorted r →
      Sorted (l.foldl (fun r (k, a) => Ranking.insert k a r) r) from key [] List.Pairwise.nil
  induction l with
  | nil => exact fun r h => h
  | cons p l ih => exact fun r h => ih _ (h.insert p.1 p.2)

/-- In a sorted ranking, what stands under a key is the one pair with that key. -/
theorem Sorted.find?_eq_some_iff {r : Ranking κ α} (h : Sorted r) {k : κ} {a : α} :
    find? r k = some a ↔ (k, a) ∈ r := by
  induction r with
  | nil => simp
  | cons entry r ih =>
    obtain ⟨k', a'⟩ := entry
    obtain ⟨hhead, htail⟩ := List.pairwise_cons.mp h
    rw [find?_cons, List.mem_cons, Prod.mk.injEq]
    split_ifs with heq
    · subst heq
      rw [Option.some.injEq]
      constructor
      · rintro rfl
        exact .inl ⟨rfl, rfl⟩
      · rintro (⟨-, rfl⟩ | hmem)
        · rfl
        · exact absurd (hhead _ hmem) (lt_irrefl _)
    · rw [ih htail]
      exact ⟨.inr, fun hor => hor.resolve_left fun hboth => heq hboth.1.symm⟩

theorem mem_ofList_iff {l : List (κ × α)} {k : κ} {a : α} :
    (k, a) ∈ ofList l ↔ ((l.filter fun p => p.1 = k).map Prod.snd).getLast? = some a := by
  rw [← (sorted_ofList l).find?_eq_some_iff, find?_ofList]

/-- The keys of a ranking are those of the list. -/
theorem mem_keys_ofList {l : List (κ × α)} {k : κ} :
    k ∈ (ofList l).map Prod.fst ↔ k ∈ l.map Prod.fst := by
  constructor
  · intro h
    obtain ⟨p, hp, rfl⟩ := List.mem_map.mp h
    exact List.mem_map_of_mem (mem_of_mem_ofList hp)
  · intro h
    obtain ⟨p, hp, rfl⟩ := List.mem_map.mp h
    have hne : (l.filter fun q => q.1 = p.1).map Prod.snd ≠ [] :=
      List.ne_nil_of_mem (List.mem_map_of_mem (List.mem_filter.mpr ⟨hp, by simp⟩))
    have hlast := List.getLast?_eq_some_getLast hne
    exact List.mem_map.mpr ⟨_, mem_ofList_iff.mpr hlast, rfl⟩

/-- Sorted rankings with the same members are the same. -/
theorem Sorted.ext {r r' : Ranking κ α} (h : Sorted r) (h' : Sorted r')
    (hmem : ∀ k a, (k, a) ∈ r ↔ (k, a) ∈ r') : r = r' := by
  have hirrefl : Std.Irrefl fun p q : κ × α => p.1 < q.1 := ⟨fun p => lt_irrefl p.1⟩
  have hanti : Std.Antisymm fun p q : κ × α => p.1 < q.1 :=
    ⟨fun p q hpq hqp => absurd hpq (lt_asymm hqp)⟩
  exact List.Pairwise.eq_of_mem_iff h h' fun p => hmem p.1 p.2

/-- A sorted ranking with keys below `n` is read off by asking for each key in turn. -/
theorem filterMap_range_find? {r : Ranking Nat α} (h : Sorted r) {n : Nat}
    (hn : ∀ p ∈ r, p.1 < n) :
    (List.range n).filterMap (fun i => (find? r i).map fun a => (i, a)) = r := by
  refine Sorted.ext ?_ h fun k a => ?_
  · refine List.pairwise_filterMap.mpr (List.pairwise_lt_range.imp fun {i j} hij p hp q hq => ?_)
    obtain ⟨a, -, rfl⟩ := Option.map_eq_some_iff.mp hp
    obtain ⟨b, -, rfl⟩ := Option.map_eq_some_iff.mp hq
    exact hij
  · rw [List.mem_filterMap]
    constructor
    · rintro ⟨i, -, hi⟩
      obtain ⟨b, hb, hpair⟩ := Option.map_eq_some_iff.mp hi
      obtain ⟨rfl, rfl⟩ := Prod.mk.inj hpair
      exact h.find?_eq_some_iff.mp hb
    · intro hp
      refine ⟨k, List.mem_range.mpr (hn _ hp), ?_⟩
      rw [h.find?_eq_some_iff.mpr hp, Option.map_some]

end Ranking

end NameTables
