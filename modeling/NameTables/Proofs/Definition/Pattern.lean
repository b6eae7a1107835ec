import Mathlib.Data.List.TakeWhile
import Mathlib.Tactic.SplitIfs
import NameTables.Text.Basic

/-!
# Patterns

A pattern is matched by trying.  Of a run of characters the longest is tried first, and a shorter
one only if the rest of the pattern does not match behind the longer ones.  So all ways to match
the beginning of a text stand in an order, and the first of them is the match.

## Main definitions

* `Pattern`, `Match` — patterns, and ways to match one.
* `Pattern.ways` — all ways to match the beginning of a text, in the order of trying.
* `Pattern.captures?` — what the groups of the first match hold.

## Main statements

* `Pattern.findSome?_runs` — where nothing can follow a shorter run, only the longest counts.
* `Pattern.captures?_run_seq`, `Pattern.captures?_group_run_seq` — so a run in front of the rest of
  a pattern is matched in one way.
-/

namespace NameTables

/-- A pattern for the beginning of a text. -/
inductive Pattern
  /-- These characters. -/
  | text (s : Text)
  /-- One character of a class. -/
  | one (p : Char → Bool)
  /-- Characters of a class, as many as possible, and none if need be. -/
  | many (p : Char → Bool)
  /-- One pattern after the other. -/
  | seq (a b : Pattern)
  /-- A pattern of which it is kept what it matches. -/
  | group (a : Pattern)

/-- A way to match the beginning of a text. -/
structure Match where
  /-- What is matched. -/
  taken : Text
  /-- What the groups hold, in the order in which they begin. -/
  groups : List Text
  /-- What follows. -/
  rest : Text

/-- A match and then another. -/
def Match.andThen (m m' : Match) : Match := ⟨m.taken ++ m'.taken, m.groups ++ m'.groups, m'.rest⟩

/-- A match that is kept as a group. -/
def Match.kept (m : Match) : Match := { m with groups := m.taken :: m.groups }

namespace Pattern

/-- The runs of a class at the beginning of a text, each with what follows it, the longest first. -/
def runs (p : Char → Bool) : Text → List (Text × Text)
  | [] => [([], [])]
  | c :: s => (if p c then (runs p s).map fun (t, r) => (c :: t, r) else []) ++ [([], c :: s)]

@[simp] theorem runs_nil (p : Char → Bool) : runs p [] = [([], [])] := rfl

theorem runs_cons (p : Char → Bool) (c : Char) (s : Text) :
    runs p (c :: s)
      = (if p c then (runs p s).map fun (t, r) => (c :: t, r) else []) ++ [([], c :: s)] := rfl

/-- All ways to match the beginning of a text, in the order of trying. -/
def ways : Pattern → Text → List Match
  | text t, s => (Text.dropLead? t s).toList.map fun r => ⟨t, [], r⟩
  | one _, [] => []
  | one p, c :: s => if p c then [⟨[c], [], s⟩] else []
  | many p, s => (runs p s).map fun (t, r) => ⟨t, [], r⟩
  | seq a b, s => (a.ways s).flatMap fun m => (b.ways m.rest).map m.andThen
  | group a, s => (a.ways s).map Match.kept

/-- One character of a class or more of them. -/
def run (p : Char → Bool) : Pattern := seq (one p) (many p)

/-- What the groups of the first match hold. -/
def captures? (a : Pattern) (s : Text) : Option (List Text) := (a.ways s).head?.map Match.groups

variable {p : Char → Bool} {a b : Pattern} {s : Text}

/-! ### Runs -/

/-- Where nothing can follow a shorter run, only the longest counts. -/
theorem findSome?_runs {β : Type} {k : Text × Text → Option β}
    (hk : ∀ t c r, p c → k (t, c :: r) = none) :
    (runs p s).findSome? k = k (s.takeWhile p, s.dropWhile p) := by
  induction s generalizing k with
  | nil => simp
  | cons c s ih =>
    rw [runs_cons]
    by_cases hc : p c
    · rw [if_pos hc, List.findSome?_append, List.findSome?_map,
        ih fun t d r hd => hk (c :: t) d r hd, List.findSome?_singleton, hk [] c s hc,
        Option.or_none, List.takeWhile_cons_of_pos hc, List.dropWhile_cons_of_pos hc]
      rfl
    · rw [if_neg hc, List.nil_append, List.findSome?_singleton, List.takeWhile_cons_of_neg hc,
        List.dropWhile_cons_of_neg hc]

theorem head?_runs (p : Char → Bool) (s : Text) :
    (runs p s).head? = some (s.takeWhile p, s.dropWhile p) := by
  induction s with
  | nil => rfl
  | cons c s ih =>
    rw [runs_cons]
    by_cases hc : p c
    · rw [if_pos hc, List.head?_append, List.head?_map, ih, List.takeWhile_cons_of_pos hc,
        List.dropWhile_cons_of_pos hc]
      rfl
    · rw [if_neg hc, List.takeWhile_cons_of_neg hc, List.dropWhile_cons_of_neg hc]
      rfl

theorem findSome?_ways_run_cons {β : Type} (k : Match → Option β) (c : Char) (s : Text) :
    ((run p).ways (c :: s)).findSome? k
      = if p c then (runs p s).findSome? fun (t, r) => k ⟨c :: t, [], r⟩ else none := by
  simp only [run, ways]
  split_ifs
  · rw [List.flatMap_singleton, List.map_map, List.findSome?_map]
    rfl
  · rfl

/-- A run in front of what cannot follow a shorter one. -/
theorem findSome?_ways_run {β : Type} {k : Match → Option β}
    (hk : ∀ t gs c r, p c → k ⟨t, gs, c :: r⟩ = none) :
    ((run p).ways s).findSome? k
      = if s.takeWhile p = [] then none else k ⟨s.takeWhile p, [], s.dropWhile p⟩ := by
  cases s with
  | nil => rfl
  | cons c s =>
    rw [findSome?_ways_run_cons]
    by_cases hc : p c
    · rw [if_pos hc, findSome?_runs fun t d r hd => hk (c :: t) [] d r hd,
        List.takeWhile_cons_of_pos hc, List.dropWhile_cons_of_pos hc, if_neg (List.cons_ne_nil _ _)]
    · rw [if_neg hc, List.takeWhile_cons_of_neg hc, if_pos rfl]

/-! ### Groups -/

theorem captures?_seq (a b : Pattern) (s : Text) :
    (seq a b).captures? s
      = (a.ways s).findSome? fun m => (b.captures? m.rest).map (m.groups ++ ·) := by
  rw [captures?, ways, List.head?_flatMap, List.map_findSome?]
  congr 1
  funext m
  rw [Function.comp_apply, List.head?_map, captures?, Option.map_map, Option.map_map]
  rfl

/-- Given characters in front of the rest of a pattern. -/
theorem captures?_text_seq (t : Text) (b : Pattern) (s : Text) :
    (seq (text t) b).captures? s = (Text.dropLead? t s).bind b.captures? := by
  rw [captures?_seq, ways]
  cases Text.dropLead? t s with
  | none => rfl
  | some r =>
    simp

/-- A run in front of a pattern that can follow the longest run only. -/
theorem captures?_run_seq (hb : ∀ c r, p c → b.captures? (c :: r) = none) (s : Text) :
    (seq (run p) b).captures? s
      = if s.takeWhile p = [] then none else b.captures? (s.dropWhile p) := by
  rw [captures?_seq, findSome?_ways_run fun t gs c r hc => by simp [hb c r hc]]
  simp

/-- A run that is kept, in front of a pattern that can follow the longest run only. -/
theorem captures?_group_run_seq (hb : ∀ c r, p c → b.captures? (c :: r) = none) (s : Text) :
    (seq (group (run p)) b).captures? s
      = if s.takeWhile p = [] then none
        else (b.captures? (s.dropWhile p)).map (s.takeWhile p :: ·) := by
  rw [captures?_seq, ways, List.findSome?_map,
    findSome?_ways_run fun t gs c r hc => by simp [Match.kept, hb c r hc]]
  rfl

end Pattern

end NameTables
