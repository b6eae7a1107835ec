import Mathlib.Tactic.SplitIfs
import NameTables.Proofs.Artefact.Basic

/-!
# Reading a flat array back

The length of the array, each index and each quoted name are told from what stands around them:
a number ends where its digits end, and no name holds a quote.  Every assigned index is below the
length, since the length is one more than the greatest index of an entry or of the bound.

## Main definitions

* `Text.readNat?` — the number at the beginning of a text.
* `Slots.readAssignment?`, `Slots.readAssignments?` — the reader of one and of all assignments.
* `Slots.read?` — the reader of an artefact.

## Main statements

* `Slots.assigned_of_ofTable` — an assigned index is below the length of the array.
* `Slots.readAssignment?_assignment` — reading an assignment gives its index and its names.
* `Slots.read?_text` — reading an artefact gives its length and its assigned slots.
* `Artefact.readBack_slots` — what is read back from the artefact of a header.
-/

namespace NameTables

/-! ### Numbers -/

/-- The number at the beginning of a text, and what follows its digits. -/
def Text.readNat? (s : Text) : Option (Nat × Text) :=
  match s.takeWhile Char.isDigit with
  | [] => none
  | digits => some (Nat.ofDigitChars 10 digits 0, s.dropWhile Char.isDigit)

namespace Text

theorem isDigit_of_mem_ofNat {n : Nat} {c : Char} (h : c ∈ ofNat n) : c.isDigit :=
  Nat.isDigit_of_mem_toDigits (by decide) (by decide) h

/-- Reading a number gives it, if no digit follows. -/
theorem readNat?_ofNat_append (n : Nat) {c : Char} (hc : c.isDigit = false) (rest : Text) :
    readNat? (ofNat n ++ c :: rest) = some (n, c :: rest) := by
  have hdigits : ∀ c ∈ ofNat n, c.isDigit := fun _ => isDigit_of_mem_ofNat
  have htake : (ofNat n ++ c :: rest).takeWhile Char.isDigit = ofNat n := by
    rw [List.takeWhile_append_of_pos hdigits, List.takeWhile_cons_of_neg (by simp [hc]),
      List.append_nil]
  have hdrop : (ofNat n ++ c :: rest).dropWhile Char.isDigit = c :: rest := by
    rw [List.dropWhile_append_of_pos hdigits, List.dropWhile_cons_of_neg (by simp [hc])]
  rw [readNat?, htake, hdrop]
  split
  · next hnil => exact absurd hnil Nat.toDigits_ne_nil
  · next hcons => rw [ofNat, Nat.ofDigitChars_ten_toDigits]

theorem length_le_of_readNat? {s rest : Text} {n : Nat} (h : readNat? s = some (n, rest)) :
    rest.length ≤ s.length := by
  unfold readNat? at h
  split at h
  · cases h
  · cases h
    exact (List.dropWhile_suffix _).length_le

theorem length_of_dropLead? {lead s rest : Text} (h : dropLead? lead s = some rest) :
    s.length = lead.length + rest.length := by
  rw [dropLead?_eq_some_iff.mp h, List.length_append]

end Text

namespace Slots

/-! ### The reader -/

/-- What stands in front of the index column of an assignment. -/
def assignmentLead (arrayName : Text) : Text := "    ".toList ++ (arrayName ++ "[ ".toList)

/-- The index and the names of the assignment at the beginning of a text, and what follows it. -/
def readAssignment? (arrayName s : Text) : Option ((Nat × Text) × Text) :=
  (Text.dropLead? (assignmentLead arrayName) s).bind fun column =>
    (Text.readNat? (column.dropWhile (· == ' '))).bind fun (index, equals) =>
      (Text.dropLead? " ] = \"".toList equals).bind fun names =>
        (Text.dropLead? "\";\n".toList (names.dropWhile (· != '\x22'))).map fun rest =>
          ((index, names.takeWhile (· != '\x22')), rest)

/-- An assignment takes up some of the text. -/
theorem length_lt_of_readAssignment? {arrayName s rest : Text} {assigned : Nat × Text}
    (h : readAssignment? arrayName s = some (assigned, rest)) : rest.length < s.length := by
  obtain ⟨column, hcolumn, h⟩ := Option.bind_eq_some_iff.mp h
  obtain ⟨⟨index, equals⟩, hindex, h⟩ := Option.bind_eq_some_iff.mp h
  obtain ⟨names, hnames, h⟩ := Option.bind_eq_some_iff.mp h
  obtain ⟨rest', hrest, h⟩ := Option.map_eq_some_iff.mp h
  cases h
  have h₁ := Text.length_of_dropLead? hcolumn
  have h₂ := (List.dropWhile_suffix (l := column) (· == ' ')).length_le
  have h₃ := Text.length_le_of_readNat? hindex
  have h₄ := Text.length_of_dropLead? hnames
  have h₅ := (List.dropWhile_suffix (l := names) (· != '\x22')).length_le
  have h₆ := Text.length_of_dropLead? hrest
  have hquote : "\";\n".toList.length = 3 := rfl
  omega

/-- The assignments of a routine, up to the brace that closes it. -/
def readAssignments? (arrayName s : Text) : Option (List (Nat × Text)) :=
  if s = closing then some []
  else
    match _h : readAssignment? arrayName s with
    | none => none
    | some (assigned, rest) => (readAssignments? arrayName rest).map (assigned :: ·)
termination_by s.length
decreasing_by exact length_lt_of_readAssignment? _h

/-- What stands in front of the length of the array. -/
def declarationLead (comment arrayName : Text) : Text :=
  commentLine comment ++ ("\n\n".toList ++ ("char *".toList ++ (arrayName ++ ['['])))

/-- What stands between the length of the array and the assignments. -/
def routineLead (arrayName : Text) : Text :=
  "] = \x7b0\x7d;\n\n".toList ++ ("void init_".toList ++ (arrayName ++ " (void) \x7b\n".toList))

/-- The length of the array, and the index and the names of each assignment. -/
def read? (comment arrayName text : Text) : Option (Nat × List (Nat × Text)) :=
  (Text.dropLead? (declarationLead comment arrayName) text).bind fun declaration =>
    (Text.readNat? declaration).bind fun (size, body) =>
      (Text.dropLead? (routineLead arrayName) body).bind fun routine =>
        (readAssignments? arrayName routine).map fun assigned => (size, assigned)

/-! ### Reading the artefact -/

/-- An assignment, part by part: the index column, the quoted names and the line end. -/
theorem assignment_append_eq (arrayName : Text) (width index : Nat) (e : Entry) (tail : Text) :
    assignment arrayName width index e ++ tail
      = assignmentLead arrayName
          ++ (List.replicate (width - (Text.ofNat index).length) ' ' ++ (Text.ofNat index
            ++ ' ' :: ("] = \"".toList ++ (e.display ++ '\x22' :: (";\n".toList ++ tail))))) := by
  unfold assignment assignmentLead Text.padLeft
  simp only [List.append_assoc]
  rfl

theorem head?_ofNat_append (n : Nat) (s : Text) : (Text.ofNat n ++ s).head? ≠ some ' ' := by
  intro h
  rw [List.head?_append_of_ne_nil (Text.ofNat n) Nat.toDigits_ne_nil] at h
  have hdigit := Text.isDigit_of_mem_ofNat (List.mem_of_mem_head? h)
  cases hdigit

/-- Reading an assignment gives its index and its names, and leaves what follows it. -/
theorem readAssignment?_assignment (arrayName : Text) (width index : Nat) {e : Entry}
    (he : '\x22' ∉ e.display) (tail : Text) :
    readAssignment? arrayName (assignment arrayName width index e ++ tail)
      = some ((index, e.display), tail) := by
  have hequals : ∀ s, Text.dropLead? " ] = \"".toList (' ' :: ("] = \"".toList ++ s)) = some s :=
    fun _ => rfl
  have hend : ∀ s, Text.dropLead? "\";\n".toList ('\x22' :: (";\n".toList ++ s)) = some s :=
    fun _ => rfl
  rw [readAssignment?, assignment_append_eq, Text.dropLead?_append, Option.bind_some,
    dropWhile_replicate_append _ (head?_ofNat_append index _),
    Text.readNat?_ofNat_append index (by decide), Option.bind_some]
  dsimp only
  rw [hequals, Option.bind_some, dropWhile_append_cons_self he, takeWhile_append_cons_self he, hend,
    Option.map_some]

theorem readAssignments?_closing (arrayName : Text) :
    readAssignments? arrayName closing = some [] := by
  rw [readAssignments?, if_pos rfl]

theorem readAssignments?_of_some {arrayName s rest : Text} {assigned : Nat × Text}
    (hs : s ≠ closing) (h : readAssignment? arrayName s = some (assigned, rest)) :
    readAssignments? arrayName s = (readAssignments? arrayName rest).map (assigned :: ·) := by
  rw [readAssignments?, if_neg hs]
  split
  · next hnone => rw [h] at hnone; cases hnone
  · next hsome => rw [h] at hsome; cases hsome; rfl

/-- Reading the assignments one after another gives all of them. -/
theorem readAssignments?_flatMap (arrayName : Text) (width : Nat) {assigned : Ranking Nat Entry}
    (hassigned : ∀ p ∈ assigned, '\x22' ∉ p.2.display) :
    readAssignments? arrayName
        (assigned.flatMap (fun (index, e) => assignment arrayName width index e) ++ closing)
      = some (assigned.map fun (index, e) => (index, e.display)) := by
  induction assigned with
  | nil => exact readAssignments?_closing arrayName
  | cons p assigned ih =>
    obtain ⟨index, e⟩ := p
    rw [List.forall_mem_cons] at hassigned
    have hread := readAssignment?_assignment arrayName width index hassigned.1
      (assigned.flatMap (fun (index, e) => assignment arrayName width index e) ++ closing)
    rw [List.flatMap_cons, List.append_assoc, readAssignments?_of_some ?_ hread, ih hassigned.2]
    · rfl
    · intro h
      cases h

/-- An artefact, part by part: the declaration up to the length, the length, the head of the
routine and what is in it. -/
theorem text_eq (s : Slots) (comment arrayName : Text) :
    ∃ tail, routineLead arrayName = ']' :: tail
      ∧ s.text comment arrayName = declarationLead comment arrayName
        ++ (Text.ofNat s.size ++ ']' :: (tail
          ++ (s.assigned.flatMap (fun (index, e) => assignment arrayName s.indexWidth index e)
            ++ closing))) := by
  refine ⟨" = \x7b0\x7d;\n\n".toList ++ ("void init_".toList ++ (arrayName
    ++ " (void) \x7b\n".toList)), rfl, ?_⟩
  unfold text opening declarationLead
  simp only [List.append_assoc]
  rfl

/-- Reading an artefact gives its length and its assigned slots. -/
theorem read?_text {s : Slots} (hassigned : ∀ p ∈ s.assigned, '\x22' ∉ p.2.display)
    (comment arrayName : Text) :
    read? comment arrayName (s.text comment arrayName)
      = some (s.size, s.assigned.map fun (index, e) => (index, e.display)) := by
  obtain ⟨tail, hlead, htext⟩ := text_eq s comment arrayName
  rw [read?, htext, Text.dropLead?_append, Option.bind_some,
    Text.readNat?_ofNat_append s.size (by decide), Option.bind_some]
  dsimp only
  rw [← List.cons_append, ← hlead, Text.dropLead?_append, Option.bind_some,
    readAssignments?_flatMap arrayName s.indexWidth hassigned, Option.map_some]

/-! ### The slots of a table -/

theorem indexOf?_eq_some_iff {value : Int} {i : Nat} : indexOf? value = some i ↔ value = i := by
  cases value with
  | ofNat n =>
    rw [indexOf?, Option.some_inj]
    exact Int.ofNat_inj.symm
  | negSucc n => simp [indexOf?]

/-- An assigned entry is an entry of the table. -/
theorem mem_entries_of_mem_assignedIn {t : Table} {bound : Option Text} {p : Nat × Entry}
    (h : p ∈ assignedIn t bound) : p.2 ∈ t.entries := by
  obtain ⟨e, he, hp⟩ := List.mem_filterMap.mp (Ranking.mem_of_mem_ofList h)
  obtain ⟨i, -, rfl⟩ := Option.map_eq_some_iff.mp hp
  exact (List.mem_filter.mp he).1

/-- The assigned slots are those of the table, and each index is below the length. -/
theorem assigned_of_ofTable {t : Table} {bound : Option Text} {s : Slots}
    (h : ofTable t bound = .ok s) :
    s.assigned = assignedIn t bound ∧ ∀ p ∈ s.assigned, p.1 < s.size := by
  unfold ofTable at h
  split at h
  · next hnone =>
    cases h
    obtain ⟨hkeys, -⟩ := List.append_eq_nil_iff.mp (List.max?_eq_none_iff.mp hnone)
    rw [List.map_eq_nil_iff.mp hkeys]
    exact ⟨rfl, fun p hp => (List.not_mem_nil hp).elim⟩
  · next n hsome =>
    split_ifs at h
    cases h
    refine ⟨rfl, fun p hp => ?_⟩
    have hmem : p.1 ∈ (assignedIn t bound).map Prod.fst ++ (boundIndex? t bound).toList :=
      List.mem_append_left _ (List.mem_map_of_mem hp)
    exact Nat.lt_succ_of_le ((List.max?_eq_some_iff.mp hsome).2 p.1 hmem)

theorem exists_of_render {t : Table} {comment arrayName text : Text} {bound : Option Text}
    (h : render t comment arrayName bound = .ok text) :
    ∃ s, ofTable t bound = .ok s ∧ s.text comment arrayName = text := by
  unfold render at h
  cases hs : ofTable t bound with
  | error failure =>
    rw [hs] at h
    cases h
  | ok s =>
    rw [hs] at h
    exact ⟨s, rfl, Except.ok.inj h⟩

/-- The assigned slots are read off by looking into each slot in turn. -/
theorem map_assigned_eq {β : Type} {s : Slots} (hsorted : Ranking.Sorted s.assigned)
    (hlt : ∀ p ∈ s.assigned, p.1 < s.size) (f : Entry → β) :
    (s.assigned.map fun (i, e) => (i, f e))
      = (List.range s.size).filterMap fun i => (s.get? i).map fun e => (i, f e) := by
  conv_lhs => rw [← Ranking.filterMap_range_find? hsorted hlt]
  rw [List.map_filterMap]
  refine List.filterMap_congr fun i _ => ?_
  rw [Option.map_map]
  rfl

end Slots

/-- **A flat array is safe and faithful.**  From the text of the artefact a reader that knows the
request gets the length of the array and, in ascending order, every assigned index, which is below
that length, with the names that stand in its slot. -/
theorem Artefact.readBack_slots {stem comment arrayName : Text} {bound : Option Text}
    {source : Bytes} {sourceName : Text} {artefact : Artefact}
    (h : generate source sourceName ⟨stem, .slots arrayName bound, comment⟩ = .ok artefact) :
    ∃ slots, Slots.ofTable (tableOf stem source) bound = .ok slots ∧ ∃ assigned,
      Slots.read? comment arrayName artefact.text = some (slots.size, assigned)
        ∧ assigned.Pairwise (fun p q => p.1 < q.1)
        ∧ (∀ p ∈ assigned, p.1 < slots.size)
        ∧ assigned = (List.range slots.size).filterMap fun i =>
            (slots.get? i).map fun e => (i, e.display) := by
  obtain ⟨-, hrender, -⟩ := generate_eq_ok_iff.mp h
  obtain ⟨slots, hslots, htext⟩ := Slots.exists_of_render hrender
  obtain ⟨hassigned, hlt⟩ := Slots.assigned_of_ofTable hslots
  have hsorted : Ranking.Sorted slots.assigned := by
    rw [hassigned]
    exact Ranking.sorted_ofList _
  have hquote : ∀ p ∈ slots.assigned, '\x22' ∉ p.2.display := by
    intro p hp
    rw [hassigned] at hp
    have hform := wellFormed_of_mem_entries p.2 (Slots.mem_entries_of_mem_assignedIn hp)
    exact hform.not_mem_display (by decide) rfl
  refine ⟨slots, hslots, _, htext ▸ Slots.read?_text hquote comment arrayName, ?_, ?_, ?_⟩
  · exact List.pairwise_map.mpr hsorted
  · intro p hp
    obtain ⟨q, hq, rfl⟩ := List.mem_map.mp hp
    exact hlt q hq
  · exact Slots.map_assigned_eq hsorted hlt Entry.display

/-- A negative value, a value that two entries share, and a bound that takes no slot. -/
theorem Artefact.readBack_slots_keycodes :
    let source : Bytes := Text.encode
      "#define K_OFF -1\n#define K_A 1\n#define K_MAX 3\n#define K_END 0x1\n#define K_Z K_END".toList
    let request : Request := ⟨"K_".toList, .slots "keys".toList (some "MAX".toList), "made".toList⟩
    ∃ artefact, generate source "a.h".toList request = .ok artefact
      ∧ Slots.read? "made".toList "keys".toList artefact.text
        = some (4, [(1, "END/Z".toList)]) := by
  intro source request
  have hmade : ∃ artefact, generate source "a.h".toList request = .ok artefact := ⟨_, rfl⟩
  obtain ⟨artefact, h⟩ := hmade
  obtain ⟨slots, hslots, assigned, hread, -, -, hassigned⟩ := readBack_slots h
  have hslots' : Slots.ofTable (tableOf request.stem source) (some "MAX".toList)
      = .ok ⟨4, [(1, ⟨"END".toList, 1, "0x1".toList, ["Z".toList]⟩)]⟩ := rfl
  obtain rfl := Except.ok.inj (hslots.symm.trans hslots')
  refine ⟨artefact, h, ?_⟩
  rw [hread, hassigned]
  rfl

end NameTables
