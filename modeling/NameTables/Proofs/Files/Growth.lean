import Mathlib.Data.List.Infix
import Mathlib.Tactic.SplitIfs
import NameTables.Proofs.Files.Walk

/-!
# Stores that grow

What is done here to files mostly adds to them: what was there stays where it was, and of the files
that were there some get another content.  A walk that has ended at a node ends there afterwards,
since all that it has come by is still there.

## Main definitions

* `Files.Sound` — nodes are in directories, and files are known by their numbers.
* `Files.Keeps` — a store has all that another had, and no other contents but in the files named.

## Main statements

* `Files.Leads.of_keeps` — a walk goes the same way in a store that has grown.
* `Files.Leads.reachable` — a walk ends at a node, or at a free name in a directory.
-/

namespace NameTables

namespace Files

variable {fs fs₁ fs₂ : Files} {toEnd : Bool} {links n : Nat} {start dir place : Place}
  {segment : Text} {segments : List Text} {p : Path} {node : Node} {touched touched' : Nat → Prop}

/-! ### Sound stores -/

/-- Every node is in a directory, and every file is known by a number that has been given out. -/
structure Sound (fs : Files) : Prop where
  /-- What is at a place is in a directory. -/
  parent : ∀ name dir node, fs.node? (name :: dir) = some node → fs.isDirectory dir
  /-- The number of a file has been given out, and it is known what the file holds. -/
  known : ∀ place n, fs.node? place = some (.file n) → n ≤ fs.latest ∧ (fs.state? n).isSome

theorem isDirectory_iff :
    fs.isDirectory place ↔ ∃ mode, fs.node? place = some (.directory mode) := by
  rw [isDirectory]
  cases fs.node? place with
  | none => simp
  | some node => cases node <;> simp [Node.isDirectory]

/-- Is there a directory above the node, and is the file known? -/
def isSoundEntry (fs : Files) : Place × Node → Bool
  | (place, node) =>
    (match place with
      | [] => true
      | _ :: dir => fs.isDirectory dir)
    && match node with
      | .file n => decide (n ≤ fs.latest) && (fs.state? n).isSome
      | _ => true

theorem mem_nodes_of_node? (h : fs.node? place = some node) : (place, node) ∈ fs.nodes := by
  rw [node?, entryIn?, Option.map_eq_some_iff] at h
  obtain ⟨entry, hfound, rfl⟩ := h
  have hplace := List.find?_some (p := fun entry : Place × Node => decide (entry.1 = place)) hfound
  rw [← of_decide_eq_true hplace]
  exact List.mem_of_find?_eq_some hfound

/-- Whether a store is sound can be computed. -/
theorem sound_of_all (h : fs.nodes.all fs.isSoundEntry) : fs.Sound := by
  have hentry : ∀ place node, fs.node? place = some node → fs.isSoundEntry (place, node) :=
    fun _ _ hnode => List.all_eq_true.mp h _ (mem_nodes_of_node? hnode)
  refine ⟨fun name dir node hnode => ?_, fun place n hnode => ?_⟩
  · exact (Bool.and_eq_true_iff.mp (hentry _ _ hnode)).1
  · have hfile := (Bool.and_eq_true_iff.mp (hentry _ _ hnode)).2
    rwa [Bool.and_eq_true_iff, decide_eq_true_eq] at hfile

/-- What is above a directory are directories, up to the root. -/
theorem Sound.isDirectory_of_suffix (h : fs.Sound) (hplace : fs.isDirectory place)
    (hdir : dir <:+ place) : fs.isDirectory dir := by
  obtain ⟨names, rfl⟩ := hdir
  induction names with
  | nil => exact hplace
  | cons name rest ih =>
    obtain ⟨mode, hnode⟩ := isDirectory_iff.mp hplace
    exact ih (h.parent name _ _ hnode)

/-! ### Where walks end -/

theorem isDirectory_of_enter (h : fs.enter start segment = .ok place) : fs.isDirectory start := by
  rw [enter] at h
  split at h
  · cases h
  · next mode hnode => exact isDirectory_iff.mpr ⟨mode, hnode⟩
  · cases h

/-- In which directory a segment is taken does not matter to where it leads from there. -/
theorem enter_of_isDirectory (hstart : fs.isDirectory start) : fs.enter start segment
    = .ok (if segment = ['.'] then start
        else if segment = ['.', '.'] then start.tail else segment :: start) := by
  obtain ⟨mode, hnode⟩ := isDirectory_iff.mp hstart
  simp only [enter, hnode]
  split_ifs <;> rfl

/-- There is a node at the place, or it is a free name in a directory. -/
def Reachable (fs : Files) (place : Place) : Prop :=
  (fs.node? place).isSome ∨ ∃ name dir, place = name :: dir ∧ fs.isDirectory dir

theorem reachable_of_isDirectory (h : fs.isDirectory place) : fs.Reachable place := by
  obtain ⟨mode, hnode⟩ := isDirectory_iff.mp h
  exact .inl (Option.isSome_of_mem hnode)

theorem Sound.reachable_of_enter (h : fs.Sound) (henter : fs.enter start segment = .ok place) :
    fs.Reachable place := by
  have hstart := isDirectory_of_enter henter
  rw [enter_of_isDirectory hstart] at henter
  cases henter
  split_ifs
  · exact reachable_of_isDirectory hstart
  · exact reachable_of_isDirectory (h.isDirectory_of_suffix hstart (List.tail_suffix start))
  · exact .inr ⟨segment, start, rfl, hstart⟩

/-- There is no way on from nothing. -/
theorem Leads.eq_of_nothing (h : fs.Leads toEnd links start segments place)
    (hstart : fs.node? start = none) : place = start := by
  have henter : ∀ segment next, fs.enter start segment ≠ .ok next := by
    intro segment next henter
    obtain ⟨mode, hnode⟩ := isDirectory_iff.mp (isDirectory_of_enter henter)
    rw [hstart] at hnode
    cases hnode
  cases h with
  | here => rfl
  | on hfirst => exact absurd hfirst (henter _ _)
  | follow hfirst => exact absurd hfirst (henter _ _)
  | stop hfirst => exact absurd hfirst (henter _ _)

/-- A walk ends at a node, or at a free name in a directory. -/
theorem Leads.reachable (h : fs.Leads toEnd links start segments place) (hsound : fs.Sound)
    (hstart : fs.Reachable start ∨ segments ≠ []) : fs.Reachable place := by
  induction h with
  | here place => exact hstart.resolve_right (absurd rfl)
  | on henter _ _ ih => exact ih (.inl (hsound.reachable_of_enter henter))
  | @follow _ start next _ _ target _ henter hlink _ _ ih =>
    refine ih (.inl (reachable_of_isDirectory ?_))
    have hdir := isDirectory_of_enter henter
    rw [afterLink]
    split_ifs
    · exact hsound.isDirectory_of_suffix hdir List.nil_suffix
    · cases next with
      | nil =>
        obtain ⟨mode, hroot⟩ :=
          isDirectory_iff.mp (hsound.isDirectory_of_suffix hdir List.nil_suffix)
        rw [hroot] at hlink
        cases hlink
      | cons name dir => exact hsound.parent name dir _ hlink
  | stop henter hlink => exact .inl (Option.isSome_of_mem hlink)

/-! ### Growing -/

/-- `fs'` has all that `fs` has, and the files have the same contents but for those with the numbers
in `touched`. -/
structure Keeps (fs fs' : Files) (touched : Nat → Prop) : Prop where
  /-- A sound store stays sound. -/
  sound : fs.Sound → fs'.Sound
  /-- Relative paths start from the same directory. -/
  here : fs'.here = fs.here
  /-- The numbers that have been given out are not given out again. -/
  latest : fs.latest ≤ fs'.latest
  /-- What is at a place is still there. -/
  node : ∀ place node, fs.node? place = some node → fs'.node? place = some node
  /-- A file that is not touched holds what it has held. -/
  content : ∀ n, n ≤ fs.latest → ¬ touched n → fs'.content n = fs.content n

theorem Keeps.refl (fs : Files) (touched : Nat → Prop) : fs.Keeps fs touched :=
  ⟨id, rfl, le_rfl, fun _ _ h => h, fun _ _ _ => rfl⟩

/-- What is touched later on counts as far as it was there in the beginning. -/
theorem Keeps.trans (h₁ : fs.Keeps fs₁ touched) (h₂ : fs₁.Keeps fs₂ touched')
    (hsub : ∀ n, n ≤ fs.latest → touched' n → touched n) : fs.Keeps fs₂ touched where
  sound := h₂.sound ∘ h₁.sound
  here := h₂.here.trans h₁.here
  latest := h₁.latest.trans h₂.latest
  node := fun place node h => h₂.node place node (h₁.node place node h)
  content := fun n hn htouched => by
    rw [h₂.content n (hn.trans h₁.latest) (mt (hsub n hn) htouched), h₁.content n hn htouched]

theorem Keeps.mono (h : fs.Keeps fs₁ touched) (hsub : ∀ n, n ≤ fs.latest → touched n → touched' n) :
    fs.Keeps fs₁ touched' :=
  ⟨h.sound, h.here, h.latest, h.node, fun n hn htouched => h.content n hn (mt (hsub n hn) htouched)⟩

theorem Keeps.isDirectory (h : fs.Keeps fs₁ touched) (hplace : fs.isDirectory place) :
    fs₁.isDirectory place := by
  obtain ⟨mode, hnode⟩ := isDirectory_iff.mp hplace
  exact isDirectory_iff.mpr ⟨mode, h.node place _ hnode⟩

theorem Keeps.enter (h : fs.Keeps fs₁ touched) (henter : fs.enter start segment = .ok place) :
    fs₁.enter start segment = .ok place := by
  have hstart := isDirectory_of_enter henter
  rw [← henter, enter_of_isDirectory hstart, enter_of_isDirectory (h.isDirectory hstart)]

/-- A walk goes the same way in a store that has grown, unless it has ended at nothing and there is
a link now. -/
theorem Leads.of_keeps (h : fs.Leads toEnd links start segments place)
    (hkeeps : fs.Keeps fs₁ touched)
    (hend : fs.node? place = none → ∀ target, fs₁.node? place ≠ some (.link target)) :
    fs₁.Leads toEnd links start segments place := by
  induction h with
  | here place => exact .here place
  | @on _ _ next _ _ rest henter hnode hrest ih =>
    refine .on (hkeeps.enter henter) (fun target hlink => ?_) (ih hend)
    cases hnext : fs.node? next with
    | some node =>
      rw [hkeeps.node next node hnext] at hlink
      exact hnode target (hnext.trans hlink)
    | none =>
      -- there is no way on from nothing
      obtain rfl := hrest.eq_of_nothing hnext
      exact hend hnext target hlink
  | follow henter hlink hgo _ ih =>
    exact .follow (hkeeps.enter henter) (hkeeps.node _ _ hlink) hgo (ih hend)
  | stop henter hlink hstop => exact .stop (hkeeps.enter henter) (hkeeps.node _ _ hlink) hstop

/-! ### Paths -/

theorem locateBy_eq_ok_iff : fs.locateBy toEnd p = .ok place
    ↔ spellingFault? p = none ∧ fs.Leads toEnd linkLimit (fs.origin p) (segmentsOf p) place := by
  rw [locateBy, ← walk_eq_ok_iff]
  cases spellingFault? p with
  | none => simp
  | some fault => simp

theorem Keeps.locateBy (h : fs.Keeps fs₁ touched) (hlocate : fs.locateBy toEnd p = .ok place)
    (hend : fs.node? place = none → ∀ target, fs₁.node? place ≠ some (.link target)) :
    fs₁.locateBy toEnd p = .ok place := by
  obtain ⟨hspelling, hleads⟩ := locateBy_eq_ok_iff.mp hlocate
  have horigin : fs₁.origin p = fs.origin p := by rw [origin, origin, h.here]
  exact locateBy_eq_ok_iff.mpr ⟨hspelling, horigin ▸ hleads.of_keeps h hend⟩

theorem nodeAt?_eq_some_iff : fs.nodeAt? p = some node
    ↔ ∃ place, fs.locate p = .ok place ∧ fs.node? place = some node := by
  rw [nodeAt?]
  cases fs.locate p with
  | error fault => simp
  | ok place => simp

/-- A path leads to what it has led to. -/
theorem Keeps.nodeAt? (h : fs.Keeps fs₁ touched) (hnode : fs.nodeAt? p = some node) :
    fs₁.nodeAt? p = some node := by
  obtain ⟨place, hlocate, hplace⟩ := nodeAt?_eq_some_iff.mp hnode
  have hend : fs.node? place = none → ∀ target, fs₁.node? place ≠ some (.link target) := by
    rw [hplace]
    exact nofun
  exact nodeAt?_eq_some_iff.mpr ⟨place, h.locateBy hlocate hend, h.node place node hplace⟩

end Files

end NameTables
