import Mathlib.Data.List.Nodup
import Mathlib.Data.List.Perm.Subperm
import NameTables.Proofs.Files.Writing
import NameTables.Proofs.Text.Cutting
import NameTables.Resolver

/-!
# Scratch files

Scratch paths differ in their last segment, so there are more of them than there are nodes in the
store, and one is free.  A scratch file is therefore new: writing it leaves whatever was there before.

## Main statements

* `Files.linkAt?_freeScratchPath` — nothing is at the scratch path that is chosen.
* `Files.keeps_write_scratch` — a scratch file is no harm to the other files.
-/

namespace NameTables

variable {fs fs₁ : Files} {ending : Text} {m n : Nat} {place dir : Place} {p : Path}

/-! ### Scratch paths -/

/-- A number in six digits at least. -/
def sixDigits (number : Nat) : Text :=
  List.replicate (6 - (Text.ofNat number).length) '0' ++ Text.ofNat number

/-- What the names of scratch files begin with. -/
def scratchLead : Text := "macrotab-".toList

/-- The last segment of a scratch path. -/
def scratchName (ending : Text) (number : Nat) : Text := scratchLead ++ sixDigits number ++ ending

theorem scratchName_injective (ending : Text) : (scratchName ending).Injective := by
  intro m n h
  have hdigits : sixDigits m = sixDigits n :=
    List.append_cancel_left (List.append_cancel_right h)
  have hvalue := congrArg (Nat.ofDigitChars 10 · 0) hdigits
  simpa only [sixDigits, Nat.ofDigitChars_append, Nat.ofDigitChars_replicate_zero, Nat.mul_zero,
    Text.ofNat, Nat.ofDigitChars_ten_toDigits] using hvalue

theorem slash_not_mem_scratchName (hending : '/' ∉ ending) (number : Nat) :
    '/' ∉ scratchName ending number := by
  have hdigits : '/' ∉ Text.ofNat number := by
    intro h
    have hdigit : '/'.isDigit := Nat.isDigit_of_mem_toDigits (by decide) (by decide) h
    exact absurd hdigit (by decide)
  have hpadded : '/' ∉ sixDigits number := by
    rw [sixDigits, List.mem_append, List.mem_replicate, not_or]
    exact ⟨fun h => absurd h.2 (by decide), hdigits⟩
  rw [scratchName, List.mem_append, List.mem_append, not_or, not_or]
  exact ⟨⟨by decide, hpadded⟩, hending⟩

theorem text_scratchPath (ending : Text) (number : Nat) :
    (scratchPath ending number).text = "/tmp".toList ++ '/' :: scratchName ending number := by
  rfl

/-- A scratch path has two segments. -/
theorem segments_scratchPath (hending : '/' ∉ ending) (number : Nat) :
    (scratchPath ending number).segments = ["tmp".toList, scratchName ending number] := by
  have hname := slash_not_mem_scratchName hending number
  have htext : (scratchPath ending number).text
      = [] ++ '/' :: ("tmp".toList ++ '/' :: scratchName ending number) := by
    rw [text_scratchPath]
    rfl
  rw [Path.segments, Text.pieces, htext, splitAt_append_cons_self, splitAt_append_cons_self,
    splitAt_of_not_mem (by decide), splitAt_of_not_mem (by decide), splitAt_of_not_mem hname]
  rfl

theorem segmentsOf_scratchPath (hending : '/' ∉ ending) (number : Nat) :
    Files.segmentsOf (scratchPath ending number)
      = ["tmp".toList] ++ [scratchName ending number] := by
  have hslash : Files.endsInSlash (scratchPath ending number) = false := by
    rw [Files.endsInSlash, decide_eq_false_iff_not, text_scratchPath]
    intro hlast
    have hname : scratchName ending number ≠ [] := nofun
    rw [List.getLast?_append_of_ne_nil _ (List.cons_ne_nil _ _),
      List.getLast?_cons_of_ne_nil hname] at hlast
    exact slash_not_mem_scratchName hending number (List.mem_of_getLast? hlast)
  rw [Files.segmentsOf, hslash, segments_scratchPath hending]
  rfl

/-- A scratch path leads to its own name in the directory for scratch files. -/
theorem eq_of_locateLink_scratchPath (hending : '/' ∉ ending)
    (h : fs.locateLink (scratchPath ending n) = .ok place) :
    ∃ dir, fs.walk true Files.linkLimit [] ["tmp".toList] = .ok dir
      ∧ place = scratchName ending n :: dir := by
  obtain ⟨-, hleads⟩ := Files.locateBy_eq_ok_iff.mp h
  rw [segmentsOf_scratchPath hending] at hleads
  obtain ⟨dir, hdir, henter⟩ := hleads.of_concat
  refine ⟨dir, hdir.walk_eq, ?_⟩
  rw [Files.enter_of_isDirectory (Files.isDirectory_of_enter henter), if_neg nofun, if_neg nofun]
    at henter
  exact (Except.ok.inj henter).symm

namespace Files

theorem linkAt?_eq_some_iff {node : Node} : fs.linkAt? p = some node
    ↔ ∃ place, fs.locateLink p = .ok place ∧ fs.node? place = some node := by
  rw [linkAt?]
  cases fs.locateLink p with
  | error fault => simp
  | ok place => simp

/-- Fewer scratch paths are taken than there are nodes in the store, or as many. -/
theorem exists_free_scratchPath (fs : Files) (hending : '/' ∉ ending) :
    ∃ n < fs.nodes.length + 1, fs.linkAt? (scratchPath ending n) = none := by
  by_contra hnone
  have htaken : ∀ n < fs.nodes.length + 1, ∃ dir,
      fs.walk true linkLimit [] ["tmp".toList] = .ok dir
        ∧ scratchName ending n :: dir ∈ fs.nodes.map Prod.fst := by
    intro n hn
    cases hlink : fs.linkAt? (scratchPath ending n) with
    | none => exact absurd ⟨n, hn, hlink⟩ hnone
    | some node =>
      obtain ⟨place, hplace, hnode⟩ := linkAt?_eq_some_iff.mp hlink
      obtain ⟨dir, hdir, rfl⟩ := eq_of_locateLink_scratchPath hending hplace
      exact ⟨dir, hdir, List.mem_map_of_mem (mem_nodes_of_node? hnode)⟩
  -- all of them are in one directory, so their places differ as their names do
  obtain ⟨dir, hdir, -⟩ := htaken 0 (Nat.succ_pos _)
  have hsub : (List.range (fs.nodes.length + 1)).map (fun n => scratchName ending n :: dir)
      ⊆ fs.nodes.map Prod.fst := by
    intro place hplace
    obtain ⟨n, hn, rfl⟩ := List.mem_map.mp hplace
    obtain ⟨dir', hdir', hmem⟩ := htaken n (List.mem_range.mp hn)
    rw [hdir] at hdir'
    cases hdir'
    exact hmem
  have hnodup : ((List.range (fs.nodes.length + 1)).map
      (fun n => scratchName ending n :: dir)).Nodup :=
    List.nodup_range.map fun m n h => scratchName_injective ending (List.cons.inj h).1
  have hlength := (List.subperm_of_subset hnodup hsub).length_le
  simp only [List.length_map, List.length_range] at hlength
  omega

/-- Nothing is at the scratch path that is chosen. -/
theorem linkAt?_freeScratchPath (fs : Files) (hending : '/' ∉ ending) :
    fs.linkAt? (fs.freeScratchPath ending) = none := by
  rw [freeScratchPath]
  cases hfound : (List.range (fs.nodes.length + 1)).find? fun n =>
      (fs.linkAt? (scratchPath ending n)).isNone with
  | some n =>
    have hfree := List.find?_some (p := fun n => (fs.linkAt? (scratchPath ending n)).isNone) hfound
    exact Option.isNone_iff_eq_none.mp hfree
  | none =>
    obtain ⟨n, hn, hfree⟩ := exists_free_scratchPath fs hending
    have htaken := List.find?_eq_none.mp hfound n (List.mem_range.mpr hn)
    rw [hfree] at htaken
    exact absurd rfl htaken

/-! ### Writing -/

/-- To write where nothing is, not even a link, touches nothing that is there. -/
theorem keeps_write_free (hsound : fs.Sound) (hfree : fs.linkAt? p = none) {content : Bytes}
    (h : fs.write p content = .ok fs₁) : fs.Keeps fs₁ fun _ => False := by
  obtain ⟨place, hplace, -⟩ := exists_of_write hsound h
  obtain ⟨-, -, last, dir, hlink, -⟩ := exists_of_locateNew hsound hplace
  have hnothing : fs.node? (last :: dir) = none := by
    cases hnode : fs.node? (last :: dir) with
    | none => rfl
    | some node =>
      rw [linkAt?_eq_some_iff.mpr ⟨_, hlink, hnode⟩] at hfree
      cases hfree
  -- no link is at the end of the path, so the path ends there if one is to be followed, too
  obtain ⟨hspelling, hleads⟩ := locateBy_eq_ok_iff.mp hlink
  have hfollowed : fs.locate p = .ok (last :: dir) := by
    refine locateBy_eq_ok_iff.mpr ⟨hspelling, hleads.followed ?_⟩
    rw [hnothing]
    exact nofun
  refine (keeps_write hsound h).mono fun n _ hnode => ?_
  obtain ⟨place', hlocate, hfile⟩ := nodeAt?_eq_some_iff.mp hnode
  rw [hfollowed] at hlocate
  cases hlocate
  rw [hnothing] at hfile
  cases hfile

/-- A scratch file is no harm to the other files. -/
theorem keeps_write_scratch (hsound : fs.Sound) (hending : '/' ∉ ending) {content : Bytes}
    (h : fs.write (fs.freeScratchPath ending) content = .ok fs₁) :
    fs.Keeps fs₁ fun _ => False :=
  keeps_write_free hsound (fs.linkAt?_freeScratchPath hending) h

end Files

end NameTables
