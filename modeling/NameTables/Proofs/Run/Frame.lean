import NameTables.Proofs.Files.Additions
import NameTables.Proofs.Run.Prediction

/-!
# What a delivery leaves alone

In a store of files and directories a delivery does no more than it says.  A path that holds the
content already stays as it is, with all the rest.  A path that is written holds the content
afterwards, and besides that there are at most new directories that it is below; these are also all
that a delivery can leave behind when it fails.  So there is nothing left to do for a second one.

## Main definitions

* `Files.IsPlain` — a store of files and directories.
* `Files.Contains` — a path leads to a file with a content.
* `Files.Receives` — a path has received a content, and nothing else has changed.

## Main statements

* `Files.Writes.receives` — writing changes the file at the path only.
* `deliver_frame` — what a delivery changes, by how it ends.
-/

namespace NameTables

namespace Files

variable {fs fs' made : Files} {place : Place} {p : Path} {content : Bytes} {dirs : Path → Prop}

/-! ### Stores of files and directories -/

/-- There are files and directories in the store, and nothing else. -/
def IsPlain (fs : Files) : Prop :=
  ∀ place node, fs.node? place = some node → node.isDirectory ∨ ∃ n, node = .file n

/-- Whether there are files and directories only can be computed. -/
theorem isPlain_of_all
    (h : fs.nodes.all fun entry => entry.2.isDirectory || entry.2 matches .file _) :
    fs.IsPlain := by
  intro place node hnode
  have hentry := List.all_eq_true.mp h _ (mem_nodes_of_node? hnode)
  cases node <;> simp_all [Node.isDirectory]

/-- The path leads to a file with this content. -/
def Contains (fs : Files) (p : Path) (content : Bytes) : Prop :=
  ∃ n, fs.nodeAt? p = some (.file n) ∧ fs.content n = content

theorem hasContent_of_contains (h : fs.Contains p content) : fs.hasContent p content := by
  obtain ⟨n, hnode, rfl⟩ := h
  obtain ⟨place, hlocate, hplace⟩ := nodeAt?_eq_some_iff.mp hnode
  simp [hasContent, read, hlocate, hplace]

/-- What a path of such a store carries, it contains. -/
theorem IsPlain.contains (h : fs.IsPlain) (hcarries : fs.Carries p content) :
    fs.Contains p content := by
  obtain ⟨node, hnode, hdir, hcontent⟩ := hcarries
  obtain ⟨place, -, hplace⟩ := nodeAt?_eq_some_iff.mp hnode
  obtain ⟨n, rfl⟩ := (h place node hplace).resolve_left hdir
  exact ⟨n, hnode, hcontent n rfl⟩

theorem IsPlain.hasContent_iff (h : fs.IsPlain) :
    fs.hasContent p content ↔ fs.Contains p content :=
  ⟨fun hheld => h.contains (carries_of_hasContent hheld), hasContent_of_contains⟩

theorem IsPlain.of_addsDirectories (h : fs.IsPlain) (hadds : fs.AddsDirectories fs' dirs) :
    fs'.IsPlain := by
  intro place node hnode
  rcases hadds.node place with hsame | ⟨-, hplace, -⟩
  · exact h place node (hsame ▸ hnode)
  · obtain ⟨mode, hmode⟩ := isDirectory_iff.mp hplace
    rw [hnode] at hmode
    cases hmode
    exact .inl rfl

/-! ### Writing -/

/-- From `fs` to `fs'` the path has received the content, for which directories that it is below
may have been made, and nothing else has changed. -/
structure Receives (fs fs' : Files) (p : Path) (content : Bytes) : Prop where
  /-- The path holds the content. -/
  contains : fs'.Contains p content
  /-- Relative paths start from the same directory. -/
  here : fs'.here = fs.here
  /-- What was there is still there, and new are only the file and directories above it. -/
  node : ∀ place, fs'.node? place = fs.node? place
    ∨ fs.node? place = none ∧ (fs'.locate p = .ok place
      ∨ fs'.isDirectory place ∧ ∃ dir, dir.IsAncestor p ∧ fs'.locate dir = .ok place)
  /-- All other files are as they were. -/
  state : ∀ n, fs'.nodeAt? p ≠ some (.file n) → fs'.state? n = fs.state? n

/-- Writing at a place changes the file there and no other, and a new file is all that there is
more. -/
theorem Writes.frame (h : fs.Writes place content fs') :
    fs'.here = fs.here
      ∧ (∀ other, fs'.node? other = fs.node? other ∨ other = place ∧ fs.node? place = none)
      ∧ ∀ n, fs'.node? place ≠ some (.file n) → fs'.state? n = fs.state? n := by
  cases h with
  | @file n hnode =>
    rw [setContent]
    cases fs.state? n with
    | none => exact ⟨rfl, fun _ => .inl rfl, fun _ _ => rfl⟩
    | some state =>
      refine ⟨rfl, fun _ => .inl rfl, fun m hm => ?_⟩
      rw [state?_setState, if_neg]
      rintro rfl
      exact hm hnode
  | new hfree =>
    refine ⟨rfl, fun other => ?_, fun m hm => ?_⟩
    · by_cases hother : other = place
      · exact .inr ⟨hother, hfree⟩
      · exact .inl (node?_put_of_ne hother ..)
    · rw [addFile, node?_put_self] at hm
      refine (state?_setState ..).trans (if_neg ?_)
      rintro rfl
      exact hm rfl
  | other => exact ⟨rfl, fun _ => .inl rfl, fun _ _ => rfl⟩

theorem IsPlain.of_write (hplain : fs.IsPlain) (hsound : fs.Sound)
    (h : fs.write p content = .ok fs') : fs'.IsPlain := by
  obtain ⟨place, -, hwrites⟩ := exists_of_write hsound h
  intro other node hnode
  cases hwrites with
  | @file n =>
    rw [setContent] at hnode
    cases hstate : fs.state? n <;> (rw [hstate] at hnode; exact hplain other node hnode)
  | new =>
    rw [addFile, node?_put] at hnode
    split_ifs at hnode
    · exact .inr ⟨_, (Option.some.inj hnode).symm⟩
    · exact hplain other node hnode
  | other => exact hplain other node hnode

/-- A path receives what is written to it after the directories that it is missing were made. -/
theorem AddsDirectories.receives (hadds : fs.AddsDirectories made (·.IsAncestor p))
    (hsound : made.Sound) (hplain : made.IsPlain) (h : made.write p content = .ok fs') :
    fs.Receives fs' p content := by
  have hkeeps := keeps_write hsound h
  obtain ⟨place, hwrites, hlocate⟩ := exists_locate_of_write hsound h
  obtain ⟨hhere, hnode, hstate⟩ := hwrites.frame
  have hnodeAt : fs'.nodeAt? p = fs'.node? place := by rw [nodeAt?, hlocate]
  refine ⟨?_, hhere.trans hadds.keeps.here, fun other => ?_, fun n hn => ?_⟩
  · exact (hplain.of_write hsound h).contains (carries_of_write hsound h)
  · rcases hnode other with hsame | ⟨rfl, hfree⟩
    · rw [hsame]
      refine (hadds.node other).imp_right ?_
      rintro ⟨hfree, hdirectory, dir, hdir, hdirplace⟩
      exact ⟨hfree, .inr ⟨hkeeps.isDirectory hdirectory, dir, hdir,
        hkeeps.locate_directory hdirplace hdirectory⟩⟩
    · -- where a new file is there has been nothing in the beginning
      refine .inr ⟨?_, .inl hlocate⟩
      rcases hadds.node other with hsame | ⟨hfree', -⟩
      · rw [← hsame, hfree]
      · exact hfree'
  · rw [hstate n (hnodeAt ▸ hn), state?, hadds.states, state?]

end Files

/-! ### Deliveries -/

variable {fs fs' : Files} {p : Path} {content : Bytes}

/-- **What a delivery changes**, in a store of files and directories.  It finds the path unchanged
exactly if the path holds the content, and changes nothing then.  If it has written, the path has
received the content and all else is as it was, but for new directories that the path is below.  If
it fails, there are such directories at most.  Whatever it has found or written, a second one finds
the path unchanged; and the store stays sound and plain. -/
theorem deliver_frame (hsound : fs.Sound) (hplain : fs.IsPlain) (p : Path) (content : Bytes) :
    ((∃ fs', deliver p content false fs = (.ok .unchanged, fs')) ↔ fs.Contains p content)
      ∧ (∀ fs', deliver p content false fs = (.ok .unchanged, fs') → fs' = fs)
      ∧ (∀ fs', deliver p content false fs = (.ok .written, fs') → fs.Receives fs' p content)
      ∧ (∀ failure fs', deliver p content false fs = (.error failure, fs') →
          fs.AddsDirectories fs' (·.IsAncestor p))
      ∧ (∀ delivery fs', deliver p content false fs = (.ok delivery, fs') →
          deliver p content false fs' = (.ok .unchanged, fs'))
      ∧ (deliver p content false fs).2.Sound ∧ (deliver p content false fs).2.IsPlain := by
  have hparent := Files.addsDirectories_withParent fs p
  have hdelivers := delivers p content fs
  generalize deliver p content false fs = ended at hdelivers
  cases hdelivers with
  | unchanged hheld =>
    have hcontains := hplain.hasContent_iff.mp hheld
    refine ⟨⟨fun _ => hcontains, fun _ => ⟨fs, rfl⟩⟩, ?_, nofun, nofun, ?_, hsound, hplain⟩
    · rintro _ ⟨⟩
      rfl
    · rintro _ _ ⟨⟩
      exact deliver_of_hasContent hheld
  | @written made fs' hheld hmade hwrite =>
    rw [hmade] at hparent
    have hsound' := hparent.keeps.sound hsound
    have hplain' := hplain.of_addsDirectories hparent
    have hreceives := hparent.receives hsound' hplain' hwrite
    refine ⟨⟨nofun, fun hcontains => ?_⟩, nofun, ?_, nofun, ?_,
      (Files.keeps_write hsound' hwrite).sound hsound', hplain'.of_write hsound' hwrite⟩
    · exact absurd (Files.hasContent_of_contains hcontains) hheld
    · rintro _ ⟨⟩
      exact hreceives
    · rintro _ _ ⟨⟩
      exact deliver_of_hasContent (Files.hasContent_of_contains hreceives.contains)
  | failed hheld fault =>
    refine ⟨⟨nofun, fun hcontains => ?_⟩, nofun, nofun, ?_, nofun, hparent.keeps.sound hsound,
      hplain.of_addsDirectories hparent⟩
    · exact absurd (Files.hasContent_of_contains hcontains) hheld
    · rintro _ _ ⟨⟩
      exact hparent

/-- A path through a directory that is missing, a file that is written and then found unchanged, and
a path that can only be a directory's, for which a directory is made in vain. -/
theorem deliver_frame_at_missing_directories :
    let fs : Files := ⟨[([], .directory 0o755), (["d".toList], .directory 0o755),
      (["f".toList, "d".toList], .file 1)], [(1, ⟨[97], 0o644, 0, 0⟩)], 1, ["d".toList], 0⟩
    let through : Path := ⟨"a/../b/c".toList⟩
    let slashed : Path := ⟨"../g/h/".toList⟩
    fs.Sound ∧ fs.IsPlain
      ∧ (∃ fs', deliver through [98] false fs = (.ok .written, fs')
        ∧ fs.Receives fs' through [98]
        ∧ deliver through [98] false fs' = (.ok .unchanged, fs'))
      ∧ (fs.Contains ⟨"f".toList⟩ [97]
        ∧ deliver ⟨"f".toList⟩ [97] false fs = (.ok .unchanged, fs))
      ∧ ∃ fs', deliver slashed [98] false fs = (.error (.io .isDirectory), fs')
        ∧ fs.AddsDirectories fs' (·.IsAncestor slashed) ∧ fs'.isDirectory ["g".toList] := by
  intro fs through slashed
  have hsound : fs.Sound := Files.sound_of_all (by decide)
  have hplain : fs.IsPlain := Files.isPlain_of_all (by decide)
  refine ⟨hsound, hplain, ?_, ?_, ?_⟩
  · have hwritten : (deliver through [98] false fs).1 = .ok .written := by decide +kernel
    obtain ⟨-, -, hreceives, -, hagain, -⟩ := deliver_frame hsound hplain through [98]
    rcases hends : deliver through [98] false fs with ⟨ended, fs'⟩
    rw [hends] at hwritten
    cases hwritten
    exact ⟨fs', rfl, hreceives fs' hends, hagain .written fs' hends⟩
  · have hcontains : fs.Contains ⟨"f".toList⟩ [97] := ⟨1, by decide +kernel, by decide⟩
    obtain ⟨hunchanged, hsame, -⟩ := deliver_frame hsound hplain ⟨"f".toList⟩ [97]
    obtain ⟨fs', hends⟩ := hunchanged.mpr hcontains
    have hsame := hsame fs' hends
    exact ⟨hcontains, hsame ▸ hends⟩
  · have hfailed : (deliver slashed [98] false fs).1 = .error (.io .isDirectory) := by
      decide +kernel
    have hmade : (deliver slashed [98] false fs).2.isDirectory ["g".toList] := by decide +kernel
    obtain ⟨-, -, -, hadds, -⟩ := deliver_frame hsound hplain slashed [98]
    rcases hends : deliver slashed [98] false fs with ⟨ended, fs'⟩
    rw [hends] at hfailed hmade
    cases hfailed
    exact ⟨fs', rfl, hadds _ fs' hends, hmade⟩

end NameTables
