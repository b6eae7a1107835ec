import NameTables.Proofs.Files.Growth
import NameTables.Run.Delivery

/-!
# What writing adds

A file that is written holds the content afterwards, and the store keeps everything else: no node
goes, and no other file gets another content.

## Main definitions

* `Files.Writes` — what writing at a place does.
* `Files.Carries` — a path leads to something that has taken in a content.

## Main statements

* `Files.exists_of_write` — where a file is written, and what that does.
* `Files.keeps_write`, `Files.carries_of_write` — the store has grown, and the path leads to the
  content.
-/

namespace NameTables

namespace Files

variable {fs fs' : Files} {n : Nat} {place dir : Place} {last : Text} {p : Path} {node : Node}
  {content : Bytes}

/-! ### The changes -/

theorem content_of_state? {state : FileState} (h : fs.state? n = some state) :
    fs.content n = state.content := by
  rw [Files.content, h]
  rfl

theorem content_congr (h : fs'.state? n = fs.state? n) : fs'.content n = fs.content n := by
  rw [Files.content, h, Files.content]

theorem content_setContent (h : (fs.state? n).isSome) :
    (fs.setContent n content).content n = content := by
  obtain ⟨state, hstate⟩ := Option.isSome_iff_exists.mp h
  rw [setContent, hstate]
  exact content_of_state? ((state?_setState ..).trans (if_pos rfl))

theorem keeps_setContent (fs : Files) (n : Nat) (content : Bytes) :
    fs.Keeps (fs.setContent n content) (· = n) := by
  rw [setContent]
  cases hstate : fs.state? n with
  | none => exact .refl fs _
  | some state =>
    refine ⟨fun hsound => ⟨hsound.parent, fun place m hnode => ?_⟩, rfl, le_rfl, fun _ _ h => h,
      fun m _ hm => ?_⟩
    · obtain ⟨hle, hknown⟩ := hsound.known place m hnode
      refine ⟨hle, ?_⟩
      rw [state?_setState]
      split_ifs
      · rfl
      · exact hknown
    · exact content_congr ((state?_setState ..).trans (if_neg hm))

/-- A node that is put at a free place adds to the store, if it is a file that is known. -/
theorem keeps_put (hfree : fs.node? place = none) (hplace : fs.Reachable place)
    (hnode : ∀ n, node = .file n → n ≤ fs.latest ∧ (fs.state? n).isSome) :
    fs.Keeps (fs.put place node) fun _ => False := by
  have hold : ∀ other held, fs.node? other = some held →
      (fs.put place node).node? other = some held := by
    intro other held hheld
    rw [node?_put_of_ne, hheld]
    rintro rfl
    rw [hfree] at hheld
    cases hheld
  have hdirectory : ∀ dir, fs.isDirectory dir → (fs.put place node).isDirectory dir := by
    intro dir hdir
    obtain ⟨mode, hmode⟩ := isDirectory_iff.mp hdir
    exact isDirectory_iff.mpr ⟨mode, hold dir _ hmode⟩
  refine ⟨fun hsound => ⟨fun name dir held hheld => ?_, fun other n hheld => ?_⟩, rfl, le_rfl, hold,
    fun _ _ _ => rfl⟩
  · by_cases hother : name :: dir = place
    · rcases hplace with hsome | ⟨name', dir', hcons, hdir⟩
      · rw [hfree] at hsome
        cases hsome
      · obtain ⟨-, rfl⟩ := List.cons.inj (hother.trans hcons)
        exact hdirectory _ hdir
    · rw [node?_put_of_ne hother] at hheld
      exact hdirectory dir (hsound.parent name dir held hheld)
  · rw [node?_put] at hheld
    split_ifs at hheld
    · exact hnode n (Option.some.inj hheld)
    · exact hsound.known other n hheld

/-- A number that is given out adds to the store. -/
theorem keeps_setState_latest (fs : Files) (state : FileState) :
    fs.Keeps { fs.setState (fs.latest + 1) state with latest := fs.latest + 1 } fun _ => False := by
  have hstate : ∀ n, n ≤ fs.latest →
      (fs.setState (fs.latest + 1) state).state? n = fs.state? n := by
    intro n hn
    rw [state?_setState, if_neg (by omega)]
  refine ⟨fun hsound => ⟨hsound.parent, fun place n hnode => ?_⟩, rfl, Nat.le_succ _,
    fun _ _ h => h, fun n hn _ => content_congr (hstate n hn)⟩
  obtain ⟨hle, hknown⟩ := hsound.known place n hnode
  exact ⟨Nat.le_succ_of_le hle, (hstate n hle).symm ▸ hknown⟩

theorem state?_addFile (fs : Files) (place : Place) (content : Bytes) (mode : Nat) :
    (fs.addFile place content mode).2.state? (fs.latest + 1) = some ⟨content, mode, 0, fs.now⟩ :=
  (state?_setState ..).trans (if_pos rfl)

/-- A new file adds to the store. -/
theorem keeps_addFile (hfree : fs.node? place = none) (hplace : fs.Reachable place)
    (content : Bytes) (mode : Nat) :
    fs.Keeps (fs.addFile place content mode).2 fun _ => False := by
  refine (keeps_setState_latest fs _).trans (keeps_put hfree hplace fun n hn => ?_) fun _ _ h => h
  cases hn
  exact ⟨le_rfl, Option.isSome_of_mem (state?_addFile fs place content mode)⟩

/-! ### The last segment of a path -/

/-- The place that a name at the end of a path makes is a name in a directory. -/
theorem exists_of_locateLast (h : fs.locateLast p = .ok (place, true)) :
    spellingFault? p = none ∧ ∃ before last dir, p.segments = before ++ [last]
      ∧ fs.Leads true linkLimit (fs.origin p) before dir ∧ fs.enter dir last = .ok place
      ∧ place = last :: dir ∧ fs.isDirectory dir := by
  rw [locateLast] at h
  split at h
  · cases h
  · next hspelling =>
    refine ⟨hspelling, ?_⟩
    split at h
    · cases h
    · next last before hsegments =>
      split at h
      · cases h
      · next dir hdir =>
        split at h
        · cases h
        · next entered henter =>
          simp only [Except.ok.injEq, Prod.mk.injEq, ne_eq, decide_eq_true_eq] at h
          obtain ⟨rfl, hhere, hup⟩ := h
          have hdirectory := isDirectory_of_enter henter
          refine ⟨before.reverse, last, dir, ?_, walk_eq_ok_iff.mp hdir, henter, ?_, hdirectory⟩
          · rw [← List.reverse_reverse p.segments, hsegments, List.reverse_cons]
          · rw [enter_of_isDirectory hdirectory, if_neg hhere, if_neg hup] at henter
            exact (Except.ok.inj henter).symm

/-- The place of a path that is to be written is the one found when the path is looked at, and it is
a free name in a directory if nothing is there.  The path ends in a name, so it leads to a name in a
directory if no link at its end is followed. -/
theorem exists_of_locateNew (hsound : fs.Sound) (h : fs.locateNew p = .ok place) :
    fs.locate p = .ok place ∧ fs.Reachable place
      ∧ ∃ last dir, fs.locateLink p = .ok (last :: dir) ∧ fs.isDirectory dir := by
  rw [locateNew] at h
  split at h
  · cases h
  · next made named hlast =>
    split_ifs at h with hnamed
    rw [Bool.and_eq_true, Bool.not_eq_true'] at hnamed
    obtain ⟨rfl, hslash⟩ := hnamed
    obtain ⟨hspelling, before, last, dir, hsegments, hdir, henter, rfl, hdirectory⟩ :=
      exists_of_locateLast hlast
    have hall : segmentsOf p = before ++ [last] := by
      rw [segmentsOf, hslash, if_neg Bool.false_ne_true, List.append_nil, hsegments]
    obtain ⟨-, hleads⟩ := locateBy_eq_ok_iff.mp h
    refine ⟨h, hleads.reachable hsound (.inr ?_), last, dir, ?_, hdirectory⟩
    · rw [hall]
      exact List.append_ne_nil_of_right_ne_nil _ (List.cons_ne_nil _ _)
    · exact locateBy_eq_ok_iff.mpr ⟨hspelling, hall ▸ hdir.concat henter⟩

/-! ### Writing -/

/-- What writing at a place does: a file that is there gets the content, a missing one is made, and
what else is there stays as it is. -/
inductive Writes (fs : Files) (place : Place) (content : Bytes) : Files → Prop
  /-- There is a file. -/
  | file {n : Nat} (hnode : fs.node? place = some (.file n)) :
    Writes fs place content (fs.setContent n content)
  /-- There is nothing. -/
  | new (hfree : fs.node? place = none) (hplace : fs.Reachable place) :
    Writes fs place content (fs.addFile place content usualMode).2
  /-- There is something else, but no directory. -/
  | other {node : Node} (hnode : fs.node? place = some node) (hdir : ¬ node.isDirectory)
    (hfile : ∀ n, node ≠ .file n) : Writes fs place content fs

theorem exists_of_write (hsound : fs.Sound) (h : fs.write p content = .ok fs') :
    ∃ place, fs.locateNew p = .ok place ∧ fs.Writes place content fs' := by
  rw [write] at h
  split at h
  · cases h
  · next place hplace =>
    refine ⟨place, hplace, ?_⟩
    split at h
    · cases h
    · next n hnode =>
      cases h
      exact .file hnode
    · cases h
    · next hnode =>
      split_ifs at h
      cases h
      exact .other hnode nofun nofun
    · next node hdir hfile _ _ hnode =>
      cases h
      refine .other hnode ?_ fun n => ?_
      · cases node <;> simp_all [Node.isDirectory]
      · rintro rfl
        exact hfile n rfl
    · next hfree =>
      cases h
      exact .new hfree (exists_of_locateNew hsound hplace).2.1

/-- The path leads to something that can be written, and if that is a file, it holds the content.
A device or a pipe does not keep what is written to it. -/
def Carries (fs : Files) (p : Path) (content : Bytes) : Prop :=
  ∃ node, fs.nodeAt? p = some node ∧ ¬ node.isDirectory
    ∧ ∀ n, node = .file n → fs.content n = content

/-- Writing touches the file that the path leads to, and nothing else that was there. -/
theorem keeps_write (hsound : fs.Sound) (h : fs.write p content = .ok fs') :
    fs.Keeps fs' fun n => fs.nodeAt? p = some (.file n) := by
  obtain ⟨place, hplace, hwrites⟩ := exists_of_write hsound h
  obtain ⟨hlocate, -⟩ := exists_of_locateNew hsound hplace
  cases hwrites with
  | @file n hnode =>
    refine (keeps_setContent fs n content).mono ?_
    rintro _ - rfl
    exact nodeAt?_eq_some_iff.mpr ⟨place, hlocate, hnode⟩
  | new hfree hplace => exact (keeps_addFile hfree hplace content usualMode).mono nofun
  | other => exact .refl fs _

/-- The path leads to where has been written. -/
theorem exists_locate_of_write (hsound : fs.Sound) (h : fs.write p content = .ok fs') :
    ∃ place, fs.Writes place content fs' ∧ fs'.locate p = .ok place := by
  have hkeeps := keeps_write hsound h
  obtain ⟨place, hplace, hwrites⟩ := exists_of_write hsound h
  obtain ⟨hlocate, -⟩ := exists_of_locateNew hsound hplace
  refine ⟨place, hwrites, hkeeps.locateBy hlocate fun hfree target hlink => ?_⟩
  cases hwrites with
  | file hnode =>
    rw [hnode] at hfree
    cases hfree
  | new =>
    rw [addFile, node?_put_self] at hlink
    cases hlink
  | other hnode =>
    rw [hnode] at hfree
    cases hfree

theorem carries_of_write (hsound : fs.Sound) (h : fs.write p content = .ok fs') :
    fs'.Carries p content := by
  have hkeeps := keeps_write hsound h
  obtain ⟨place, hwrites, hlocate⟩ := exists_locate_of_write hsound h
  cases hwrites with
  | @file n hnode =>
    refine ⟨.file n, nodeAt?_eq_some_iff.mpr ⟨place, hlocate, hkeeps.node _ _ hnode⟩, nofun, ?_⟩
    rintro _ ⟨⟩
    exact content_setContent (hsound.known place n hnode).2
  | new =>
    refine ⟨.file (fs.latest + 1),
      nodeAt?_eq_some_iff.mpr ⟨place, hlocate, node?_put_self ..⟩, nofun, ?_⟩
    rintro _ ⟨⟩
    exact content_of_state? (state?_addFile ..)
  | @other node hnode hdir hfile =>
    exact ⟨node, nodeAt?_eq_some_iff.mpr ⟨place, hlocate, hnode⟩, hdir,
      fun n hn => absurd hn (hfile n)⟩

/-- What can be read from a path is what the path carries. -/
theorem carries_of_read (h : fs.read p = .ok content) : fs.Carries p content := by
  rw [read] at h
  cases hlocate : fs.locate p with
  | error fault =>
    rw [hlocate] at h
    cases h
  | ok place =>
    rw [hlocate] at h
    cases hnode : fs.node? place with
    | none =>
      simp only [hnode] at h
      cases h
    | some node =>
      have hnodeAt : fs.nodeAt? p = some node := nodeAt?_eq_some_iff.mpr ⟨place, hlocate, hnode⟩
      cases node with
      | directory mode =>
        simp only [hnode] at h
        cases h
      | file n =>
        simp only [hnode] at h
        cases h
        exact ⟨.file n, hnodeAt, nofun, fun _ hn => Node.file.inj hn ▸ rfl⟩
      | link target => exact ⟨_, hnodeAt, nofun, nofun⟩
      | device d => exact ⟨_, hnodeAt, nofun, nofun⟩
      | pipe n => exact ⟨_, hnodeAt, nofun, nofun⟩

theorem carries_of_hasContent (h : fs.hasContent p content) : fs.Carries p content := by
  rw [hasContent] at h
  cases hread : fs.read p with
  | error fault =>
    rw [hread] at h
    cases h
  | ok held =>
    rw [hread] at h
    exact of_decide_eq_true h ▸ carries_of_read hread

end Files

end NameTables
