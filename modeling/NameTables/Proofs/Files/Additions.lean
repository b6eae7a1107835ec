import Mathlib.Logic.Relation
import NameTables.Proofs.Files.Writing

/-!
# Directories that are added

Making the directories that a path is missing does one thing to the store: at places where nothing
was there are directories now.  Each of them is where some path leads that the first one is below,
and it is there also when making a later one fails.

## Main definitions

* `Path.IsAncestor` — a path that another is below, by its spelling.
* `Files.AddsDirectories` — a store has what another has, and directories that some paths lead to.

## Main statements

* `Files.addsDirectories_makeDirectory` — one directory is added, and its path leads to it.
* `Files.addsDirectories_withParent` — what is added for a path are directories that it is below.
-/

namespace NameTables

/-- The path `dir` is what is left of `p` without its last part, or without its last parts. -/
def Path.IsAncestor (dir p : Path) : Prop :=
  Relation.TransGen (fun inner outer : Path => inner.parent? = some outer) p dir

namespace Files

variable {fs fs' fs₁ fs₂ : Files} {place : Place} {p q dir : Path} {dirs dirs' : Path → Prop}
  {touched : Nat → Prop}

/-- `fs'` is `fs` with some more directories, to each of which one of the paths leads. -/
structure AddsDirectories (fs fs' : Files) (dirs : Path → Prop) : Prop where
  /-- What was there is still there. -/
  keeps : fs.Keeps fs' fun _ => False
  /-- All files hold what they have held. -/
  states : fs'.states = fs.states
  /-- No number has been given out. -/
  latest : fs'.latest = fs.latest
  /-- What is new is a directory. -/
  node : ∀ place, fs'.node? place = fs.node? place
    ∨ fs.node? place = none ∧ fs'.isDirectory place ∧ ∃ dir, dirs dir ∧ fs'.locate dir = .ok place

theorem AddsDirectories.refl (fs : Files) (dirs : Path → Prop) : fs.AddsDirectories fs dirs :=
  ⟨.refl fs _, rfl, rfl, fun _ => .inl rfl⟩

theorem AddsDirectories.mono (h : fs.AddsDirectories fs' dirs)
    (hsub : ∀ dir, dirs dir → dirs' dir) : fs.AddsDirectories fs' dirs' := by
  refine ⟨h.keeps, h.states, h.latest, fun place => (h.node place).imp_right ?_⟩
  rintro ⟨hfree, hplace, dir, hdir, hlocate⟩
  exact ⟨hfree, hplace, dir, hsub dir hdir, hlocate⟩

/-- A path leads to the same directory in a store that has grown. -/
theorem Keeps.locate_directory (h : fs.Keeps fs₁ touched) (hlocate : fs.locate p = .ok place)
    (hplace : fs.isDirectory place) : fs₁.locate p = .ok place := by
  obtain ⟨mode, hnode⟩ := isDirectory_iff.mp hplace
  refine h.locateBy hlocate fun hnone => ?_
  rw [hnode] at hnone
  cases hnone

theorem AddsDirectories.trans (h₁ : fs.AddsDirectories fs₁ dirs)
    (h₂ : fs₁.AddsDirectories fs₂ dirs) : fs.AddsDirectories fs₂ dirs := by
  refine ⟨h₁.keeps.trans h₂.keeps fun _ _ h => h, h₂.states.trans h₁.states,
    h₂.latest.trans h₁.latest, fun place => ?_⟩
  rcases h₁.node place with hsame₁ | ⟨hfree, hplace, dir, hdir, hlocate⟩
  · rw [← hsame₁]
    exact h₂.node place
  · -- a directory of the first addition stays where it is
    exact .inr ⟨hfree, h₂.keeps.isDirectory hplace, dir, hdir,
      h₂.keeps.locate_directory hlocate hplace⟩

/-! ### One directory -/

/-- A walk goes on with a segment that leads to a directory. -/
theorem Leads.concat_directory {links : Nat} {start dir place : Place} {segments : List Text}
    {last : Text} (h : fs.Leads true links start segments dir)
    (henter : fs.enter dir last = .ok place) (hplace : fs.isDirectory place) :
    fs.Leads true links start (segments ++ [last]) place := by
  obtain ⟨mode, hnode⟩ := isDirectory_iff.mp hplace
  refine (h.concat henter).followed fun target hlink => ?_
  rw [hnode] at hlink
  cases hlink

/-- A path leads to the directory that has been made at the place of its last segment. -/
theorem locate_of_locateLast (h : fs.locateLast p = .ok (place, true))
    (hkeeps : fs.Keeps fs' touched) (hplace : fs'.isDirectory place) :
    fs'.locate p = .ok place := by
  obtain ⟨hspelling, before, last, dir, hsegments, hdir, henter, -, hdirectory⟩ :=
    exists_of_locateLast h
  obtain ⟨mode, hmode⟩ := isDirectory_iff.mp hdirectory
  have horigin : fs'.origin p = fs.origin p := by rw [origin, origin, hkeeps.here]
  have hbefore : fs'.Leads true linkLimit (fs'.origin p) before dir := by
    rw [horigin]
    refine hdir.of_keeps hkeeps fun hnone => ?_
    rw [hmode] at hnone
    cases hnone
  have hlast := hbefore.concat_directory (hkeeps.enter henter) hplace
  refine locateBy_eq_ok_iff.mpr ⟨hspelling, ?_⟩
  rw [segmentsOf, hsegments]
  split_ifs
  · -- the slash at the end asks for the directory that is there now
    refine hlast.concat_directory ?_ hplace
    rw [enter_of_isDirectory hplace, if_pos rfl]
  · rwa [List.append_nil]

theorem addsDirectories_makeDirectory (h : fs.makeDirectory p = .ok fs') :
    fs.AddsDirectories fs' (· = p) := by
  rw [makeDirectory] at h
  split at h
  · cases h
  · next place named hlast =>
    split_ifs at h with hfree
    rw [Bool.and_eq_true, Option.isNone_iff_eq_none] at hfree
    obtain ⟨rfl, hfree⟩ := hfree
    obtain ⟨-, _, last, dir, -, -, -, hcons, hdir⟩ := exists_of_locateLast hlast
    cases h
    have hkeeps : fs.Keeps (fs.put place (.directory usualDirectoryMode)) fun _ => False :=
      keeps_put hfree (.inr ⟨last, dir, hcons, hdir⟩) nofun
    refine ⟨hkeeps, rfl, rfl, fun other => ?_⟩
    by_cases hother : other = place
    · subst hother
      have hplace : (fs.put other (.directory usualDirectoryMode)).isDirectory other :=
        isDirectory_iff.mpr ⟨_, node?_put_self ..⟩
      exact .inr ⟨hfree, hplace, p, rfl, locate_of_locateLast hlast hkeeps hplace⟩
    · exact .inl (node?_put_of_ne hother ..)

/-! ### All that are missing -/

theorem addsDirectories_makeInward (fs : Files) (paths : List Path) :
    fs.AddsDirectories (fs.makeInward paths).2 (· ∈ paths) := by
  induction paths with
  | nil => exact .refl fs _
  | cons p outer ih =>
    have hmade : ∀ {fs fs'}, makeDirectory fs p = .ok fs' →
        fs.AddsDirectories fs' (· ∈ p :: outer) :=
      fun h => (addsDirectories_makeDirectory h).mono fun _ hdir => hdir ▸ List.mem_cons_self
    replace ih := ih.mono fun _ => List.mem_cons_of_mem p
    rw [makeInward]
    split
    · exact .refl fs _
    · split
      · next made h => exact hmade h
      · split
        · next inward hinward => rwa [hinward] at ih
        · next inward hinward =>
          rw [hinward] at ih
          split
          · next made h => exact ih.trans (hmade h)
          · split_ifs <;> exact ih
      · split_ifs <;> exact .refl fs _

/-- Going outwards from a path there are the path and those that it is below. -/
theorem mem_outward {fuel : Nat} (h : q ∈ outward fuel p) : q = p ∨ q.IsAncestor p := by
  induction fuel generalizing p with
  | zero => exact .inl (List.mem_singleton.mp h)
  | succ fuel ih =>
    rw [outward] at h
    split at h
    · next dir hdir =>
      rcases List.mem_cons.mp h with rfl | h
      · exact .inl rfl
      · rcases ih h with rfl | h
        · exact .inr (.single hdir)
        · exact .inr (.head hdir h)
    · exact .inl (List.mem_singleton.mp h)

/-- What is added for a path are directories that it is below. -/
theorem addsDirectories_withParent (fs : Files) (p : Path) :
    fs.AddsDirectories (fs.withParent p).2 (·.IsAncestor p) := by
  rw [withParent]
  split
  · exact .refl fs _
  · next dir hdir =>
    split_ifs
    · exact .refl fs _
    · refine (addsDirectories_makeInward fs _).mono fun q hq => ?_
      rcases mem_outward hq with rfl | hq
      · exact .single hdir
      · exact .head hdir hq

end Files

end NameTables
