import NameTables.Proofs.Files.Writing

/-!
# What becomes of a path

A store may change in many ways without harm to what one path leads to.  Whoever relies on a path
only asks that it leads to what it has led to, and that a file there holds what it has held.

## Main definitions

* `Files.KeepsPath` — a path leads to the same file with the same content.

## Main statements

* `Files.KeepsPath.trans` — what two changes keep is kept by one after the other.
* `Files.Carries.of_keepsPath` — a path that is kept carries what it has carried.
* `Files.Sound.erase` — a store stays sound when something is removed.
-/

namespace NameTables

namespace Files

variable {fs fs₁ fs₂ : Files} {p : Path} {content : Bytes}

/-! ### Paths that are kept -/

/-- The path leads to what it has led to, unless that is a directory, and a file there holds what it
has held. -/
structure KeepsPath (fs fs' : Files) (p : Path) : Prop where
  /-- What the path leads to is the same. -/
  node : ∀ node, fs.nodeAt? p = some node → ¬ node.isDirectory → fs'.nodeAt? p = some node
  /-- A file has the same content. -/
  content : ∀ n, fs.nodeAt? p = some (.file n) → fs'.content n = fs.content n

theorem KeepsPath.refl (fs : Files) (p : Path) : fs.KeepsPath fs p :=
  ⟨fun _ hnode _ => hnode, fun _ _ => rfl⟩

/-- What two changes keep is kept by one after the other. -/
theorem KeepsPath.trans (h₁ : fs.KeepsPath fs₁ p) (h₂ : fs₁.KeepsPath fs₂ p) :
    fs.KeepsPath fs₂ p where
  node := fun node hnode hdir => h₂.node node (h₁.node node hnode hdir) hdir
  content := fun n hnode => by
    rw [h₂.content n (h₁.node _ hnode nofun), h₁.content n hnode]

/-- A store that grows keeps a path that leads to no file that is touched. -/
theorem Keeps.keepsPath {touched : Nat → Prop} (h : fs.Keeps fs₁ touched) (hsound : fs.Sound)
    (htouched : ∀ n, fs.nodeAt? p = some (.file n) → ¬ touched n) : fs.KeepsPath fs₁ p where
  node := fun _ hnode _ => h.nodeAt? hnode
  content := fun n hnode => by
    obtain ⟨place, -, hplace⟩ := nodeAt?_eq_some_iff.mp hnode
    exact h.content n (hsound.known place n hplace).1 (htouched n hnode)

/-- A path that is kept carries what it has carried. -/
theorem Carries.of_keepsPath (h : fs.Carries p content) (hkeeps : fs.KeepsPath fs₁ p) :
    fs₁.Carries p content := by
  obtain ⟨node, hnode, hdir, hcontent⟩ := h
  refine ⟨node, hkeeps.node node hnode hdir, hdir, ?_⟩
  rintro n rfl
  rw [hkeeps.content n hnode, hcontent n rfl]

/-- Whether a path is kept that leads to a file can be computed. -/
theorem keepsPath_of_eval {n : Nat} (h : fs.nodeAt? p = some (.file n)
    ∧ fs₁.nodeAt? p = some (.file n) ∧ fs₁.content n = fs.content n) : fs.KeepsPath fs₁ p where
  node := fun node hnode _ => by rw [h.2.1, ← h.1, hnode]
  content := fun m hnode => by
    rw [h.1] at hnode
    cases hnode
    exact h.2.2

/-! ### Removing -/

/-- A store stays sound when something is removed with all that is below it. -/
theorem Sound.erase (h : fs.Sound) (place : Place) : (fs.erase place).Sound := by
  refine ⟨fun name dir node hnode => ?_, fun other n hnode => ?_⟩
  · rw [node?_erase] at hnode
    split_ifs at hnode with hbelow
    obtain ⟨mode, hdir⟩ := isDirectory_iff.mp (h.parent name dir node hnode)
    refine isDirectory_iff.mpr ⟨mode, ?_⟩
    rw [node?_erase, if_neg (mt (fun hdir => hdir.trans (List.suffix_cons name dir)) hbelow), hdir]
  · rw [node?_erase] at hnode
    split_ifs at hnode
    exact h.known other n hnode

theorem Sound.unlink (h : fs.Sound) (p : Path) : (fs.unlink p).Sound := by
  rw [Files.unlink]
  split
  · split_ifs
    · exact h
    · exact h.erase _
  · exact h

theorem Sound.remove (h : fs.Sound) (p : Path) : (fs.remove p).Sound := by
  rw [Files.remove]
  split
  · exact h.erase _
  · exact h

end Files

end NameTables
