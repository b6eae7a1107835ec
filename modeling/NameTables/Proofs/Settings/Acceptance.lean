import Mathlib.Data.List.Nodup
import Mathlib.Tactic.SplitIfs
import NameTables.Command.Basic
import NameTables.Proofs.Run.Jobs

/-!
# Settings that a run may have

Settings come from a file or are built in, and those from a file are checked before they are used.
The check is what makes a name stand for one target: names are looked up from the front, so a second
target of the same name would never be found.

## Main definitions

* `Settings.Accepted` — settings that can be loaded.

## Main statements

* `Settings.Accepted.nodup` — no two targets have one name.
* `Settings.Accepted.filterMap_target?` — looking up the names of all targets finds these targets,
  each at its place.
-/

namespace NameTables

namespace Settings

variable {s : Settings} {seen names : List Text} {name : Text} {t : Target}
  {targets : List Target}

/-- Settings that can be loaded, from some file or as the built-in ones. -/
def Accepted (s : Settings) : Prop := ∃ file fs, (load file fs).1 = .ok s

theorem accepted_default : Accepted .default := ⟨none, ⟨[], [], 0, [], 0⟩, rfl⟩

/-! ### The check -/

/-- What the check asks of a target. -/
theorem targetFault?_eq_none_iff : targetFault? seen t = none
    ↔ t.name ≠ [] ∧ t.name ∉ seen ∧ t.header ≠ [] ∧ t.shape.arrayName ≠ [] := by
  rw [targetFault?]
  split_ifs <;> simp_all

/-- What the check asks of targets: each is complete, and no name is taken twice. -/
theorem targetsFault?_eq_none_iff : targetsFault? seen targets = none
    ↔ (∀ t ∈ targets, t.name ≠ [] ∧ t.header ≠ [] ∧ t.shape.arrayName ≠ [])
      ∧ (targets.map Target.name).Nodup ∧ ∀ t ∈ targets, t.name ∉ seen := by
  induction targets generalizing seen with
  | nil => simp
  | cons t rest ih =>
    -- the rest is checked with this target's name among those that are taken
    have hfresh : (∀ u ∈ rest, u.name ∉ t.name :: seen)
        ↔ t.name ∉ rest.map Target.name ∧ ∀ u ∈ rest, u.name ∉ seen := by
      simp only [List.mem_cons, not_or, List.mem_map, not_exists, not_and, forall_and]
    rw [targetsFault?_cons, Option.or_eq_none_iff, targetFault?_eq_none_iff, ih, hfresh,
      List.map_cons, List.nodup_cons, List.forall_mem_cons, List.forall_mem_cons]
    tauto

theorem validate_eq_ok_iff : s.validate = .ok () ↔ s.fault? = none := by
  rw [validate]
  cases s.fault? with
  | none => exact iff_of_true rfl rfl
  | some fault => exact iff_of_false nofun nofun

/-- Settings from a file have passed the check. -/
theorem validate_of_ofFile {p : Path} {content : Bytes} (h : ofFile p content = .ok s) :
    s.validate = .ok () := by
  simp only [ofFile, bind, Except.bind] at h
  -- of all ways through the reading only the one past the check ends in settings
  repeat' split at h
  all_goals cases h
  assumption

theorem Accepted.fault?_eq_none (h : s.Accepted) : s.fault? = none := by
  obtain ⟨file, fs, hload⟩ := h
  cases file with
  | none =>
    cases hload
    decide
  | some file =>
    obtain ⟨content, fs', -, hfile⟩ := Job.bind_eq_ok_iff.mp (Prod.ext hload rfl)
    exact validate_eq_ok_iff.mp (validate_of_ofFile (congrArg Prod.fst hfile))

/-- No two targets have one name. -/
theorem Accepted.nodup (h : s.Accepted) : (s.targets.map Target.name).Nodup := by
  have hfault := h.fault?_eq_none
  rw [fault?, Option.or_eq_none_iff] at hfault
  exact (targetsFault?_eq_none_iff.mp hfault.1).2.1

/-! ### Looking up names -/

theorem target?_eq_none_iff : s.target? name = none ↔ ∀ t ∈ s.targets, t.name ≠ name := by
  simp only [target?, List.find?_eq_none, beq_iff_eq]

theorem target?_eq_some (h : s.target? name = some t) : t ∈ s.targets ∧ t.name = name := by
  have hname := List.find?_some (p := fun t : Target => t.name == name) h
  exact ⟨List.mem_of_find?_eq_some h, beq_iff_eq.mp hname⟩

theorem unknownName?_eq_none_iff :
    s.unknownName? names = none ↔ ∀ name ∈ names, ∃ t ∈ s.targets, t.name = name := by
  simp only [unknownName?, List.find?_eq_none, Option.isNone_iff_eq_none, target?_eq_none_iff,
    not_forall, not_not, exists_prop]

theorem unknownName?_eq_some (h : s.unknownName? names = some name) :
    name ∈ names ∧ ∀ t ∈ s.targets, t.name ≠ name := by
  have hunknown := List.find?_some (p := fun name => (s.target? name).isNone) h
  exact ⟨List.mem_of_find?_eq_some h,
    target?_eq_none_iff.mp (Option.isNone_iff_eq_none.mp hunknown)⟩

/-- Names that are all known are looked up without loss, and what is found has these names. -/
theorem map_name_filterMap_target? (h : s.unknownName? names = none) :
    (names.filterMap s.target?).map Target.name = names := by
  induction names with
  | nil => rfl
  | cons name rest ih =>
    rw [unknownName?_eq_none_iff, List.forall_mem_cons, ← unknownName?_eq_none_iff] at h
    obtain ⟨⟨u, hu, hname⟩, hrest⟩ := h
    cases hfound : s.target? name with
    | none => exact absurd hname (target?_eq_none_iff.mp hfound u hu)
    | some t =>
      rw [List.filterMap_cons_some hfound, List.map_cons, ih hrest, (target?_eq_some hfound).2]

theorem mem_of_mem_filterMap_target? (h : t ∈ names.filterMap s.target?) : t ∈ s.targets := by
  obtain ⟨name, -, hfound⟩ := List.mem_filterMap.mp h
  exact (target?_eq_some hfound).1

/-- If no two targets have one name, the first target with the name of `t` is `t`. -/
theorem target?_of_nodup (h : (s.targets.map Target.name).Nodup) (ht : t ∈ s.targets) :
    s.target? t.name = some t := by
  cases hfound : s.target? t.name with
  | none => exact absurd rfl (target?_eq_none_iff.mp hfound t ht)
  | some u =>
    obtain ⟨hu, hname⟩ := target?_eq_some hfound
    rw [List.inj_on_of_nodup_map h hu ht hname]

/-- Looking up the names of all targets finds these targets, each at its place. -/
theorem Accepted.filterMap_target? (h : s.Accepted) :
    (s.targets.map Target.name).filterMap s.target? = s.targets := by
  rw [List.filterMap_map]
  refine Eq.trans (List.filterMap_congr fun t ht => ?_) List.filterMap_some
  exact target?_of_nodup h.nodup ht

theorem unknownName?_map_name (s : Settings) :
    s.unknownName? (s.targets.map Target.name) = none :=
  unknownName?_eq_none_iff.mpr fun _ hname => List.mem_map.mp hname

end Settings

end NameTables
