import NameTables.Proofs.Settings.Acceptance

/-!
# What is blamed on settings

Settings pass the check exactly if they are well formed.  Where they do not, the check blames the
first target that is faulty, and on that target the first fault that it has: the names that are
taken are those of the targets before it, since the check has come past them.  The limit on the
tools is looked at last, so it is only blamed when every target is in order.

## Main definitions

* `Settings.WellFormed` — complete targets with different names, and time for the tools.
* `Settings.Faulty` — something is wrong with the target at an index.
* `Settings.Blames` — what is wrong first with the target at an index.

## Main statements

* `Settings.targetsFault?_eq_some_iff` — the check finds the first fault that there is.
* `Settings.validate_blames` — which settings are accepted, and what is blamed on the others.
-/

namespace NameTables

namespace Settings

variable {s : Settings} {seen : List Text} {t : Target} {targets rest : List Target}
  {fault : SettingsFault} {i : Nat}

/-- The targets are complete, no two have one name, and the tools have time. -/
structure WellFormed (s : Settings) : Prop where
  /-- Each target has a name, a header and an array name. -/
  complete : ∀ t ∈ s.targets, t.name ≠ [] ∧ t.header ≠ [] ∧ t.shape.arrayName ≠ []
  /-- No two targets have one name. -/
  distinct : (s.targets.map Target.name).Nodup
  /-- The limit on each run of a tool is not zero. -/
  timeout : 0 < s.tools.timeoutSeconds

/-- Something is wrong with the target at the index: a text is missing, or a target before it has
its name. -/
def Faulty (s : Settings) (i : Nat) : Prop :=
  ∃ t, s.targets[i]? = some t ∧ (t.name = [] ∨ (∃ u ∈ s.targets.take i, u.name = t.name)
    ∨ t.header = [] ∨ t.shape.arrayName = [])

/-- What is wrong first with the target at the index. -/
inductive Blames (s : Settings) (i : Nat) : SettingsFault → Prop
  /-- It has no name. -/
  | emptyName {t : Target} (ht : s.targets[i]? = some t) (hname : t.name = []) :
    Blames s i .emptyName
  /-- It has the name of a target before it. -/
  | duplicate {t : Target} (ht : s.targets[i]? = some t) (hname : t.name ≠ [])
    (htaken : ∃ u ∈ s.targets.take i, u.name = t.name) : Blames s i (.duplicate t.name)
  /-- It has a name of its own and no header. -/
  | noHeader {t : Target} (ht : s.targets[i]? = some t) (hname : t.name ≠ [])
    (hfree : ∀ u ∈ s.targets.take i, u.name ≠ t.name) (hheader : t.header = []) :
    Blames s i (.noHeader t.name)
  /-- It has a name of its own, a header and no array name. -/
  | noArrayName {t : Target} (ht : s.targets[i]? = some t) (hname : t.name ≠ [])
    (hfree : ∀ u ∈ s.targets.take i, u.name ≠ t.name) (hheader : t.header ≠ [])
    (harray : t.shape.arrayName = []) : Blames s i (.noArrayName t.name)

/-! ### The first fault -/

/-- What is wrong with the target at an index, where the names `seen` and those of the targets
before it are taken. -/
def faultAt? (seen : List Text) (targets : List Target) (i : Nat) : Option SettingsFault :=
  targets[i]?.bind (targetFault? (((targets.take i).map Target.name).reverse ++ seen))

@[simp] theorem faultAt?_nil (seen : List Text) (i : Nat) : faultAt? seen [] i = none := rfl

@[simp] theorem faultAt?_zero (seen : List Text) (t : Target) (rest : List Target) :
    faultAt? seen (t :: rest) 0 = targetFault? seen t := rfl

@[simp] theorem faultAt?_succ (seen : List Text) (t : Target) (rest : List Target) (i : Nat) :
    faultAt? seen (t :: rest) (i + 1) = faultAt? (t.name :: seen) rest i := by
  simp [faultAt?]

/-- The check finds the first fault that there is. -/
theorem targetsFault?_eq_some_iff : targetsFault? seen targets = some fault
    ↔ ∃ i, faultAt? seen targets i = some fault ∧ ∀ j < i, faultAt? seen targets j = none := by
  induction targets generalizing seen with
  | nil => simp
  | cons t rest ih =>
    rw [targetsFault?_cons, Option.or_eq_some_iff, ih]
    constructor
    · rintro (hfirst | ⟨hfirst, i, hfault, hbefore⟩)
      · exact ⟨0, hfirst, nofun⟩
      · refine ⟨i + 1, by rwa [faultAt?_succ], fun j hj => ?_⟩
        cases j with
        | zero => exact hfirst
        | succ j => rw [faultAt?_succ, hbefore j (by omega)]
    · rintro ⟨i, hfault, hbefore⟩
      cases i with
      | zero => exact .inl hfault
      | succ i =>
        rw [faultAt?_succ] at hfault
        refine .inr ⟨hbefore 0 (Nat.succ_pos i), i, hfault, fun j hj => ?_⟩
        rw [← faultAt?_succ, hbefore (j + 1) (by omega)]

/-- If no fault is found, there is none anywhere. -/
theorem forall_faultAt?_eq_none (h : targetsFault? seen targets = none) (i : Nat) :
    faultAt? seen targets i = none := by
  induction targets generalizing seen i with
  | nil => rfl
  | cons t rest ih =>
    rw [targetsFault?_cons, Option.or_eq_none_iff] at h
    cases i with
    | zero => exact h.1
    | succ i => rw [faultAt?_succ, ih h.2]

/-! ### Faults of a target -/

/-- A target is looked at text by text, and its name is taken if one before it has it. -/
theorem faultAt?_of_getElem? (ht : s.targets[i]? = some t) : faultAt? [] s.targets i
    = if t.name = [] then some .emptyName
      else if ∃ u ∈ s.targets.take i, u.name = t.name then some (.duplicate t.name)
      else if t.header = [] then some (.noHeader t.name)
      else if t.shape.arrayName = [] then some (.noArrayName t.name)
      else none := by
  simp only [faultAt?, ht, Option.bind_some, targetFault?, List.isEmpty_iff, List.append_nil,
    List.mem_reverse, List.mem_map]

theorem faulty_iff : s.Faulty i ↔ faultAt? [] s.targets i ≠ none := by
  rw [Faulty]
  cases ht : s.targets[i]? with
  | none => simp [faultAt?, ht]
  | some t =>
    rw [faultAt?_of_getElem? ht]
    simp only [Option.some.injEq, exists_eq_left']
    split_ifs <;> simp_all

theorem Blames.faultAt?_eq (h : s.Blames i fault) : faultAt? [] s.targets i = some fault := by
  cases h with
  | emptyName ht hname => rw [faultAt?_of_getElem? ht, if_pos hname]
  | duplicate ht hname htaken => rw [faultAt?_of_getElem? ht, if_neg hname, if_pos htaken]
  | noHeader ht hname hfree hheader =>
    rw [faultAt?_of_getElem? ht, if_neg hname, if_neg (by simpa using hfree), if_pos hheader]
  | noArrayName ht hname hfree hheader harray =>
    rw [faultAt?_of_getElem? ht, if_neg hname, if_neg (by simpa using hfree), if_neg hheader,
      if_pos harray]

theorem blames_iff : s.Blames i fault ↔ faultAt? [] s.targets i = some fault := by
  refine ⟨Blames.faultAt?_eq, fun h => ?_⟩
  obtain ⟨t, ht, -⟩ := Option.bind_eq_some_iff.mp h
  rw [faultAt?_of_getElem? ht] at h
  split_ifs at h with hname htaken hheader harray
  · exact Option.some.inj h ▸ .emptyName ht hname
  · exact Option.some.inj h ▸ .duplicate ht hname htaken
  · exact Option.some.inj h ▸ .noHeader ht hname (by simpa using htaken) hheader
  · exact Option.some.inj h ▸ .noArrayName ht hname (by simpa using htaken) hheader harray

/-! ### The check -/

theorem validate_eq_ok_iff_wellFormed : s.validate = .ok () ↔ s.WellFormed := by
  rw [validate_eq_ok_iff, fault?, Option.or_eq_none_iff, targetsFault?_eq_none_iff]
  constructor
  · rintro ⟨⟨hcomplete, hdistinct, -⟩, htimeout⟩
    refine ⟨hcomplete, hdistinct, Nat.pos_of_ne_zero fun hzero => ?_⟩
    rw [if_pos hzero] at htimeout
    cases htimeout
  · rintro ⟨hcomplete, hdistinct, htimeout⟩
    exact ⟨⟨hcomplete, hdistinct, fun _ _ => List.not_mem_nil⟩, if_neg (Nat.ne_of_gt htimeout)⟩

theorem validate_eq_error_iff {failure : Failure} : s.validate = .error failure
    ↔ ∃ fault, failure = .settings fault ∧ s.fault? = some fault := by
  rw [validate]
  cases s.fault? with
  | none => simp
  | some fault => simp [eq_comm]

/-- The check of the targets finds nothing exactly if none is faulty. -/
theorem targetsFault?_eq_none_iff_faulty :
    targetsFault? [] s.targets = none ↔ ∀ i, ¬ s.Faulty i := by
  simp only [faulty_iff, not_not]
  refine ⟨forall_faultAt?_eq_none, fun hnone => ?_⟩
  rw [Option.eq_none_iff_forall_ne_some]
  intro fault hfault
  obtain ⟨i, hi, -⟩ := targetsFault?_eq_some_iff.mp hfault
  rw [hnone i] at hi
  cases hi

/-- The first fault of the first faulty target is found, or else the limit on the tools. -/
theorem fault?_eq_some_iff : s.fault? = some fault
    ↔ (∃ i, s.Faulty i ∧ (∀ j < i, ¬ s.Faulty j) ∧ s.Blames i fault)
      ∨ (∀ i, ¬ s.Faulty i) ∧ s.tools.timeoutSeconds = 0 ∧ fault = .zeroTimeout := by
  rw [fault?, Option.or_eq_some_iff, targetsFault?_eq_none_iff_faulty,
    targetsFault?_eq_some_iff]
  refine or_congr (exists_congr fun i => ?_) (and_congr_right fun _ => ?_)
  · simp only [faulty_iff, blames_iff, not_not]
    constructor
    · rintro ⟨hfault, hbefore⟩
      exact ⟨Option.isSome_iff_ne_none.mp (Option.isSome_of_mem hfault), hbefore, hfault⟩
    · rintro ⟨-, hbefore, hfault⟩
      exact ⟨hfault, hbefore⟩
  · split_ifs with htimeout <;> simp [htimeout, eq_comm]

/-- **What is blamed on settings.**  They are accepted exactly if they are well formed, and each
target of accepted settings is the one that its name stands for.  Otherwise the first fault of the
first faulty target is blamed, or the limit on the tools if no target is faulty. -/
theorem validate_blames (s : Settings) :
    (s.validate = .ok () ↔ s.WellFormed)
      ∧ (s.validate = .ok () → ∀ t ∈ s.targets, s.target? t.name = some t)
      ∧ ∀ failure, s.validate = .error failure ↔ ∃ fault, failure = .settings fault
        ∧ ((∃ i, s.Faulty i ∧ (∀ j < i, ¬ s.Faulty j) ∧ s.Blames i fault)
          ∨ (∀ i, ¬ s.Faulty i) ∧ s.tools.timeoutSeconds = 0 ∧ fault = .zeroTimeout) := by
  refine ⟨validate_eq_ok_iff_wellFormed, fun h t ht => ?_, fun failure => ?_⟩
  · exact target?_of_nodup (validate_eq_ok_iff_wellFormed.mp h).distinct ht
  · simp only [validate_eq_error_iff, fault?_eq_some_iff]

/-- Settings all of whose targets but the first are faulty, one in two ways, and settings whose
tools have no time. -/
theorem validate_blames_at_second_target :
    let other : Target := { keysyms with name := "other".toList }
    let nameless : Target := { keycodes with name := [], header := [] }
    let bare : Target := { keysyms with header := [] }
    let faulty : Settings := { default with targets := [keysyms, bare, nameless, other] }
    let hurried : Settings :=
      { default with tools := { ToolSettings.default with timeoutSeconds := 0 } }
    default.WellFormed
      ∧ default.target? "keycodes".toList = some keycodes
      ∧ (∃ i, faulty.Faulty i ∧ (∀ j < i, ¬ faulty.Faulty j)
        ∧ faulty.Blames i (.duplicate "keysyms".toList))
      ∧ (∀ i, ¬ hurried.Faulty i) := by
  intro other nameless bare faulty hurried
  have hdefault : default.validate = .ok () := by decide
  obtain ⟨hwell, htarget, -⟩ := validate_blames default
  obtain ⟨-, -, hfaulty⟩ := validate_blames faulty
  obtain ⟨-, -, hhurried⟩ := validate_blames hurried
  refine ⟨hwell.mp hdefault, ?_, ?_, ?_⟩
  · exact htarget hdefault keycodes (by decide)
  · obtain ⟨fault, hcause, hfault⟩ :=
      (hfaulty (.settings (.duplicate "keysyms".toList))).mp (by decide)
    cases hcause
    rcases hfault with hfault | ⟨-, -, htimeout⟩
    · exact hfault
    · cases htimeout
  · obtain ⟨fault, hcause, hfault⟩ := (hhurried (.settings .zeroTimeout)).mp (by decide)
    cases hcause
    rcases hfault with ⟨i, -, -, hblames⟩ | ⟨hnone, -⟩
    · cases hblames
    · exact hnone

end Settings

end NameTables
