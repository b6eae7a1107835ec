import NameTables.Proofs.Run.Prediction
import NameTables.Proofs.Settings.Acceptance
import NameTables.Proofs.Tool.Processes

/-!
# Targets one after another

Targets are asked for by name, and all names are looked up before anything else is done.  After that
the targets run in turn over the files that the ones before have left.  The first that fails is the
last that runs.

## Main definitions

* `Settings.RunsThrough` — targets that run in turn without a failure.
* `Settings.Ends` — what comes of targets that run in turn, from the search for a compiler on.

## Main statements

* `Settings.runInTurn_eq_none_iff`, `Settings.exists_of_runInTurn_eq_some` — how a run ends.
* `Settings.runNamed_and_runAll` — what comes of asking for targets by name, and for all of them.
-/

namespace NameTables

namespace Settings

variable {s : Settings} {locate : Locator} {tools : Tools} {dryRun : Bool}
  {targets before after : List Target} {t : Target} {names : List Text} {os : List Outcome}
  {failure : Failure} {fs fs' : Files}

/-! ### Running through -/

/-- The targets run in turn without a failure, each over the files that the one before it leaves. -/
inductive RunsThrough (s : Settings) (locate : Locator) (dryRun : Bool) :
    Files → List Target → List Outcome → Files → Prop
  /-- There is nothing to run. -/
  | nil (fs : Files) : RunsThrough s locate dryRun fs [] [] fs
  /-- The first target runs, and then the others do. -/
  | cons {fs fs₁ fs₂ : Files} {t : Target} {rest : List Target} {o : Outcome} {os : List Outcome}
    (hrun : t.run locate (s.outputPath t) dryRun fs = (.ok o, fs₁))
    (hrest : RunsThrough s locate dryRun fs₁ rest os fs₂) :
    RunsThrough s locate dryRun fs (t :: rest) (o :: os) fs₂

theorem runInTurn_cons_of_ok {rest : List Target} {o : Outcome} {fs₁ : Files}
    {failed : Option (Target × Failure)}
    (hrun : t.run locate (s.outputPath t) dryRun fs = (.ok o, fs₁))
    (hrest : runInTurn s locate dryRun rest fs₁ = (⟨os, failed⟩, fs')) :
    runInTurn s locate dryRun (t :: rest) fs = (⟨o :: os, failed⟩, fs') := by
  simp only [runInTurn, hrun, hrest]

theorem runInTurn_cons_of_error {rest : List Target}
    (hrun : t.run locate (s.outputPath t) dryRun fs = (.error failure, fs')) :
    runInTurn s locate dryRun (t :: rest) fs = (⟨[], some (t, failure)⟩, fs') := by
  rw [runInTurn, hrun]

theorem runInTurn_eq_none_iff :
    runInTurn s locate dryRun targets fs = (⟨os, none⟩, fs')
      ↔ s.RunsThrough locate dryRun fs targets os fs' := by
  constructor
  · intro h
    induction targets generalizing fs os with
    | nil =>
      cases h
      exact .nil _
    | cons t rest ih =>
      rcases hrun : t.run locate (s.outputPath t) dryRun fs with ⟨failure | o, fs₁⟩
      · rw [runInTurn_cons_of_error hrun] at h
        cases h
      · rcases hrest : runInTurn s locate dryRun rest fs₁ with ⟨⟨os₁, failed⟩, fs₂⟩
        rw [runInTurn_cons_of_ok hrun hrest] at h
        cases h
        exact .cons hrun (ih hrest)
  · intro h
    induction h with
    | nil fs => rfl
    | cons hrun _ ih => exact runInTurn_cons_of_ok hrun ih

/-- A run that fails has run through the targets before the one that fails, and those after it have
no part in it. -/
theorem exists_of_runInTurn_eq_some
    (h : runInTurn s locate dryRun targets fs = (⟨os, some (t, failure)⟩, fs')) :
    ∃ before after fs₁, targets = before ++ t :: after
      ∧ s.RunsThrough locate dryRun fs before os fs₁
      ∧ t.run locate (s.outputPath t) dryRun fs₁ = (.error failure, fs') := by
  induction targets generalizing fs os with
  | nil => cases h
  | cons u rest ih =>
    rcases hrun : u.run locate (s.outputPath u) dryRun fs with ⟨failure' | o, fs₁⟩
    · rw [runInTurn_cons_of_error hrun] at h
      cases h
      exact ⟨[], rest, fs, rfl, .nil fs, hrun⟩
    · rcases hrest : runInTurn s locate dryRun rest fs₁ with ⟨⟨os₁, failed⟩, fs₂⟩
      rw [runInTurn_cons_of_ok hrun hrest] at h
      cases h
      obtain ⟨before, after, fs₃, rfl, hbefore, hfails⟩ := ih hrest
      exact ⟨u :: before, after, fs₃, rfl, .cons hrun hbefore, hfails⟩

/-- Targets that have run through have done so in two parts, wherever they are parted. -/
theorem RunsThrough.of_append
    (h : s.RunsThrough locate dryRun fs (before ++ after) os fs') :
    ∃ os₁ os₂ fs₁, s.RunsThrough locate dryRun fs before os₁ fs₁
      ∧ s.RunsThrough locate dryRun fs₁ after os₂ fs' := by
  induction before generalizing fs os with
  | nil => exact ⟨[], os, fs, .nil fs, h⟩
  | cons t rest ih =>
    cases h with
    | cons hrun hrest =>
      obtain ⟨os₁, os₂, fs₁, hbefore, hafter⟩ := ih hrest
      exact ⟨_, os₂, fs₁, .cons hrun hbefore, hafter⟩

/-- Targets that run through where others have run through do so after them. -/
theorem RunsThrough.append {os₁ os₂ : List Outcome} {fs₁ : Files}
    (hbefore : s.RunsThrough locate dryRun fs before os₁ fs₁)
    (hafter : s.RunsThrough locate dryRun fs₁ after os₂ fs') :
    s.RunsThrough locate dryRun fs (before ++ after) (os₁ ++ os₂) fs' := by
  induction hbefore with
  | nil => exact hafter
  | cons hrun _ ih => exact .cons hrun (ih hafter)

/-! ### With the resolver -/

/-- What comes of targets that run in turn: what is printed, why it ends, and the files. -/
inductive Ends (s : Settings) (tools : Tools) (dryRun : Bool) (targets : List Target)
    (fs : Files) : Report × Files → Prop
  /-- There is no compiler, and nothing runs. -/
  | unprepared {failure : Failure} {fs' : Files}
    (hresolver : Resolver.ofSettings tools s.tools fs = (.error failure, fs')) :
    Ends s tools dryRun targets fs (⟨[], some (.during .preparing failure)⟩, fs')
  /-- All targets run. -/
  | through {r : Resolver} {os : List Outcome} {fs₀ fs' : Files}
    (hresolver : Resolver.ofSettings tools s.tools fs = (.ok r, fs₀))
    (hruns : s.RunsThrough (r.resolve tools) dryRun fs₀ targets os fs') :
    Ends s tools dryRun targets fs (⟨os.flatMap Outcome.text, none⟩, fs')
  /-- The targets in front of `t` run, and `t` fails. -/
  | stopped {r : Resolver} {before after : List Target} {t : Target} {os : List Outcome}
    {failure : Failure} {fs₀ fs₁ fs' : Files}
    (hresolver : Resolver.ofSettings tools s.tools fs = (.ok r, fs₀))
    (htargets : targets = before ++ t :: after)
    (hbefore : s.RunsThrough (r.resolve tools) dryRun fs₀ before os fs₁)
    (hfails : t.run (r.resolve tools) (s.outputPath t) dryRun fs₁ = (.error failure, fs')) :
    Ends s tools dryRun targets fs
      (⟨os.flatMap Outcome.text, some (.during (.running t.name) failure)⟩, fs')

/-- Targets in turn are never unknown. -/
theorem Ends.complaint_ne {result : Report × Files} (h : s.Ends tools dryRun targets fs result)
    (name : Text) (available : List Text) :
    result.1.complaint ≠ some (.unknownTarget name available) := by
  cases h <;> nofun

theorem runNamed_of_unknown {name : Text} (h : s.unknownName? names = some name) :
    s.runNamed tools dryRun names fs
      = (⟨[], some (.unknownTarget name (s.targets.map Target.name))⟩, fs) := by
  rw [runNamed, h]

/-- Names that are all known have their targets run in turn. -/
theorem ends_runNamed (h : s.unknownName? names = none) :
    s.Ends tools dryRun (names.filterMap s.target?) fs (s.runNamed tools dryRun names fs) := by
  rw [runNamed, h]
  simp only [withResolver]
  rcases hresolver : Resolver.ofSettings tools s.tools fs with ⟨failure | r, fs₀⟩
  · exact .unprepared hresolver
  · rcases hrun : runInTurn s (r.resolve tools) dryRun (names.filterMap s.target?) fs₀ with
      ⟨⟨os, failed⟩, fs'⟩
    simp only [hrun, progressReport]
    cases failed with
    | none => exact .through hresolver (runInTurn_eq_none_iff.mp hrun)
    | some failed =>
      obtain ⟨before, after, fs₁, htargets, hbefore, hfails⟩ := exists_of_runInTurn_eq_some hrun
      exact .stopped hresolver htargets hbefore hfails

/-- To ask for all targets is to run them in their order. -/
theorem Accepted.ends_runAll (h : s.Accepted) (tools : Tools) (dryRun : Bool) (fs : Files) :
    s.Ends tools dryRun s.targets fs (s.runAll tools dryRun fs) := by
  have hends : s.Ends tools dryRun ((s.targets.map Target.name).filterMap s.target?) fs
      (s.runAll tools dryRun fs) := ends_runNamed s.unknownName?_map_name
  rwa [h.filterMap_target?] at hends

/-- **What comes of asking for targets by name, and for all of them**, with settings that can be
loaded.  If a name is unknown, wherever it stands, nothing is printed, no process is started and the
files stay as they are.  Otherwise the targets with these names run in turn, once for each time they
are named.  To ask for all is to run the targets of the settings in their order, and there a name is
never unknown, nor there twice. -/
theorem runNamed_and_runAll (hs : s.Accepted) (tools : Tools) (dryRun : Bool) (fs : Files) :
    (∀ names, (∃ name ∈ names, ∀ t ∈ s.targets, t.name ≠ name) →
        (∃ unknown ∈ names, (∀ t ∈ s.targets, t.name ≠ unknown)
          ∧ s.runNamed tools dryRun names fs
            = (⟨[], some (.unknownTarget unknown (s.targets.map Target.name))⟩, fs))
        ∧ tools.StartsOnly [] fun tools => s.runNamed tools dryRun names fs)
      ∧ (∀ names, (∀ name ∈ names, ∃ t ∈ s.targets, t.name = name) →
        ∃ targets, targets ⊆ s.targets ∧ targets.map Target.name = names
          ∧ s.Ends tools dryRun targets fs (s.runNamed tools dryRun names fs))
      ∧ s.Ends tools dryRun s.targets fs (s.runAll tools dryRun fs)
      ∧ (∀ name available,
        (s.runAll tools dryRun fs).1.complaint ≠ some (.unknownTarget name available))
      ∧ (s.targets.map Target.name).Nodup := by
  have hall := hs.ends_runAll tools dryRun fs
  refine ⟨fun names hunknown => ?_, fun names hknown => ?_, hall, hall.complaint_ne, hs.nodup⟩
  · cases hfound : s.unknownName? names with
    | none =>
      obtain ⟨name, hname, hnone⟩ := hunknown
      obtain ⟨t, ht, htname⟩ := unknownName?_eq_none_iff.mp hfound name hname
      exact absurd htname (hnone t ht)
    | some unknown =>
      obtain ⟨hmem, hnone⟩ := unknownName?_eq_some hfound
      refine ⟨⟨unknown, hmem, hnone, runNamed_of_unknown hfound⟩, fun tools' _ => ?_⟩
      simp only [runNamed_of_unknown hfound]
  · have hfound : s.unknownName? names = none := unknownName?_eq_none_iff.mpr hknown
    exact ⟨names.filterMap s.target?, fun t ht => mem_of_mem_filterMap_target? ht,
      map_name_filterMap_target? hfound, ends_runNamed hfound⟩

/-- The built-in targets where only the header of the first is there, which is delivered before the
second fails; a name that is not built in keeps the one in front of it from running. -/
theorem runNamed_and_runAll_at_default :
    let fs : Files := ⟨[([], .directory 0o755), (["tmp".toList], .directory 0o755),
        (["xkbcommon".toList], .directory 0o755),
        (["xkbcommon-keysyms.h".toList, "xkbcommon".toList], .file 1)],
      [(1, ⟨Text.encode "#define XKB_KEY_a 0x61\n".toList, 0o644, 0, 0⟩)], 1, [], 0⟩
    let tools := Tools.answering
      "x.o: /xkbcommon/xkbcommon-keysyms.h /linux/input-event-codes.h\n".toList
    let keysyms := "keysyms".toList
    let keycodes := "keycodes".toList
    (default.runNamed tools false [keysyms, "keymaps".toList] fs
        = (⟨[], some (.unknownTarget "keymaps".toList [keysyms, keycodes])⟩, fs))
      ∧ (∃ targets, targets.map Target.name = [keycodes, keycodes]
        ∧ default.Ends tools true targets fs (default.runNamed tools true [keycodes, keycodes] fs))
      ∧ default.Ends tools false default.targets fs (default.runAll tools false fs)
      ∧ (default.runAll tools false fs).1
        = ⟨"keysyms: 1 entries, 0 aliases (0 dropped) from /xkbcommon/xkbcommon-keysyms.h\n".toList
              ++ "   keysym_names.h (written)\n".toList,
            some (.during (.running keycodes) (.io .notFound))⟩ := by
  intro fs tools keysyms keycodes
  have hwritten := runNamed_and_runAll accepted_default tools false fs
  have hdry := runNamed_and_runAll accepted_default tools true fs
  refine ⟨?_, ?_, hwritten.2.2.1, by decide +kernel⟩
  · obtain ⟨⟨unknown, hmem, hnone, hrun⟩, -⟩ :=
      hwritten.1 [keysyms, "keymaps".toList] ⟨"keymaps".toList, by decide, by decide⟩
    obtain rfl : unknown = "keymaps".toList := by
      rcases List.mem_pair.mp hmem with rfl | rfl
      · exact absurd rfl (hnone Settings.keysyms List.mem_cons_self)
      · rfl
    exact hrun
  · obtain ⟨targets, -, hnames, hends⟩ := hdry.2.1 [keycodes, keycodes] (by decide)
    exact ⟨targets, hnames, hends⟩

end Settings

end NameTables
