import Mathlib.Control.Monad.Basic
import NameTables.Proofs.Run.Jobs
import NameTables.Run.Basic

/-!
# What a dry run tells

A target is run by making its artefact and delivering it.  A dry run makes the artefact all the
same, so it fails where the real run would, as long as that is not in the delivery; and it leaves
the files as they are if whatever finds headers does.

A run reads two things, and comes to an end only if reading them does: the header, and what the
output leads to, which only a real run looks at.

## Main definitions

* `Locator.OnlyLooks` — finding headers leaves the files as they are.
* `Target.RunEnds` — a run comes to an end.
* `Delivers` — how a delivery ends.
* `Target.make` — the artefact of a target, from finding its header on.

## Main statements

* `Target.run_of_make`, `Target.run_of_make_error` — a target is run by making its artefact and
  delivering it.
* `Target.dryRun_predicts` — what a dry run tells of the real one.
-/

namespace NameTables

/-- Finding headers leaves the files as they are. -/
def Locator.OnlyLooks (locate : Locator) : Prop :=
  ∀ header package fs, (locate header package fs).2 = fs

/-! ### Delivering -/

theorem deliver_of_hasContent {p : Path} {content : Bytes} {fs : Files}
    (h : fs.hasContent p content) : deliver p content false fs = (.ok .unchanged, fs) := by
  rw [deliver, if_neg Bool.false_ne_true, if_pos h]

/-- How a delivery ends. -/
inductive Delivers (p : Path) (content : Bytes) (fs : Files) :
    Except Failure Delivery × Files → Prop
  /-- The path has the content. -/
  | unchanged (hheld : fs.hasContent p content) : Delivers p content fs (.ok .unchanged, fs)
  /-- The directories that the path is missing are made, and it is written. -/
  | written {made fs' : Files} (hheld : ¬ fs.hasContent p content)
    (hmade : fs.withParent p = (none, made)) (hwrite : made.write p content = .ok fs') :
    Delivers p content fs (.ok .written, fs')
  /-- A directory cannot be made, or the path cannot be written. -/
  | failed (hheld : ¬ fs.hasContent p content) (fault : IoFault) :
    Delivers p content fs (.error (.io fault), (fs.withParent p).2)

theorem delivers (p : Path) (content : Bytes) (fs : Files) :
    Delivers p content fs (deliver p content false fs) := by
  by_cases hheld : fs.hasContent p content
  · rw [deliver_of_hasContent hheld]
    exact .unchanged hheld
  · have hfailed := Delivers.failed hheld
    rw [deliver, if_neg Bool.false_ne_true, if_neg hheld, Files.writeWithParent]
    rcases hmade : fs.withParent p with ⟨_ | fault, made⟩
    · rw [hmade] at hfailed
      dsimp only
      cases hwrite : made.write p content with
      | ok fs' =>
        rw [Job.change_of_ok hwrite]
        exact .written hheld hmade hwrite
      | error fault =>
        rw [Job.change_of_error hwrite]
        exact hfailed fault
    · rw [hmade] at hfailed
      exact hfailed fault

/-- A delivery writes the file or finds that it has the content, unless the system makes it fail. -/
theorem deliver_cases (p : Path) (content : Bytes) (fs : Files) :
    (∃ delivery fs', (delivery = .written ∨ delivery = .unchanged)
        ∧ deliver p content false fs = (.ok delivery, fs'))
      ∨ ∃ fault fs', deliver p content false fs = (.error (.io fault), fs') := by
  have hdelivers := delivers p content fs
  generalize deliver p content false fs = ended at hdelivers
  cases hdelivers with
  | unchanged => exact .inl ⟨.unchanged, _, .inr rfl, rfl⟩
  | written => exact .inl ⟨.written, _, .inl rfl, rfl⟩
  | failed _ fault => exact .inr ⟨fault, _, rfl⟩

namespace Target

variable {t : Target} {locate : Locator} {output header : Path} {a : Artefact} {dryRun : Bool}
  {failure : Failure} {fs fs' fs'' : Files}

/-! ### Making and delivering -/

/-- The artefact of a target, with the header that it is made from. -/
def make (t : Target) (locate : Locator) : Job (Path × Artefact) := do
  let header ← locate t.header t.package
  let a ← t.artefact header
  return (header, a)

/-- What comes of a target whose artefact is delivered. -/
def outcome (t : Target) (header output : Path) (a : Artefact) (delivery : Delivery) : Outcome :=
  ⟨t.name, header, output, a.entries, a.aliases, a.unresolved, delivery⟩

theorem make_eq_ok_iff : t.make locate fs = (.ok (header, a), fs'')
    ↔ ∃ fs', locate t.header t.package fs = (.ok header, fs')
      ∧ t.artefact header fs' = (.ok a, fs'') := by
  constructor
  · intro h
    obtain ⟨header', fs', hlocate, hmade⟩ := Job.bind_eq_ok_iff.mp h
    obtain ⟨a', fs₁, hartefact, hend⟩ := Job.bind_eq_ok_iff.mp hmade
    cases hend
    exact ⟨fs', hlocate, hartefact⟩
  · rintro ⟨fs', hlocate, hartefact⟩
    rw [make, Job.bind_of_ok hlocate, Job.bind_of_ok hartefact]
    rfl

/-- Making an artefact of a header that is found only looks at the files. -/
theorem snd_artefact (t : Target) (header : Path) (fs : Files) : (t.artefact header fs).2 = fs := by
  cases hread : fs.read header with
  | error fault => rw [artefact, Job.bind_of_error (Job.look_of_error hread)]
  | ok source =>
    rw [artefact, Job.bind_of_ok (Job.look_of_ok hread)]
    rfl

theorem snd_make (hlocate : locate.OnlyLooks) (t : Target) (fs : Files) :
    (t.make locate fs).2 = fs := by
  have hlooks := hlocate t.header t.package fs
  rcases hfound : locate t.header t.package fs with ⟨failure | header, fs'⟩
  · rw [make, Job.bind_of_error hfound]
    rwa [hfound] at hlooks
  · rw [hfound] at hlooks
    have hartefact := t.snd_artefact header fs'
    rcases hmade : t.artefact header fs' with ⟨failure | a, fs''⟩
    · rw [make, Job.bind_of_ok hfound, Job.bind_of_error hmade]
      rw [hmade] at hartefact
      exact hartefact.trans hlooks
    · rw [make, Job.bind_of_ok hfound, Job.bind_of_ok hmade]
      rw [hmade] at hartefact
      exact hartefact.trans hlooks

/-- A target is run by making its artefact and delivering it. -/
theorem run_eq : t.run locate output dryRun = do
    let (header, a) ← t.make locate
    let delivery ← deliver output a.text.encode dryRun
    return t.outcome header output a delivery := by
  funext fs
  simp only [run, make, outcome, Job.bind_apply]
  rcases locate t.header t.package fs with ⟨failure | header, fs'⟩
  · rfl
  · simp only
    rcases t.artefact header fs' with ⟨failure | a, fs''⟩
    · rfl
    · rfl

theorem run_of_make_error (h : t.make locate fs = (.error failure, fs')) :
    t.run locate output dryRun fs = (.error failure, fs') := by
  rw [run_eq, Job.bind_of_error h]

theorem run_of_make (h : t.make locate fs = (.ok (header, a), fs')) :
    t.run locate output dryRun fs
      = (deliver output a.text.encode dryRun >>= fun delivery =>
          (pure (t.outcome header output a delivery) : Job Outcome)) fs' := by
  rw [run_eq, Job.bind_of_ok h]

/-- A target that has run has its artefact delivered. -/
theorem run_eq_ok_iff {o : Outcome} : t.run locate output dryRun fs = (.ok o, fs'')
    ↔ ∃ header a fs' delivery, t.make locate fs = (.ok (header, a), fs')
      ∧ deliver output a.text.encode dryRun fs' = (.ok delivery, fs'')
      ∧ o = t.outcome header output a delivery := by
  constructor
  · intro h
    rw [run_eq] at h
    obtain ⟨⟨header, a⟩, fs', hmake, hrest⟩ := Job.bind_eq_ok_iff.mp h
    obtain ⟨delivery, fs₁, hdeliver, hend⟩ := Job.bind_eq_ok_iff.mp hrest
    cases hend
    exact ⟨header, a, fs', delivery, hmake, hdeliver, rfl⟩
  · rintro ⟨header, a, fs', delivery, hmake, hdeliver, rfl⟩
    rw [run_of_make hmake, Job.bind_of_ok hdeliver]
    rfl

/-! ### The prediction -/

/-- A run over `fs` comes to an end: the header that is found can be read to its end, and if there is
an artefact to deliver, so can what the output leads to. -/
structure RunEnds (t : Target) (locate : Locator) (output : Path) (dryRun : Bool) (fs : Files) :
    Prop where
  /-- The header can be read to its end. -/
  header : ∀ header fs', locate t.header t.package fs = (.ok header, fs') → fs'.ReadEnds header
  /-- So can what the output leads to, if that is looked at. -/
  output : dryRun = false → ∀ header a fs', t.make locate fs = (.ok (header, a), fs') →
    fs'.ReadEnds output

/-- A real run comes to an end if the dry run does and what the output leads to can be read to its
end, should there be an artefact to deliver. -/
theorem runEnds_false_iff : t.RunEnds locate output false fs
    ↔ t.RunEnds locate output true fs
      ∧ ∀ header a fs', t.make locate fs = (.ok (header, a), fs') → fs'.ReadEnds output :=
  ⟨fun h => ⟨⟨h.header, nofun⟩, h.output rfl⟩, fun h => ⟨h.1.header, fun _ => h.2⟩⟩

/-- **A dry run tells what the real one comes to, and touches nothing.**  It leaves the files as
they are.  If it ends in a failure, the real run ends in the same one and leaves the files as they
are too.  If it ends without a failure, the real run ends as soon as what the output leads to can be
read to its end.  It comes to the same then but for the delivery, which is made or found made, or
else the system makes the delivery fail. -/
theorem dryRun_predicts (hlocate : locate.OnlyLooks) (t : Target) (output : Path) (fs : Files) :
    (t.run locate output true fs).2 = fs
      ∧ (t.RunEnds locate output true fs →
        (∀ failure, (t.run locate output true fs).1 = .error failure →
            t.RunEnds locate output false fs
              ∧ t.run locate output false fs = (.error failure, fs))
          ∧ ∀ o, (t.run locate output true fs).1 = .ok o →
            (t.RunEnds locate output false fs ↔ fs.ReadEnds output)
              ∧ (t.RunEnds locate output false fs →
                (∃ delivery fs', (delivery = .written ∨ delivery = .unchanged)
                    ∧ t.run locate output false fs = (.ok { o with delivery := delivery }, fs'))
                  ∨ ∃ a fault fs', t.artefact o.header fs = (.ok a, fs)
                      ∧ deliver output a.text.encode false fs = (.error (.io fault), fs')
                      ∧ t.run locate output false fs = (.error (.io fault), fs'))) := by
  have hmake := snd_make hlocate t fs
  rcases hmade : t.make locate fs with ⟨failure | ⟨header, a⟩, fs'⟩
  · -- nothing is made, so nothing is delivered
    obtain rfl : fs' = fs := by rwa [hmade] at hmake
    have hrun : ∀ dryRun, t.run locate output dryRun fs' = (.error failure, fs') :=
      fun dryRun => run_of_make_error hmade
    refine ⟨by rw [hrun], fun hends => ⟨fun failure' h => ?_, fun o h => ?_⟩⟩
    · rw [hrun] at h
      cases h
      refine ⟨runEnds_false_iff.mpr ⟨hends, fun header a fs'' hmade' => ?_⟩, hrun false⟩
      rw [hmade] at hmade'
      cases hmade'
    · rw [hrun] at h
      cases h
  · obtain rfl : fs' = fs := by rwa [hmade] at hmake
    have hdry : t.run locate output true fs' = (.ok (t.outcome header output a .skipped), fs') :=
      run_eq_ok_iff.mpr ⟨header, a, fs', .skipped, hmade, rfl, rfl⟩
    refine ⟨by rw [hdry], fun hends => ⟨fun failure h => ?_, fun o h => ?_⟩⟩
    · rw [hdry] at h
      cases h
    · rw [hdry] at h
      cases h
      refine ⟨?_, fun _ => ?_⟩
      · rw [runEnds_false_iff, hmade]
        refine ⟨fun h => h.2 header a fs' rfl, fun h => ⟨hends, ?_⟩⟩
        rintro _ _ _ ⟨⟩
        exact h
      rcases deliver_cases output a.text.encode fs' with
        ⟨delivery, fs'', hdelivery, hdeliver⟩ | ⟨fault, fs'', hdeliver⟩
      · exact .inl ⟨delivery, fs'', hdelivery,
          run_eq_ok_iff.mpr ⟨header, a, fs', delivery, hmade, hdeliver, rfl⟩⟩
      · obtain ⟨fs₁, hfound, hartefact⟩ := make_eq_ok_iff.mp hmade
        have hlooks := hlocate t.header t.package fs'
        rw [hfound] at hlooks
        subst hlooks
        refine .inr ⟨a, fault, fs'', hartefact, hdeliver, ?_⟩
        rw [run_of_make hmade, Job.bind_of_error hdeliver]

/-- A header with one entry: its artefact goes to a directory that is not there yet; or it cannot be
written, because the header stands where a directory is wanted; or it is to go to a pipe, and the
real run does not come to an end.  Under another stem there is nothing to make. -/
theorem dryRun_predicts_at_write_error :
    let fs : Files := ⟨[([], .directory 0o755), (["h.h".toList], .file 1), (["p".toList], .pipe 2)],
      [(1, ⟨Text.encode "#define K_A 1".toList, 0o644, 0, 0⟩)], 2, [], 0⟩
    let header : Path := ⟨"/h.h".toList⟩
    let locate : Locator := fun _ _ => pure header
    let t : Target := ⟨"keys".toList, "h.h".toList, none, "K_".toList,
      .slots "keys".toList none, header, none⟩
    let other : Target := { t with stem := "L_".toList }
    let skipped : Outcome := ⟨"keys".toList, header, ⟨"gen/keys.h".toList⟩, 1, 0, 0, .skipped⟩
    locate.OnlyLooks
      ∧ (t.run locate ⟨"gen/keys.h".toList⟩ true fs = (.ok skipped, fs)
        ∧ t.RunEnds locate ⟨"gen/keys.h".toList⟩ false fs
        ∧ ∃ fs', t.run locate ⟨"gen/keys.h".toList⟩ false fs
          = (.ok { skipped with delivery := .written }, fs'))
      ∧ (∃ fs', t.run locate ⟨"h.h/keys.h".toList⟩ false fs = (.error (.io .notDirectory), fs'))
      ∧ ((t.run locate ⟨"p".toList⟩ true fs).1 = .ok { skipped with output := ⟨"p".toList⟩ }
        ∧ ¬ t.RunEnds locate ⟨"p".toList⟩ false fs)
      ∧ other.run locate ⟨"gen/keys.h".toList⟩ false fs
        = (.error (.nothingExtracted "L_".toList "/h.h".toList), fs) := by
  intro fs header locate t other skipped
  have hlocate : locate.OnlyLooks := fun _ _ _ => rfl
  have hends : ∀ (t : Target) output, t.RunEnds locate output true fs := by
    refine fun t output => ⟨?_, nofun⟩
    rintro _ _ ⟨⟩
    exact (by decide +kernel : fs.ReadEnds header)
  have hskipped : (t.run locate ⟨"gen/keys.h".toList⟩ true fs).1 = .ok skipped := by decide +kernel
  have hwritten : (t.run locate ⟨"gen/keys.h".toList⟩ false fs).1
      = .ok { skipped with delivery := .written } := by decide +kernel
  have hblocked : (t.run locate ⟨"h.h/keys.h".toList⟩ false fs).1 = .error (.io .notDirectory) := by
    decide +kernel
  have hskipped' : (t.run locate ⟨"h.h/keys.h".toList⟩ true fs).1
      = .ok { skipped with output := ⟨"h.h/keys.h".toList⟩ } := by decide +kernel
  have hpipe : (t.run locate ⟨"p".toList⟩ true fs).1
      = .ok { skipped with output := ⟨"p".toList⟩ } := by decide +kernel
  refine ⟨hlocate, ⟨?_, ?_⟩, ?_, ⟨hpipe, ?_⟩, ?_⟩
  · exact Prod.ext hskipped (dryRun_predicts hlocate t _ fs).1
  · obtain ⟨hiff, hruns⟩ := ((dryRun_predicts hlocate t _ fs).2 (hends t _)).2 _ hskipped
    have hreal := hiff.mpr (by decide +kernel)
    rcases hruns hreal with ⟨delivery, fs', -, hrun⟩ | ⟨_, fault, fs', -, -, hrun⟩
    · rw [hrun] at hwritten
      cases hwritten
      exact ⟨hreal, fs', hrun⟩
    · rw [hrun] at hwritten
      cases hwritten
  · obtain ⟨hiff, hruns⟩ := ((dryRun_predicts hlocate t _ fs).2 (hends t _)).2 _ hskipped'
    rcases hruns (hiff.mpr (by decide +kernel)) with
      ⟨delivery, fs', -, hrun⟩ | ⟨_, fault, fs', -, -, hrun⟩
    · rw [hrun] at hblocked
      cases hblocked
    · rw [hrun] at hblocked
      cases hblocked
      exact ⟨fs', hrun⟩
  · obtain ⟨hiff, -⟩ := ((dryRun_predicts hlocate t _ fs).2 (hends t _)).2 _ hpipe
    exact hiff.not.mpr (by decide +kernel)
  · exact (((dryRun_predicts hlocate other _ fs).2 (hends other _)).1 _ (by decide +kernel)).2

end Target

end NameTables
