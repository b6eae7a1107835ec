import NameTables.Proofs.Files.Additions
import NameTables.Proofs.Header.Consultation
import NameTables.Proofs.Run.InTurn

/-!
# What is there after a run

A target that has run has its text in its output, and a later target changes no other file than its
own output.  So each text is there when all targets have run, unless a later target goes to the same
file: nothing keeps two targets from doing that.  Nor does anything keep a tool from writing to an
output, and a device keeps no text at all.

## Main definitions

* `Files.SameFile` — two paths lead to one file.
* `Settings.Reaches` — the files that there are when some of the targets have run.
* `Settings.Generates` — the artefact that is made for a target while all targets run.
* `Settings.LeavesAlone` — later targets and their tools leave the output of a target alone.
* `Settings.Loses` — all targets run, and the artefact of one is not in its output.

## Main statements

* `keeps_deliver` — a delivery touches the file it is for.
* `Settings.LeavesAlone.keepsPath` — an output that is left alone is kept while the others run.
* `Settings.runAll_delivers` — what the outputs hold when all targets have run.
-/

namespace NameTables

variable {fs fs' : Files} {p : Path} {content : Bytes} {delivery : Delivery}

/-- The two paths lead to one file. -/
def Files.SameFile (fs : Files) (p q : Path) : Prop :=
  ∃ n, fs.nodeAt? p = some (.file n) ∧ fs.nodeAt? q = some (.file n)

/-! ### Deliveries -/

/-- A delivery touches the file it is for, and that carries the content afterwards. -/
theorem keeps_deliver (hsound : fs.Sound) (h : deliver p content false fs = (.ok delivery, fs')) :
    fs.Keeps fs' (fun n => fs'.nodeAt? p = some (.file n)) ∧ fs'.Carries p content := by
  have hdelivers := delivers p content fs
  rw [h] at hdelivers
  cases hdelivers with
  | unchanged hheld => exact ⟨.refl fs _, Files.carries_of_hasContent hheld⟩
  | @written made _ _ hmade hwrite =>
    have hparent := (Files.addsDirectories_withParent fs p).keeps
    rw [hmade] at hparent
    have hsound₁ := hparent.sound hsound
    have hwritten := Files.keeps_write hsound₁ hwrite
    refine ⟨?_, Files.carries_of_write hsound₁ hwrite⟩
    refine hparent.mono nofun |>.trans hwritten fun n _ hn => ?_
    exact hwritten.nodeAt? hn

/-! ### Targets -/

/-- Making an artefact finds the header, and does no more to the files. -/
theorem Target.locate_of_make {t : Target} {locate : Locator} {header : Path} {a : Artefact}
    (h : t.make locate fs = (.ok (header, a), fs')) :
    locate t.header t.package fs = (.ok header, fs') := by
  obtain ⟨fs₁, hlocate, hartefact⟩ := make_eq_ok_iff.mp h
  have hsame : fs' = fs₁ := by rw [← t.snd_artefact header fs₁, hartefact]
  rw [hsame, hlocate]

namespace Settings

variable {s : Settings} {tools : Tools} {r : Resolver} {targets before mid after rest : List Target}
  {t u : Target} {os : List Outcome} {o : Outcome} {fs₁ fs₂ : Files}

/-! ### While all targets run -/

/-- While all targets run, these are what finds headers and the files that there are when those in
`done` have run. -/
def Reaches (s : Settings) (tools : Tools) (fs : Files) (done : List Target) (r : Resolver)
    (fs₁ : Files) : Prop :=
  ∃ fs₀ os, Resolver.ofSettings tools s.tools fs = (.ok r, fs₀)
    ∧ s.RunsThrough (r.resolve tools) false fs₀ done os fs₁

/-- One more target is run. -/
theorem Reaches.concat (h : s.Reaches tools fs before r fs₁)
    (hrun : u.run (r.resolve tools) (s.outputPath u) false fs₁ = (.ok o, fs₂)) :
    s.Reaches tools fs (before ++ [u]) r fs₂ := by
  obtain ⟨fs₀, os, hresolver, hruns⟩ := h
  exact ⟨fs₀, _, hresolver, hruns.append (.cons hrun (.nil fs₂))⟩

/-- When a header is found for a target, the store is sound. -/
theorem sound_of_make {header : Path} {a : Artefact} (htools : tools.KeepSound) (hsound : fs.Sound)
    (hmake : t.make (r.resolve tools) fs = (.ok (header, a), fs')) : fs'.Sound :=
  (Resolver.keepsSound_resolve htools r _ _).sound hsound (Target.locate_of_make hmake)

theorem RunsThrough.sound (hruns : s.RunsThrough (r.resolve tools) false fs targets os fs')
    (htools : tools.KeepSound) (hsound : fs.Sound) : fs'.Sound := by
  generalize hreal : false = dryRun at hruns
  induction hruns with
  | nil => exact hsound
  | cons hrun _ ih =>
    subst hreal
    obtain ⟨_, _, fs₂, _, hmake, hdeliver, -⟩ := Target.run_eq_ok_iff.mp hrun
    have hsound₂ : fs₂.Sound := sound_of_make htools hsound hmake
    exact ih ((keeps_deliver hsound₂ hdeliver).1.sound hsound₂)

theorem Reaches.sound (h : s.Reaches tools fs before r fs₁) (htools : tools.KeepSound)
    (hsound : fs.Sound) : fs₁.Sound := by
  obtain ⟨fs₀, os, hresolver, hruns⟩ := h
  exact hruns.sound htools
    ((Resolver.keepsSound_ofSettings htools s.tools).sound hsound hresolver)

/-- While all targets run, this artefact is made for `t` when those in `before` have run. -/
def Generates (s : Settings) (tools : Tools) (fs : Files) (before : List Target) (t : Target)
    (a : Artefact) : Prop :=
  ∃ r fs₁ header fs₂, s.Reaches tools fs before r fs₁
    ∧ t.make (r.resolve tools) fs₁ = (.ok (header, a), fs₂)

/-! ### Outputs that are left alone -/

/-- While all targets run, those in `after` and their tools leave the output of `t` alone, which has
run when those in `before` had. -/
structure LeavesAlone (s : Settings) (tools : Tools) (fs : Files) (before : List Target) (t : Target)
    (after : List Target) : Prop where
  /-- The output of a later target does not lead to the same file when that target has run. -/
  apart : ∀ mid u rest r fs₁, after = mid ++ u :: rest →
    s.Reaches tools fs (before ++ t :: mid ++ [u]) r fs₁ →
      ¬ fs₁.SameFile (s.outputPath t) (s.outputPath u)
  /-- No tool that is started for a later target changes what the output leads to, or what is in
  the file there; nor does it make the removal of the scratch files do so. -/
  spared : ∀ mid u rest r fs₁ asked left, after = mid ++ u :: rest →
    s.Reaches tools fs (before ++ t :: mid) r fs₁ →
    r.Consults tools u.header u.package fs₁ asked left → asked.KeepsPath left (s.outputPath t)

/-- An output that is left alone is kept while the other targets run. -/
theorem LeavesAlone.keepsPath (halone : s.LeavesAlone tools fs before t after)
    (htools : tools.KeepSound) (hsound : fs.Sound) (hafter : after = mid ++ rest)
    (hmid : s.Reaches tools fs (before ++ t :: mid) r fs₁)
    (hrest : s.RunsThrough (r.resolve tools) false fs₁ rest os fs') :
    fs₁.KeepsPath fs' (s.outputPath t) := by
  induction rest generalizing mid os fs₁ with
  | nil =>
    cases hrest
    exact .refl ..
  | cons u rest ih =>
    cases hrest with
    | @cons _ fs₃ _ _ _ o _ hrun hrest =>
      obtain ⟨header, a, fs₂, delivery, hmake, hdeliver, -⟩ := Target.run_eq_ok_iff.mp hrun
      have hsound₁ := hmid.sound htools hsound
      have hsound₂ : fs₂.Sound := sound_of_make htools hsound₁ hmake
      have hfound : fs₁.KeepsPath fs₂ (s.outputPath t) :=
        Resolver.keepsPath_resolve htools hsound₁ (Target.locate_of_make hmake)
          fun asked left => halone.spared mid u rest r fs₁ asked left hafter hmid
      have hnext : s.Reaches tools fs (before ++ t :: mid ++ [u]) r fs₃ := hmid.concat hrun
      obtain ⟨hkeeps, -⟩ := keeps_deliver hsound₂ hdeliver
      have hdelivered : fs₂.KeepsPath fs₃ (s.outputPath t) :=
        hkeeps.keepsPath hsound₂ fun n hnode htouched =>
          halone.apart mid u rest r fs₃ hafter hnext ⟨n, hkeeps.nodeAt? hnode, htouched⟩
      refine (hfound.trans hdelivered).trans (@ih (mid ++ [u]) _ _ ?_ ?_ hrest)
      · rw [hafter, ← List.append_cons]
      · rwa [List.append_assoc] at hnext

/-! ### All targets -/

/-- **What the outputs hold when all targets have run**, with settings that can be loaded: the output
of every target carries the artefact that has been made for it in this run, if the later targets and
their tools leave it alone. -/
theorem runAll_delivers {report : Report} (hs : s.Accepted) (htools : tools.KeepSound)
    (hsound : fs.Sound) (hrun : s.runAll tools false fs = (report, fs'))
    (hok : report.complaint = none) (htargets : s.targets = before ++ t :: after) :
    ∃ a, s.Generates tools fs before t a
      ∧ (s.LeavesAlone tools fs before t after →
        fs'.Carries (s.outputPath t) a.text.encode) := by
  have hends := hs.ends_runAll tools false fs
  rw [hrun] at hends
  cases hends with
  | unprepared => cases hok
  | stopped => cases hok
  | @through r os fs₀ _ hresolver hruns =>
    rw [htargets] at hruns
    obtain ⟨os₁, os₂, fs₁, hbefore, hrest⟩ := hruns.of_append
    have hreaches : s.Reaches tools fs before r fs₁ := ⟨fs₀, os₁, hresolver, hbefore⟩
    cases hrest with
    | cons hrunt hafter =>
      obtain ⟨header, a, fs₂, delivery, hmake, hdeliver, -⟩ := Target.run_eq_ok_iff.mp hrunt
      refine ⟨a, ⟨r, fs₁, header, fs₂, hreaches, hmake⟩, fun halone => ?_⟩
      have hsound₂ : fs₂.Sound := sound_of_make htools (hreaches.sound htools hsound) hmake
      obtain ⟨-, hcarries⟩ := keeps_deliver hsound₂ hdeliver
      exact hcarries.of_keepsPath
        (halone.keepsPath htools hsound (List.nil_append after).symm (hreaches.concat hrunt) hafter)

/-- The built-in targets, whose outputs are different files, and a compiler that drops a file of its
own and puts a new file in the place of the one that it is to write the rule to. -/
theorem runAll_delivers_at_default :
    let keysymsHeader : Text := "#define XKB_KEY_a 0x61\n".toList
    let keycodesHeader : Text := "#define KEY_A 1\n".toList
    let fs : Files := ⟨[([], .directory 0o755), (["tmp".toList], .directory 0o755),
        (["xkbcommon".toList], .directory 0o755), (["linux".toList], .directory 0o755),
        (["xkbcommon-keysyms.h".toList, "xkbcommon".toList], .file 1),
        (["input-event-codes.h".toList, "linux".toList], .file 2), (["cache".toList], .file 3)],
      [(1, ⟨keysymsHeader.encode, 0o644, 0, 0⟩), (2, ⟨keycodesHeader.encode, 0o644, 0, 0⟩),
        (3, ⟨[], 0o644, 0, 0⟩)],
      3, [], 0⟩
    let answering := Tools.answering
      "x.o: /x.c /xkbcommon/xkbcommon-keysyms.h /linux/input-event-codes.h\n".toList
    let tools : Tools := fun call fs =>
      answering call ((call.ruleFile?.elim fs fs.remove).remove ⟨"/cache".toList⟩)
    let after := (default.runAll tools false fs).2
    tools.KeepSound ∧ default.LeavesAlone tools fs [] keysyms [keycodes]
      ∧ (∃ a, default.Generates tools fs [] keysyms a
        ∧ after.Carries (default.outputPath keysyms) a.text.encode)
      ∧ ∃ a, default.Generates tools fs [keysyms] keycodes a
        ∧ after.Carries (default.outputPath keycodes) a.text.encode := by
  intro keysymsHeader keycodesHeader fs answering tools after
  have hrun : default.runAll tools false fs = ((default.runAll tools false fs).1, after) := rfl
  have hok : (default.runAll tools false fs).1.complaint = none := by decide +kernel
  have hsound : fs.Sound := Files.sound_of_all (by decide +kernel)
  have hdifferent : after.nodeAt? (default.outputPath keysyms)
      ≠ after.nodeAt? (default.outputPath keycodes) := by decide +kernel
  have htools : tools.KeepSound := by
    intro call fs hsound
    refine Tools.keepSound_answering _ call _ (Files.Sound.remove ?_ _)
    cases call.ruleFile? with
    | none => exact hsound
    | some p => exact hsound.remove p
  have hreached : ∀ done r fs₁, default.Reaches tools fs done r fs₁ →
      r = ⟨⟨⟨"cc".toList⟩, .ofSeconds 30⟩, ⟨⟨"pkg-config".toList⟩, .ofSeconds 30⟩, .empty⟩
        ∧ fs₁ = (runInTurn default (r.resolve tools) false done
          (Resolver.ofSettings tools default.tools fs).2).2 := by
    rintro done r fs₁ ⟨fs₀, os, hresolver, hruns⟩
    refine ⟨Except.ok.inj ((congrArg Prod.fst hresolver).symm.trans (by decide +kernel)), ?_⟩
    rw [hresolver, runInTurn_eq_none_iff.mpr hruns]
  have honly : ∀ mid (u : Target) rest, [keycodes] = mid ++ u :: rest →
      mid = [] ∧ [keycodes] = u :: rest := by
    rintro (_ | ⟨v, mid⟩) u rest hafter
    · exact ⟨rfl, hafter⟩
    · simp at hafter
  have halone : default.LeavesAlone tools fs [] keysyms [keycodes] := by
    constructor
    · intro mid u rest r fs₁ hafter hreaches
      obtain ⟨rfl, ⟨⟩⟩ := honly mid u rest hafter
      obtain ⟨rfl, rfl⟩ := hreached _ r fs₁ hreaches
      rintro ⟨n, hfirst, hsecond⟩
      exact hdifferent (hfirst.trans hsecond.symm)
    · intro mid u rest r fs₁ asked left hafter hreaches hconsults
      obtain ⟨rfl, ⟨⟩⟩ := honly mid u rest hafter
      obtain ⟨rfl, rfl⟩ := hreached _ r fs₁ hreaches
      -- No package is named for the second target, so only a compiler is started.
      generalize hnone : keycodes.package = package at hconsults
      cases hconsults with
      | package => cases hnone
      | compiler hasks =>
        cases hnone
        obtain ⟨rfl, rfl, rfl, rfl⟩ := hasks.eq_of_none
        exact Files.keepsPath_of_eval (n := 7) (by decide +kernel)
  refine ⟨htools, halone, ?_, ?_⟩
  · obtain ⟨a, hmade, hcarries⟩ :=
      runAll_delivers accepted_default htools hsound hrun hok (rfl : _ = [] ++ keysyms :: [keycodes])
    exact ⟨a, hmade, hcarries halone⟩
  · obtain ⟨a, hmade, hcarries⟩ :=
      runAll_delivers accepted_default htools hsound hrun hok (rfl : _ = [keysyms] ++ keycodes :: [])
    have hlast : ∀ mid (u : Target) rest, [] ≠ mid ++ u :: rest := by simp
    exact ⟨a, hmade, hcarries ⟨fun mid u rest _ _ h => absurd h (hlast mid u rest),
      fun mid u rest _ _ _ _ h => absurd h (hlast mid u rest)⟩⟩

/-- All targets run, and the output of `t` does not hold the artefact that was made for it. -/
def Loses (s : Settings) (tools : Tools) (fs : Files) (before : List Target) (t : Target) : Prop :=
  ∃ a after report fs', s.targets = before ++ t :: after
    ∧ s.runAll tools false fs = (report, fs') ∧ report.complaint = none
    ∧ s.Generates tools fs before t a ∧ fs'.read (s.outputPath t) ≠ .ok a.text.encode

/-- Whether an artefact is lost can be computed. -/
theorem loses_of_eval {r : Resolver} {before after : List Target} {t : Target}
    (hresolver : Resolver.ofSettings tools s.tools fs = (.ok r, fs))
    (htargets : s.targets = before ++ t :: after)
    (hok : (s.runAll tools false fs).1.complaint = none)
    (hbefore : (runInTurn s (r.resolve tools) false before fs).1.failure = none)
    (hlost : ((t.make (r.resolve tools) (runInTurn s (r.resolve tools) false before fs).2).1.map
      fun made => decide ((s.runAll tools false fs).2.read (s.outputPath t)
        ≠ .ok made.2.text.encode)) = .ok true) :
    s.Loses tools fs before t := by
  have hruns : s.RunsThrough (r.resolve tools) false fs before
      (runInTurn s (r.resolve tools) false before fs).1.outcomes
      (runInTurn s (r.resolve tools) false before fs).2 := by
    refine runInTurn_eq_none_iff.mp (Prod.ext ?_ rfl)
    rw [← hbefore]
  rcases hmake : t.make (r.resolve tools) (runInTurn s (r.resolve tools) false before fs).2 with
    ⟨failure | ⟨header, a⟩, fs₂⟩
  · rw [hmake] at hlost
    cases hlost
  · rw [hmake] at hlost
    exact ⟨a, after, _, _, htargets, rfl, hok, ⟨r, _, header, fs₂, ⟨fs, _, hresolver, hruns⟩, hmake⟩,
      of_decide_eq_true (Except.ok.inj hlost)⟩

/-- Settings that can be loaded, all of whose targets run, and artefacts that are lost all the same:
to a device; to a later target whose output is another spelling of the same path; to tools that
empty a file when they are asked for a rule; and to tools that have the directory for scratch files
lead to where the output is, which has the name of the scratch file that is then removed. -/
theorem exists_loses :
    let text : Text := ("[[\"cc\"], null, ["
      ++ "[\"i\", \"h.h\", null, \"I_\", [\"flat_array\", \"i\"], \"null\", \"i\"],"
      ++ " [\"k\", \"h.h\", null, \"K_\", [\"flat_array\", \"k\"], \"macrotab-000000.c\", \"k\"],"
      ++ " [\"l\", \"h.h\", null, \"L_\", [\"flat_array\", \"l\"], \"two.h\", \"l\"],"
      ++ " [\"m\", \"h.h\", null, \"M_\", [\"flat_array\", \"m\"], \"./two.h\", \"m\"]]]").toList
    let header : Text := "#define I_A 0\n#define K_A 1\n#define L_B 2\n#define M_C 3\n".toList
    let fs : Files := ⟨[([], .directory 0o755), (["tmp".toList], .directory 0o755),
        (["null".toList], .device .sink), (["h.h".toList], .file 1), (["m.json".toList], .file 2)],
      [(1, ⟨header.encode, 0o644, 0, 0⟩), (2, ⟨text.encode, 0o644, 0, 0⟩)], 2, [], 0⟩
    let target (name stem output : Text) : Target :=
      ⟨name, "h.h".toList, none, stem, .slots name none, ⟨output⟩, some name⟩
    let i := target "i".toList "I_".toList "null".toList
    let k := target "k".toList "K_".toList "macrotab-000000.c".toList
    let l := target "l".toList "L_".toList "two.h".toList
    let m := target "m".toList "M_".toList "./two.h".toList
    let s : Settings := ⟨⟨some ⟨"cc".toList⟩, ⟨"pkg-config".toList⟩, 30, []⟩, none, [i, k, l, m]⟩
    let tools := Tools.answering "x.o: /x.c /y.h /h.h\n".toList
    let spoilt : Path := ⟨"/macrotab-000000.c".toList⟩
    let meddling : Tools := fun call fs =>
      let (reply, fs) := tools call fs
      (reply, (fs.write spoilt []).toOption.getD fs)
    let redirecting : Tools := fun call fs =>
      if fs.holds spoilt then
        tools { call with args := ["-M".toList, "-MF".toList, "/macrotab-000000.d".toList] }
          ((fs.erase ["tmp".toList]).put ["tmp".toList] (.link ['/']))
      else tools call fs
    s.Accepted ∧ fs.Sound
      ∧ s.Loses tools fs [] i ∧ s.Loses tools fs [i, k] l ∧ s.Loses meddling fs [i] k
      ∧ s.Loses redirecting fs [i] k := by
  intro text header fs target i k l m s tools spoilt meddling redirecting
  refine ⟨⟨some ⟨"/m.json".toList⟩, fs, by decide +kernel⟩,
    Files.sound_of_all (by decide +kernel), ?_, ?_, ?_, ?_⟩
  · exact loses_of_eval rfl rfl (by decide +kernel) rfl (by decide +kernel)
  · exact loses_of_eval rfl rfl (by decide +kernel) (by decide +kernel) (by decide +kernel)
  · exact loses_of_eval rfl rfl (by decide +kernel) (by decide +kernel) (by decide +kernel)
  · exact loses_of_eval rfl rfl (by decide +kernel) (by decide +kernel) (by decide +kernel)

end Settings

end NameTables
