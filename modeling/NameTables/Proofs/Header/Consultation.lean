import NameTables.Proofs.Header.Resolution
import NameTables.Proofs.Header.Scratch
import NameTables.Proofs.Run.Soundness

/-!
# What a search does to the files

A search for a header works on the files in three ways: it writes scratch files, which are new; it
asks tools, which may do anything; and it removes the scratch files by their paths, which may have
come to lead elsewhere by then.  So what is there after a search is up to what each tool leaves, with
the scratch files gone in the case of the compiler.

## Main definitions

* `Resolver.Consults` — the files over which a tool is asked, and those that it leaves.

## Main statements

* `Resolver.keepsPath_resolve` — a search keeps a path that none of its tools harms.
-/

namespace NameTables

namespace Resolver

variable {r : Resolver} {tools : Tools} {header : Text} {package : Option Text}
  {flags : List Text} {source ruleFile p : Path} {fs fs₁ asked left : Files}

/-- In a search over `fs` a tool is asked over the files `asked`, and `left` is what there is when it
has done its work and, if it was the compiler, both scratch files are removed. -/
inductive Consults (r : Resolver) (tools : Tools) (header : Text) :
    (package : Option Text) → (fs asked left : Files) → Prop
  /-- The package tool is asked first. -/
  | package (name : Text) (fs : Files) :
    Consults r tools header (some name) fs fs (tools (r.packageTool.flagsCall name) fs).2
  /-- The compiler is asked when the flags are known. -/
  | compiler {package : Option Text} {flags : List Text} {source ruleFile : Path} {fs asked : Files}
    (hasks : r.AsksCompiler tools header package fs flags source ruleFile asked) :
    Consults r tools header package fs asked
      (((tools (r.compiler.dependencyCall source ruleFile flags) asked).2.unlink ruleFile).unlink
        source)

/-- Looking a header up leaves the files as they are. -/
theorem snd_lookUp (header : Text) (ruleFile : Path) (fs : Files) :
    (lookUp header ruleFile fs).2 = fs := by
  rw [lookUp, Job.snd_bind_of_snd_eq (fun _ _ => rfl), readText, Job.look]
  split <;> rfl

/-- Of what is done over the scratch files, only the compiler changes the files. -/
theorem snd_consult (r : Resolver) (tools : Tools) (header : Text) (flags : List Text)
    (source ruleFile : Path) (fs : Files) : (r.consult tools header flags source ruleFile fs).2
      = (tools (r.compiler.dependencyCall source ruleFile flags) fs).2 := by
  rw [consult, Job.snd_bind_of_snd_eq fun _ => snd_lookUp header ruleFile,
    Compiler.listDependencies_eq_require, Tools.require, Job.snd_bind_of_snd_eq fun e fs => ?_]
  · rfl
  · split_ifs <;> rfl

/-- The scratch files are no harm to what is there when the flags are known. -/
theorem AsksCompiler.exists_keeps (htools : tools.KeepSound) (hsound : fs.Sound)
    (h : r.AsksCompiler tools header package fs flags source ruleFile asked) :
    ∃ known, r.KnowsFlags tools package fs flags known ∧ known.Sound
      ∧ known.Keeps asked fun _ => False := by
  obtain ⟨-, known, written, hflags, rfl, hwrite, rfl, hwrite'⟩ := h
  have hknown : known.Sound := by
    cases hflags with
    | alone => exact hsound
    | @package name _ _ _ hcall =>
      have hleft := htools (r.packageTool.flagsCall name) fs hsound
      rwa [hcall] at hleft
  have hfirst := Files.keeps_write_scratch hknown (by decide) hwrite
  have hsecond := Files.keeps_write_scratch (hfirst.sound hknown) (by decide) hwrite'
  exact ⟨known, hflags, hknown, hfirst.trans hsecond fun _ _ => id⟩

/-- The files with a content at a path, if it can be written. -/
def written (fs : Files) (p : Path) (content : Bytes) : Files :=
  (fs.write p content).toOption.getD fs

theorem written_of_ok {content : Bytes} (h : fs.write p content = .ok fs₁) :
    written fs p content = fs₁ := by
  rw [written, h]
  rfl

/-- Without a package, it can be computed what the compiler is asked, and over which files. -/
theorem AsksCompiler.eq_of_none
    (h : r.AsksCompiler tools header none fs flags source ruleFile asked) :
    flags = r.search.flags
      ∧ source = fs.freeScratchPath ".c".toList
      ∧ ruleFile
        = (written fs source (translationUnit header).encode).freeScratchPath ".d".toList
      ∧ asked = written (written fs source (translationUnit header).encode) ruleFile [] := by
  obtain ⟨-, known, fs₂, hflags, rfl, hwrite, rfl, hwrite'⟩ := h
  cases hflags
  rw [written_of_ok hwrite, written_of_ok hwrite']
  exact ⟨rfl, rfl, rfl, rfl⟩

/-- **A search that finds something keeps a path** that none of its tools harms. -/
theorem keepsPath_resolve {found : Path} (htools : tools.KeepSound) (hsound : fs.Sound)
    (hresolve : r.resolve tools header package fs = (.ok found, fs₁))
    (hkeeps : ∀ asked left, r.Consults tools header package fs asked left →
      asked.KeepsPath left p) : fs.KeepsPath fs₁ p := by
  obtain ⟨flags, source, ruleFile, asked, hasks⟩ :=
    exists_asks_of_resolve_eq_ok (congrArg Prod.fst hresolve)
  obtain ⟨known, hflags, hknown, hscratch⟩ := hasks.exists_keeps htools hsound
  have hpackage : fs.KeepsPath known p := by
    cases hflags with
    | alone => exact .refl fs p
    | @package name _ _ _ hcall =>
      have hkept := hkeeps _ _ (.package name fs)
      rwa [hcall] at hkept
  have hcompiler := hkeeps _ _ (.compiler hasks)
  rw [resolve_of_asks hasks, snd_consult] at hresolve
  obtain rfl := congrArg Prod.snd hresolve
  exact (hpackage.trans (hscratch.keepsPath hknown fun _ _ => id)).trans hcompiler

end Resolver

end NameTables
