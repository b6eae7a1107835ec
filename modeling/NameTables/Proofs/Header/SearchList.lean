import Mathlib.Data.List.Induction
import NameTables.Proofs.Header.Resolution
import NameTables.Proofs.Path.Spelling

/-!
# What the search list holds

A search list is the record of what was added to it: each directory made absolute, in the order of
the first additions, without those that an earlier one spells in another way.  The flags that the
compiler is given follow the list.

## Main definitions

* `Path.firsts` — paths without those that are the same as an earlier one.
* `SearchList.Records` — a list is the record of these additions.

## Main statements

* `SearchList.Records.add`, `SearchList.Records.addAll` — one addition, and any number of them.
* `SearchList.add_eq_self_iff` — when an addition changes nothing.
* `Resolver.flags_of_asks` — the flags that the compiler is given.
* `Resolver.search_of_ofSettings` — the search list of a resolver, and the flags it makes.
-/

namespace NameTables

/-! ### First spellings -/

namespace Path

/-- The paths, each that is the same as an earlier one removed. -/
def firsts : List Path → List Path
  | [] => []
  | p :: rest => p :: (firsts rest).filter fun q => !p.same q

@[simp] theorem firsts_nil : firsts [] = [] := rfl

theorem firsts_cons (p : Path) (rest : List Path) :
    firsts (p :: rest) = p :: (firsts rest).filter fun q => !p.same q := rfl

theorem firsts_sublist (l : List Path) : (firsts l).Sublist l := by
  induction l with
  | nil => exact .slnil
  | cons p l ih => exact (List.filter_sublist.trans ih).cons_cons p

/-- No two of the paths left are the same. -/
theorem pairwise_firsts (l : List Path) : (firsts l).Pairwise fun p q => ¬ p.same q := by
  induction l with
  | nil => exact .nil
  | cons p l ih =>
    refine .cons (fun q hq => ?_) (ih.filter _)
    obtain ⟨-, hsame⟩ := List.mem_filter.mp hq
    simpa using hsame

theorem same_comm (p q : Path) : p.same q = q.same p := by
  simp only [same, eq_comm]

/-- What is the same as one of the paths is the same as one that is left. -/
theorem any_same_firsts (l : List Path) (p : Path) : (firsts l).any p.same = l.any p.same := by
  induction l with
  | nil => rfl
  | cons q l ih =>
    rw [firsts_cons, List.any_cons, List.any_cons, List.any_filter, ← ih]
    by_cases hq : p.same q
    · rw [hq, Bool.true_or, Bool.true_or]
    · -- what is the same as `q` is not the same as `p`
      have hother : ∀ r, (!q.same r && p.same r) = p.same r := by
        intro r
        by_cases hr : p.same r
        · have hne : ¬ q.same r := by
            rw [same_iff] at hq hr ⊢
            rwa [← hr, eq_comm]
          simp [hr, hne]
        · simp [hr]
      simp only [hother]

/-- One more path is left at the end unless it is the same as an earlier one. -/
theorem firsts_concat (l : List Path) (p : Path) :
    firsts (l ++ [p]) = if l.any p.same then firsts l else firsts l ++ [p] := by
  induction l with
  | nil => rfl
  | cons q l ih =>
    rw [List.cons_append, firsts_cons, ih, firsts_cons, List.any_cons, same_comm p q]
    by_cases hany : l.any p.same
    · rw [if_pos hany, if_pos (by rw [hany, Bool.or_true])]
    · rw [if_neg hany, List.filter_append]
      by_cases hsame : q.same p
      · simp [hsame]
      · simp [hsame, hany]

end Path

/-! ### Additions -/

namespace SearchList

variable {l : SearchList} {here dir : Path} {dirs args : List Path}

/-- The list is the record of directories added one after another. -/
def Records (l : SearchList) (args : List Path) : Prop := l.dirs = Path.firsts args

/-- One addition. -/
theorem Records.add (h : l.Records args) (here dir : Path) :
    (l.add here dir).Records (args ++ [here.join dir]) := by
  have hlists : l.lists (here.join dir) = args.any (here.join dir).same := by
    rw [lists, h, Path.any_same_firsts]
  rw [Records, Path.firsts_concat, SearchList.add, hlists]
  split_ifs
  · exact h
  · exact congrArg (· ++ [here.join dir]) h

/-- Any number of additions. -/
theorem Records.addAll (h : l.Records args) (here : Path) (dirs : List Path) :
    (l.addAll here dirs).Records (args ++ dirs.map here.join) := by
  induction dirs generalizing l args with
  | nil => simpa [SearchList.addAll] using h
  | cons dir dirs ih =>
    have hrest := ih (h.add here dir)
    rwa [List.append_assoc] at hrest

/-- Adding changes nothing exactly when some listed path is another spelling of the addition. -/
theorem add_eq_self_iff : l.add here dir = l ↔ ∃ p ∈ l.dirs, (here.join dir).Respells p := by
  have hlists : l.lists (here.join dir) ↔ ∃ p ∈ l.dirs, (here.join dir).Respells p := by
    simp only [lists, List.any_eq_true, Path.respells_iff_same]
  rw [← hlists, add]
  split_ifs with h
  · exact iff_of_true rfl h
  · refine iff_of_false (fun heq => ?_) h
    have hlength := congrArg (fun l => l.dirs.length) heq
    simp at hlength

end SearchList

/-! ### The arguments of the compiler -/

/-- Whether the program succeeds is known before what follows. -/
theorem Tools.require_bind {α : Type} (tools : Tools) (call : Call) (refused : Ended → Failure)
    (next : Job α) :
    (tools.require call refused (fun _ => pure ()) >>= fun _ => next)
      = tools.require call refused fun _ => next := by
  funext fs
  simp only [require, Job.bind_apply]
  rcases tools.run call fs with ⟨failure | e, fs'⟩
  · rfl
  · by_cases he : e.succeeded
    · simp only [if_pos he, Job.pure_apply]
    · simp only [if_neg he, Job.fail_apply]

theorem Files.isAbsolute_herePath (fs : Files) : fs.herePath.isAbsolute := by
  unfold herePath pathOf
  split
  · rfl
  · next hne =>
    obtain ⟨name, rest, hplace⟩ := List.exists_cons_of_ne_nil (mt List.reverse_eq_nil_iff.mp hne)
    rw [hplace]
    rfl

namespace Resolver

variable {r : Resolver} {tools : Tools} {header : Text} {package : Option Text}
  {flags : List Text} {source ruleFile here : Path} {fs fs₁ fs' : Files} {s : ToolSettings}

/-- The flags of the package, if one is given: the words that the package tool writes, in order. -/
inductive PackageFlags (r : Resolver) (tools : Tools) (fs : Files) :
    (package : Option Text) → List Text → Prop
  /-- No package is given. -/
  | none : PackageFlags r tools fs none []
  /-- The package tool has succeeded. -/
  | told {name : Text} {fs' : Files} {e : Ended}
    (hcall : tools (r.packageTool.flagsCall name) fs = (.ended e, fs')) (he : e.succeeded) :
    PackageFlags r tools fs (some name) e.output.decodeLossy.words

/-- The flags that the compiler is given are those of the search list, and behind them those of the
package. -/
theorem flags_of_asks (h : r.AsksCompiler tools header package fs flags source ruleFile fs₁) :
    ∃ told, r.PackageFlags tools fs package told ∧ flags = r.search.flags ++ told := by
  obtain ⟨-, fs₂, -, hflags, -⟩ := h
  cases hflags with
  | alone => exact ⟨[], .none, (List.append_nil _).symm⟩
  | package hcall he => exact ⟨_, .told hcall he, rfl⟩

/-- Asking the compiler is to require that one call, and then to look the header up. -/
theorem consult_eq_require : r.consult tools header flags source ruleFile
    = tools.require (r.compiler.dependencyCall source ruleFile flags) (Compiler.refusal header)
        fun _ => lookUp header ruleFile := by
  rw [consult, Compiler.listDependencies_eq_require]
  exact Tools.require_bind ..

theorem search_eq_of_ofSettings (h : ofSettings tools s fs = (.ok r, fs')) :
    r.search = SearchList.empty.addAll fs'.herePath s.includeDirs := by
  obtain ⟨c, fs₁, -, hnext⟩ := Job.bind_eq_ok_iff.mp h
  cases hnext
  rfl

/-- **The search list is a record of what was added to it, and makes the compiler's flags.**  After
the directories of the settings and any others have been added, the list has each of them, made
absolute against the current directory, in the order of the first additions, without those that are
the same as an earlier one.  All are absolute and no two are the same.  Adding a directory changes
nothing exactly when it is another spelling of one that is listed.  The compiler is called with the
five arguments that ask for a dependency rule, one flag for each listed directory, in order and as
it was first spelled, and the flags of the package behind them. -/
theorem search_of_ofSettings (hr : ofSettings tools s fs = (.ok r, fs')) (hhere : here.isAbsolute)
    (dirs : List Path) :
    let r' := r.addDirs here dirs
    let listed := r'.search.dirs
    let args := s.includeDirs.map fs'.herePath.join ++ dirs.map here.join
    (listed = Path.firsts args ∧ listed.Sublist args)
      ∧ (∀ p ∈ listed, p.isAbsolute)
      ∧ listed.Pairwise (fun p q => ¬ p.same q)
      ∧ (∀ dir, r'.addDirs here [dir] = r' ↔ ∃ p ∈ listed, (here.join dir).Respells p)
      ∧ ∀ tools header package fs flags source ruleFile fs₁,
          r'.AsksCompiler tools header package fs flags source ruleFile fs₁ →
            ∃ told, r'.PackageFlags tools fs package told
              ∧ let call : Call :=
                  { program := r'.compiler.program
                    args := ["-M".toList, "-MF".toList, ruleFile.text, "-xc".toList, source.text]
                      ++ (listed.map fun dir => "-I".toList ++ dir.text) ++ told
                    limit := r'.compiler.limit }
                (r'.resolve tools header package fs).1
                    = (tools.require call (Compiler.refusal header)
                        (fun _ => lookUp header ruleFile) fs₁).1
                  ∧ tools.StartsOnly (r'.packageQuestions package fs ++ [(call, fs₁)])
                      fun tools => r'.resolve tools header package fs := by
  intro r' listed args
  have hempty : SearchList.empty.Records [] := rfl
  have hrecords : r'.search.Records args := by
    have hfirst := hempty.addAll fs'.herePath s.includeDirs
    rw [← search_eq_of_ofSettings hr] at hfirst
    exact hfirst.addAll here dirs
  have hlisted : listed = Path.firsts args := hrecords
  have hsublist : listed.Sublist args := hlisted ▸ Path.firsts_sublist args
  refine ⟨⟨hlisted, hsublist⟩, fun p hp => ?_, ?_, fun dir => ?_, ?_⟩
  · have hp := hsublist.mem hp
    rw [List.mem_append, List.mem_map, List.mem_map] at hp
    rcases hp with ⟨dir, -, rfl⟩ | ⟨dir, -, rfl⟩
    · exact Path.isAbsolute_join fs'.isAbsolute_herePath dir
    · exact Path.isAbsolute_join hhere dir
  · exact hlisted ▸ Path.pairwise_firsts args
  · rw [← SearchList.add_eq_self_iff]
    constructor
    · exact fun h => congrArg Resolver.search h
    · intro h
      exact congrArg (fun search => { r' with search := search }) h
  · intro tools header package fs flags source ruleFile fs₁ hasks
    obtain ⟨told, htold, rfl⟩ := flags_of_asks hasks
    refine ⟨told, htold, ?_⟩
    have hcall : r'.compiler.dependencyCall source ruleFile (r'.search.flags ++ told)
        = { program := r'.compiler.program
            args := ["-M".toList, "-MF".toList, ruleFile.text, "-xc".toList, source.text]
              ++ (listed.map fun dir => "-I".toList ++ dir.text) ++ told
            limit := r'.compiler.limit } := by
      rw [Compiler.dependencyCall, Compiler.dependencyArgs, ← List.append_assoc]
      rfl
    refine ⟨?_, hcall ▸ startsOnly_of_asks hasks⟩
    rw [fst_resolve_of_asks hasks, consult_eq_require, hcall]

/-- Directories of the settings added again in other spellings, and a new one; the compiler is given
three flags for them. -/
theorem search_of_ofSettings_at_respelled :
    let fs : Files := ⟨[([], .directory 0o755), (["tmp".toList], .directory 0o755),
      (["w".toList], .directory 0o755)], [], 0, ["w".toList], 0⟩
    let here : Path := ⟨"/w".toList⟩
    let s : ToolSettings :=
      { ToolSettings.default with
        compiler := some ⟨"cc".toList⟩, includeDirs := [⟨"inc".toList⟩, ⟨"/opt//x/".toList⟩] }
    let r : Resolver := ⟨⟨⟨"cc".toList⟩, .ofSeconds 30⟩, ⟨⟨"pkg-config".toList⟩, .ofSeconds 30⟩,
      ⟨[⟨"/w/inc".toList⟩, ⟨"/opt//x/".toList⟩]⟩⟩
    let r' := r.addDirs here [⟨"./inc/".toList⟩, ⟨"/opt/./x".toList⟩, ⟨"y".toList⟩]
    let tools := Tools.answering "x.o: /tmp/x.c /w/inc/a.h\n".toList
    (ofSettings tools s fs = (.ok r, fs) ∧ here.isAbsolute)
      ∧ r'.search.dirs = [⟨"/w/inc".toList⟩, ⟨"/opt//x/".toList⟩, ⟨"/w/y".toList⟩]
      ∧ r'.addDirs here [⟨"/w//inc".toList⟩] = r'
      ∧ ∃ flags source ruleFile fs₁,
          r'.AsksCompiler tools "a.h".toList none fs flags source ruleFile fs₁
            ∧ tools.StartsOnly
                [(⟨⟨"cc".toList⟩, ["-M".toList, "-MF".toList, ruleFile.text, "-xc".toList,
                  source.text, "-I/w/inc".toList, "-I/opt//x/".toList, "-I/w/y".toList],
                  .ofSeconds 30⟩, fs₁)]
                fun tools => r'.resolve tools "a.h".toList none fs := by
  intro fs here s r r' tools
  have hr : ofSettings tools s fs = (.ok r, fs) := rfl
  have hhere : here.isAbsolute := rfl
  obtain ⟨⟨hlisted, -⟩, -, -, hadd, hcompiler⟩ := search_of_ofSettings hr hhere
    [⟨"./inc/".toList⟩, ⟨"/opt/./x".toList⟩, ⟨"y".toList⟩]
  have hdirs : r'.search.dirs
      = [⟨"/w/inc".toList⟩, ⟨"/opt//x/".toList⟩, ⟨"/w/y".toList⟩] := by
    rw [hlisted]
    decide
  refine ⟨⟨hr, hhere⟩, hdirs, ?_, ?_⟩
  · refine (hadd _).mpr ⟨⟨"/w/inc".toList⟩, ?_, Path.respells_iff_same.mpr (by decide)⟩
    rw [hdirs]
    exact List.mem_cons_self
  · have hok : (r'.resolve tools "a.h".toList none fs).1 = .ok ⟨"/w/inc/a.h".toList⟩ := by
      decide +kernel
    obtain ⟨flags, source, ruleFile, fs₁, hasks⟩ := exists_asks_of_resolve_eq_ok hok
    obtain ⟨told, htold, -, hstarts⟩ := hcompiler _ _ _ _ _ _ _ _ hasks
    cases htold
    rw [hdirs] at hstarts
    exact ⟨flags, source, ruleFile, fs₁, hasks, hstarts⟩

end Resolver

end NameTables
