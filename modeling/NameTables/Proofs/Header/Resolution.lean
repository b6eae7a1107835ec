import Mathlib.Control.Monad.Basic
import Mathlib.Tactic.SplitIfs
import NameTables.Proofs.Header.Rule
import NameTables.Proofs.Tool.Processes
import NameTables.Resolver

/-!
# How looking for a header ends

The tools may do anything: not start, not end in time, end with any code and any output, and the
compiler may leave any bytes for a rule.  Whatever they do, a path that is found is an absolute word
of the rule and ends in the header, and each way to fail has a failure of its own.  A name that
cannot be included starts no process, and a package tool that fails keeps the compiler from being
started.

## Main definitions

* `Resolver.KnowsFlags`, `Resolver.AsksCompiler` — how far the search has come.
* `Rule.Lists` — a rule lists a path for a header.

## Main statements

* `Resolver.resolve_of_asks` — once the compiler is asked, its answer decides.
* `Resolver.resolve_outcome` — what comes of looking for a header.
-/

namespace NameTables

/-- The rule with this text lists the path for the header: the path is an absolute word of it, and
its parts end in those of the header. -/
def Rule.Lists (text header : Text) (p : Path) : Prop :=
  p.text ∈ tokens text ∧ p.isAbsolute ∧ (Path.mk header).parts <:+ p.parts

theorem Job.withScratch_eq_ok {α : Type} {ending : Text} {content : Bytes} {use : Path → Job α}
    {fs : Files} {a : α} (h : (Job.withScratch ending content use fs).1 = .ok a) :
    ∃ fs₁, fs.write (fs.freeScratchPath ending) content = .ok fs₁
      ∧ (use (fs.freeScratchPath ending) fs₁).1 = .ok a := by
  simp only [Job.withScratch] at h
  cases hwrite : fs.write (fs.freeScratchPath ending) content with
  | ok fs₁ =>
    rw [hwrite] at h
    exact ⟨fs₁, rfl, h⟩
  | error fault =>
    rw [hwrite] at h
    cases h

namespace Resolver

variable {r : Resolver} {tools : Tools} {header text : Text} {package : Option Text}
  {flags : List Text} {source ruleFile p : Path} {fs fs₁ fs₂ : Files}

theorem isIncludeName_eq_false_iff : isIncludeName header = false
    ↔ header = [] ∨ '<' ∈ header ∨ '>' ∈ header ∨ '\n' ∈ header := by
  simp only [isIncludeName, Bool.and_eq_false_iff, Bool.not_eq_false', List.isEmpty_iff,
    List.any_eq_true, Bool.or_eq_true, decide_eq_true_eq]
  refine or_congr_right ⟨?_, ?_⟩
  · rintro ⟨c, hc, (rfl | rfl) | rfl⟩
    · exact .inl hc
    · exact .inr (.inl hc)
    · exact .inr (.inr hc)
  · rintro (hc | hc | hc)
    · exact ⟨_, hc, .inl (.inl rfl)⟩
    · exact ⟨_, hc, .inl (.inr rfl)⟩
    · exact ⟨_, hc, .inr rfl⟩

/-! ### How far the search has come -/

/-- The flags that find a header are known: the search list's, and the package tool's behind them if
a package is given and the tool has succeeded. -/
inductive KnowsFlags (r : Resolver) (tools : Tools) :
    (package : Option Text) → Files → List Text → Files → Prop
  /-- No package is given, and no tool is asked. -/
  | alone (fs : Files) : KnowsFlags r tools none fs r.search.flags fs
  /-- The package tool tells the flags of the package. -/
  | package {name : Text} {fs fs' : Files} {e : Ended}
    (hcall : tools (r.packageTool.flagsCall name) fs = (.ended e, fs')) (he : e.succeeded) :
    KnowsFlags r tools (some name) fs
      (r.search.flags ++ PackageTool.flagsIn e.output.decodeLossy) fs'

theorem searchFlags_of_knows (h : r.KnowsFlags tools package fs flags fs₁) :
    r.searchFlags tools header package fs = (.ok flags, fs₁) := by
  cases h with
  | alone => rfl
  | package hcall he => exact Job.bind_of_ok (PackageTool.flags_of_ended hcall he)

theorem knows_of_searchFlags (h : r.searchFlags tools header package fs = (.ok flags, fs₁)) :
    r.KnowsFlags tools package fs flags fs₁ := by
  cases package with
  | none =>
    cases h
    exact .alone fs
  | some name =>
    obtain ⟨told, fs', htold, hend⟩ := Job.bind_eq_ok_iff.mp h
    obtain ⟨e, hcall, he, rfl⟩ := PackageTool.flags_eq_ok htold
    cases hend
    exact .package hcall he

/-- The name can be included, the flags are known and both scratch files are made: it is time to ask
the compiler for the rule. -/
structure AsksCompiler (r : Resolver) (tools : Tools) (header : Text) (package : Option Text)
    (fs : Files) (flags : List Text) (source ruleFile : Path) (fs' : Files) : Prop where
  /-- The name can be included. -/
  isName : isIncludeName header
  /-- The flags are known, and after that both scratch files are made. -/
  ready : ∃ fs₁ fs₂, r.KnowsFlags tools package fs flags fs₁
    ∧ fs₁.freeScratchPath ".c".toList = source
    ∧ fs₁.write source (translationUnit header).encode = .ok fs₂
    ∧ fs₂.freeScratchPath ".d".toList = ruleFile
    ∧ fs₂.write ruleFile [] = .ok fs'

/-- Read the rule, and look the header up in it. -/
def lookUp (header : Text) (ruleFile : Path) : Job Path := do
  let rule := Rule.ofText (← readText ruleFile)
  Job.ofExcept (headerIn header rule)

/-- Ask the compiler for the rule, and look the header up in it. -/
def consult (r : Resolver) (tools : Tools) (header : Text) (flags : List Text)
    (source ruleFile : Path) : Job Path := do
  r.compiler.listDependencies tools header source ruleFile flags
  lookUp header ruleFile

/-- Once the compiler is to be asked, the rest of the search is to ask it, and to tidy up. -/
theorem resolve_of_asks
    (h : r.AsksCompiler tools header package fs flags source ruleFile fs₁) :
    r.resolve tools header package fs
      = ((r.consult tools header flags source ruleFile fs₁).1,
        ((r.consult tools header flags source ruleFile fs₁).2.unlink ruleFile).unlink source) := by
  obtain ⟨hname, fs', fs'', hflags, hsource, hwrite, hrule, hwrite'⟩ := h
  rw [resolve, if_pos hname, Job.bind_of_ok (searchFlags_of_knows hflags)]
  simp only [Job.withScratch, Job.andFinally, hsource, hwrite, hrule, hwrite']
  rfl

theorem fst_resolve_of_asks
    (h : r.AsksCompiler tools header package fs flags source ruleFile fs₁) :
    (r.resolve tools header package fs).1
      = (r.consult tools header flags source ruleFile fs₁).1 := by
  rw [resolve_of_asks h]

/-! ### What the rule says -/

theorem headerIn_eq_ok (h : headerIn header (Rule.ofText text) = .ok p) :
    Rule.Lists text header p := by
  rw [headerIn] at h
  split_ifs at h
  obtain ⟨hmem, hends⟩ := Rule.headerPath_eq_ok h
  obtain ⟨htoken, hroot⟩ := Rule.mem_paths_ofText_iff.mp hmem
  exact ⟨htoken, hroot, Path.endsWith_iff.mp hends⟩

theorem headerIn_of_no_path (hnone : ∀ token ∈ Rule.tokens text, ¬ (Path.mk token).isAbsolute) :
    headerIn header (Rule.ofText text) = .error (.headerNotFound header .noRule) := by
  have hempty : (Rule.ofText text).paths = [] := by
    refine List.eq_nil_iff_forall_not_mem.mpr fun p hp => ?_
    obtain ⟨htoken, hroot⟩ := Rule.mem_paths_ofText_iff.mp hp
    exact hnone p.text htoken hroot
  rw [headerIn, hempty]
  rfl

/-- With a path in the rule, the header is found exactly when one is listed for it, and the rule is
malformed otherwise. -/
theorem headerIn_of_path (hsome : ∃ token ∈ Rule.tokens text, (Path.mk token).isAbsolute) :
    ((∃ p, Rule.Lists text header p) → ∃ p, headerIn header (Rule.ofText text) = .ok p)
      ∧ ((¬ ∃ p, Rule.Lists text header p) →
        ∃ fault, headerIn header (Rule.ofText text) = .error (.malformedRule fault)) := by
  have hne : (Rule.ofText text).paths.isEmpty = false := by
    obtain ⟨token, htoken, hroot⟩ := hsome
    exact List.isEmpty_eq_false_iff_exists_mem.mpr
      ⟨⟨token⟩, Rule.mem_paths_ofText_iff.mpr ⟨htoken, hroot⟩⟩
  have hiff : (∃ p, headerIn header (Rule.ofText text) = .ok p)
      ↔ ∃ p, Rule.Lists text header p := by
    rw [headerIn, hne, if_neg Bool.false_ne_true, Rule.exists_headerPath_iff]
    refine exists_congr fun p => ?_
    rw [Rule.mem_paths_ofText_iff, Path.endsWith_iff, and_assoc]
    rfl
  refine ⟨hiff.mpr, fun hnone => ?_⟩
  rw [← hiff] at hnone
  cases hfound : headerIn header (Rule.ofText text) with
  | ok p => exact absurd ⟨p, hfound⟩ hnone
  | error failure =>
    rw [headerIn, hne, if_neg Bool.false_ne_true] at hfound
    obtain ⟨⟨fault, rfl⟩, -⟩ := Rule.headerPath_eq_error hfound
    exact ⟨fault, rfl⟩

/-! ### Reading the rule -/

theorem readText_of_error {fault : IoFault} (hread : fs.read ruleFile = .error fault) :
    readText ruleFile fs = (.error (.io fault), fs) := by
  refine Job.look_of_error ?_
  rw [hread]
  rfl

theorem readText_of_none {content : Bytes} (hread : fs.read ruleFile = .ok content)
    (hdecode : content.decode? = none) :
    readText ruleFile fs = (.error (.io .notUtf8), fs) := by
  refine Job.look_of_error ?_
  simp only [hread, bind, Except.bind, hdecode]

theorem readText_of_some {content : Bytes} (hread : fs.read ruleFile = .ok content)
    (hdecode : content.decode? = some text) : readText ruleFile fs = (.ok text, fs) := by
  refine Job.look_of_ok ?_
  simp only [hread, bind, Except.bind, hdecode]

theorem lookUp_of_none {content : Bytes} (hread : fs.read ruleFile = .ok content)
    (hdecode : content.decode? = none) :
    lookUp header ruleFile fs = (.error (.io .notUtf8), fs) :=
  Job.bind_of_error (readText_of_none hread hdecode)

theorem lookUp_of_some {content : Bytes} (hread : fs.read ruleFile = .ok content)
    (hdecode : content.decode? = some text) :
    lookUp header ruleFile fs = (headerIn header (Rule.ofText text), fs) :=
  Job.bind_of_ok (readText_of_some hread hdecode)

/-- What is found is listed in the rule. -/
theorem lookUp_eq_ok (h : lookUp header ruleFile fs = (.ok p, fs₁)) :
    ∃ content text, fs.read ruleFile = .ok content ∧ content.decode? = some text
      ∧ Rule.Lists text header p := by
  cases hread : fs.read ruleFile with
  | error fault =>
    rw [lookUp, Job.bind_of_error (readText_of_error hread)] at h
    cases h
  | ok content =>
    cases hdecode : content.decode? with
    | none =>
      rw [lookUp_of_none hread hdecode] at h
      cases h
    | some text =>
      rw [lookUp_of_some hread hdecode] at h
      exact ⟨content, text, rfl, hdecode, headerIn_eq_ok (congrArg Prod.fst h)⟩

/-! ### The exits -/

theorem resolve_of_not_name (h : isIncludeName header = false) :
    r.resolve tools header package fs = (.error (.headerNotFound header .notIncludeName), fs) := by
  rw [resolve, h, if_neg Bool.false_ne_true]
  rfl

theorem resolve_of_package_fails {name : Text} {reply : Reply} {failure : Failure}
    (hname : isIncludeName header) (hcall : tools (r.packageTool.flagsCall name) fs = (reply, fs₁))
    (hfails : reply.Fails (r.packageTool.flagsCall name) (PackageTool.unknown name header)
      failure) :
    r.resolve tools header (some name) fs = (.error failure, fs₁) := by
  rw [resolve, if_pos hname]
  exact Job.bind_of_error (Job.bind_of_error (PackageTool.flags_of_fails hcall hfails))

/-- A search that finds something has asked the compiler. -/
theorem exists_asks_of_resolve_eq_ok (h : (r.resolve tools header package fs).1 = .ok p) :
    ∃ flags source ruleFile fs₁,
      r.AsksCompiler tools header package fs flags source ruleFile fs₁ := by
  cases hname : isIncludeName header with
  | false =>
    rw [resolve_of_not_name hname] at h
    cases h
  | true =>
    rw [resolve, if_pos hname] at h
    obtain ⟨flags, fs₁, hflags, hscratch⟩ := Job.bind_eq_ok_iff.mp (Prod.ext h rfl)
    obtain ⟨fs₂, hwrite, hinner⟩ := Job.withScratch_eq_ok (congrArg Prod.fst hscratch)
    obtain ⟨fs₃, hwrite', -⟩ := Job.withScratch_eq_ok hinner
    exact ⟨flags, _, _, fs₃, hname, fs₁, fs₂, knows_of_searchFlags hflags, rfl, hwrite, rfl,
      hwrite'⟩

/-! ### The processes -/

/-- The questions to the package tool. -/
def packageQuestions (r : Resolver) (package : Option Text) (fs : Files) : List (Call × Files) :=
  package.toList.map fun name => (r.packageTool.flagsCall name, fs)

theorem AsksCompiler.congr {tools' : Tools}
    (hagree : tools.AgreeOn tools' (r.packageQuestions package fs))
    (h : r.AsksCompiler tools header package fs flags source ruleFile fs₁) :
    r.AsksCompiler tools' header package fs flags source ruleFile fs₁ := by
  obtain ⟨hname, fs', fs'', hflags, hready⟩ := h
  refine ⟨hname, fs', fs'', ?_, hready⟩
  cases hflags with
  | alone => exact .alone fs
  | package hcall he =>
    refine .package ?_ he
    rw [← hcall]
    exact hagree _ List.mem_cons_self

theorem consult_congr {tools' : Tools}
    (h : tools' (r.compiler.dependencyCall source ruleFile flags) fs
      = tools (r.compiler.dependencyCall source ruleFile flags) fs) :
    r.consult tools' header flags source ruleFile fs
      = r.consult tools header flags source ruleFile fs := by
  simp only [consult, Job.bind_apply, Compiler.listDependencies_eq_require, Tools.require_congr h]

/-- A search that asks the compiler has started nothing but the package tool and the compiler. -/
theorem startsOnly_of_asks (h : r.AsksCompiler tools header package fs flags source ruleFile fs₁) :
    tools.StartsOnly
      (r.packageQuestions package fs ++ [(r.compiler.dependencyCall source ruleFile flags, fs₁)])
      fun tools => r.resolve tools header package fs := by
  intro tools' hagree
  have hasks : r.AsksCompiler tools' header package fs flags source ruleFile fs₁ :=
    h.congr fun question hquestion => hagree question (List.mem_append_left _ hquestion)
  have hcompiler : tools' (r.compiler.dependencyCall source ruleFile flags) fs₁
      = tools (r.compiler.dependencyCall source ruleFile flags) fs₁ :=
    hagree _ (List.mem_append_right _ List.mem_cons_self)
  simp only [resolve_of_asks hasks, resolve_of_asks h, consult_congr hcompiler]

/-! ### The outcome -/

/-- **What comes of looking for a header**, for any tools.  A path that is found is listed for the
header in the rule that the compiler has left.  A name that cannot be included is refused, and no
process is started.  A package tool that does not succeed makes the search fail, each way in a
failure of its own, and the compiler is not started.  The same holds of the compiler, which is asked
once the flags are known and the scratch files are made.  If it has succeeded, its rule decides: it
has to be text, it has to hold a path, and one that is listed for the header. -/
theorem resolve_outcome (r : Resolver) (tools : Tools) (header : Text) (package : Option Text)
    (fs : Files) :
    let resolved := r.resolve tools header package fs
    let starts := fun asked => tools.StartsOnly asked fun tools => r.resolve tools header package fs
    (∀ p, resolved.1 = .ok p →
        ∃ flags source ruleFile fs₁ e fs₂ content text,
          r.AsksCompiler tools header package fs flags source ruleFile fs₁
            ∧ tools (r.compiler.dependencyCall source ruleFile flags) fs₁ = (.ended e, fs₂)
            ∧ e.succeeded
            ∧ fs₂.read ruleFile = .ok content ∧ content.decode? = some text
            ∧ Rule.Lists text header p)
      ∧ (header = [] ∨ '<' ∈ header ∨ '>' ∈ header ∨ '\n' ∈ header →
          resolved = (.error (.headerNotFound header .notIncludeName), fs) ∧ starts [])
      ∧ (∀ name reply fs₁, isIncludeName header → package = some name →
          tools (r.packageTool.flagsCall name) fs = (reply, fs₁) →
          (∀ fault, reply ≠ .lost fault) → ¬ reply.Succeeds →
            ∃ failure,
              reply.Fails (r.packageTool.flagsCall name) (PackageTool.unknown name header) failure
                ∧ resolved = (.error failure, fs₁)
                ∧ starts [(r.packageTool.flagsCall name, fs)])
      ∧ ∀ flags source ruleFile fs₁ reply fs₂,
          r.AsksCompiler tools header package fs flags source ruleFile fs₁ →
          tools (r.compiler.dependencyCall source ruleFile flags) fs₁ = (reply, fs₂) →
          (∀ fault, reply ≠ .lost fault) →
            starts (r.packageQuestions package fs
              ++ [(r.compiler.dependencyCall source ruleFile flags, fs₁)])
            ∧ (¬ reply.Succeeds →
                ∃ failure,
                  reply.Fails (r.compiler.dependencyCall source ruleFile flags)
                      (Compiler.refusal header) failure
                    ∧ resolved.1 = .error failure)
            ∧ (reply.Succeeds → ∀ content, fs₂.read ruleFile = .ok content →
                (content.decode? = none → resolved.1 = .error (.io .notUtf8))
                ∧ ∀ text, content.decode? = some text →
                    ((∀ token ∈ Rule.tokens text, ¬ (Path.mk token).isAbsolute) →
                      resolved.1 = .error (.headerNotFound header .noRule))
                    ∧ ((∃ token ∈ Rule.tokens text, (Path.mk token).isAbsolute) →
                        ((∃ p, Rule.Lists text header p) → ∃ p, resolved.1 = .ok p)
                        ∧ ((¬ ∃ p, Rule.Lists text header p) →
                            ∃ fault, resolved.1 = .error (.malformedRule fault)))) := by
  intro resolved starts
  refine ⟨?_, ?_, ?_, ?_⟩
  · intro p hp
    obtain ⟨flags, source, ruleFile, fs₁, hasks⟩ := exists_asks_of_resolve_eq_ok hp
    have hconsult : (r.consult tools header flags source ruleFile fs₁).1 = .ok p :=
      (fst_resolve_of_asks hasks).symm.trans hp
    obtain ⟨⟨⟩, fs₂, hlist, hlook⟩ := Job.bind_eq_ok_iff.mp (Prod.ext hconsult rfl)
    obtain ⟨e, hcall, he⟩ := Compiler.listDependencies_eq_ok hlist
    obtain ⟨content, text, hread, hdecode, hlists⟩ := lookUp_eq_ok hlook
    exact ⟨flags, source, ruleFile, fs₁, e, fs₂, content, text, hasks, hcall, he, hread, hdecode,
      hlists⟩
  · intro hheader
    have hname : isIncludeName header = false := isIncludeName_eq_false_iff.mpr hheader
    refine ⟨resolve_of_not_name hname, fun tools' _ => ?_⟩
    simp only [resolve_of_not_name hname]
  · rintro name reply fs₁ hname rfl hcall hknown hreply
    obtain ⟨failure, hfails⟩ := Reply.exists_fails hreply hknown
    refine ⟨failure, hfails, resolve_of_package_fails hname hcall hfails, fun tools' hagree => ?_⟩
    have hcall' : tools' (r.packageTool.flagsCall name) fs = (reply, fs₁) := by
      rw [← hcall]
      exact hagree _ List.mem_cons_self
    simp only [resolve_of_package_fails hname hcall hfails,
      resolve_of_package_fails hname hcall' hfails]
  · intro flags source ruleFile fs₁ reply fs₂ hasks hcall hknown
    have hresolved : resolved.1 = (r.consult tools header flags source ruleFile fs₁).1 :=
      fst_resolve_of_asks hasks
    refine ⟨startsOnly_of_asks hasks, fun hreply => ?_, fun hreply content hread => ?_⟩
    · obtain ⟨failure, hfails⟩ := Reply.exists_fails hreply hknown
      refine ⟨failure, hfails, ?_⟩
      rw [hresolved, consult, Job.bind_of_error (Compiler.listDependencies_of_fails hcall hfails)]
    · obtain ⟨e, rfl, he⟩ := hreply
      have hlook : resolved.1 = (lookUp header ruleFile fs₂).1 := by
        rw [hresolved, consult, Job.bind_of_ok (Compiler.listDependencies_of_ended hcall he)]
      refine ⟨fun hdecode => ?_, fun text hdecode => ?_⟩
      · rw [hlook, lookUp_of_none hread hdecode]
      · rw [hlook, lookUp_of_some hread hdecode]
        exact ⟨headerIn_of_no_path, headerIn_of_path⟩

/-- A header that stands third in the rule, a name with a line end in it, and a package tool and a
compiler that cannot be started. -/
theorem resolve_outcome_at_input_header :
    let fs : Files :=
      ⟨[([], .directory 0o755), (["tmp".toList], .directory 0o755)], [], 0, [], 0⟩
    let r : Resolver :=
      ⟨⟨⟨"cc".toList⟩, .ofSeconds 30⟩, ⟨⟨"pkg-config".toList⟩, .ofSeconds 30⟩, .empty⟩
    let rule := "x.o: /tmp/x.c /usr/include/stdc-predef.h \\\n /usr/include/linux/input.h\n".toList
    let header := "linux/input.h".toList
    let package := "evdev".toList
    (∃ p, (r.resolve (.answering rule) header none fs).1 = .ok p
        ∧ ∃ text, Rule.Lists text header p)
      ∧ r.resolve (.answering rule) "a.h>\n".toList none fs
        = (.error (.headerNotFound "a.h>\n".toList .notIncludeName), fs)
      ∧ (r.resolve .none header (some package) fs
          = (.error (.toolUnavailable (.cannotRun "pkg-config".toList .notFound)), fs)
        ∧ Tools.none.StartsOnly [(r.packageTool.flagsCall package, fs)]
            fun tools => r.resolve tools header (some package) fs)
      ∧ (r.resolve .none header none fs).1
        = .error (.toolUnavailable (.cannotRun "cc".toList .notFound)) := by
  intro fs r rule header package
  have hok : (r.resolve (.answering rule) header none fs).1
      = .ok ⟨"/usr/include/linux/input.h".toList⟩ := by decide +kernel
  obtain ⟨hfound, -, -, hrule⟩ := resolve_outcome r (.answering rule) header none fs
  obtain ⟨flags, source, ruleFile, fs₁, e, fs₂, content, text, hasks, hcall, he, hread, hdecode,
    hroot, hlists⟩ := hfound _ hok
  refine ⟨?_, ?_, ?_, ?_⟩
  · obtain ⟨-, -, hexit⟩ := hrule flags source ruleFile fs₁ (.ended e) fs₂ hasks hcall nofun
    obtain ⟨-, hpaths⟩ := (hexit ⟨e, rfl, he⟩ content hread).2 text hdecode
    obtain ⟨p, hp⟩ := (hpaths ⟨_, hroot, hlists.1⟩).1 ⟨_, hroot, hlists⟩
    obtain ⟨_, _, _, _, _, _, _, text, -, -, -, -, -, hlists⟩ := hfound p hp
    exact ⟨p, hp, text, hlists⟩
  · obtain ⟨-, hname, -⟩ := resolve_outcome r (.answering rule) "a.h>\n".toList none fs
    exact (hname (by decide)).1
  · obtain ⟨-, -, hpackage, -⟩ := resolve_outcome r .none header (some package) fs
    obtain ⟨failure, hfails, hresolved, hstarts⟩ :=
      hpackage package (.notStarted .notFound) fs rfl rfl rfl nofun nofun
    cases hfails
    exact ⟨hresolved, hstarts⟩
  · -- whether the compiler is asked is settled before it answers
    have hasks' : r.AsksCompiler .none header none fs flags source ruleFile fs₁ :=
      hasks.congr nofun
    obtain ⟨-, -, -, hcompiler⟩ := resolve_outcome r .none header none fs
    obtain ⟨-, hexit, -⟩ := hcompiler flags source ruleFile fs₁ (.notStarted .notFound) fs₁ hasks'
      rfl nofun
    obtain ⟨failure, hfails, hresolved⟩ := hexit nofun
    cases hfails
    exact hresolved

end Resolver

end NameTables
