import NameTables.Proofs.Text.Cutting
import NameTables.Proofs.Text.Utf8
import NameTables.Proofs.Tool.Processes

/-!
# The compiler that is looked for

The first of the usual compilers that succeeds in telling its version is taken, whatever it prints.
Whether a compiler can be used is told from the first line of what it prints, so it has to print
something, and all of it in UTF-8.  A compiler that can be used is taken when the search comes to
it, but one that is taken is not always one that can be used.

## Main definitions

* `Tools.Repeats` — a call that comes to the same reply whenever it is made.
* `Reply.Prints` — a program that prints a text.
* `Compiler.Takes` — the search takes a compiler when it comes to it.

## Main statements

* `Compiler.detectAmong_cons` — the search at one compiler.
* `Compiler.isSome_versionOf?_iff` — which programs tell a version.
* `Compiler.detection_and_availability` — which compilers are taken, and which of them can be used.
* `Compiler.detection_without_availability` — compilers that are taken and cannot be used.
-/

namespace NameTables

namespace Tools

variable {tools : Tools} {call : Call} {reply : Reply} {fs fs' : Files}

/-- The call comes to this reply whenever it is made. -/
def Repeats (tools : Tools) (call : Call) (reply : Reply) : Prop :=
  ∀ fs, (tools call fs).1 = reply

theorem attempt_run (hcall : tools call fs = (reply, fs')) :
    (tools.run call).attempt fs = (.ok (reply.result call), fs') := by
  rw [Job.attempt_apply, run_of_reply hcall]

end Tools

namespace Reply

/-- The program has ended, and what it has printed is not empty and UTF-8 throughout. -/
def Prints (reply : Reply) : Prop :=
  ∃ e, reply = .ended e ∧ e.output ≠ [] ∧ e.output.decode?.isSome

theorem succeeds_ended_iff {e : Ended} : (Reply.ended e).Succeeds ↔ e.succeeded := by
  constructor
  · rintro ⟨e', he, hsucceeded⟩
    cases he
    exact hsucceeded
  · exact fun he => ⟨e, rfl, he⟩

theorem prints_ended_iff {e : Ended} :
    (Reply.ended e).Prints ↔ e.output ≠ [] ∧ e.output.decode?.isSome := by
  constructor
  · rintro ⟨e', he, hprints⟩
    cases he
    exact hprints
  · exact fun hprints => ⟨e, rfl, hprints⟩

instance (reply : Reply) : Decidable reply.Succeeds :=
  match reply with
  | .ended _ => decidable_of_iff _ succeeds_ended_iff.symm
  | .notStarted _ => isFalse nofun
  | .timedOut => isFalse nofun
  | .lost _ => isFalse nofun

end Reply

namespace Compiler

variable {c : Compiler} {tools : Tools} {limit : Duration} {name : Text} {names : List Text}
  {reply : Reply} {replies : Text → Reply} {fs fs' : Files}

/-- The compiler with a name, each call of which has this time. -/
def named (name : Text) (limit : Duration) : Compiler := ⟨⟨name⟩, limit⟩

/-! ### The search -/

/-- The search takes the compiler with this name when it comes to it. -/
def Takes (tools : Tools) (limit : Duration) (name : Text) : Prop :=
  ∀ names fs, (detectAmong tools limit (name :: names) fs).1 = .ok (some (named name limit))

/-- A compiler that succeeds in telling its version ends the search. -/
theorem detectAmong_cons (hcall : tools (named name limit).versionCall fs = (reply, fs')) :
    detectAmong tools limit (name :: names) fs
      = if reply.Succeeds then (.ok (some (named name limit)), fs')
        else detectAmong tools limit names fs' := by
  refine (Job.bind_of_ok (Tools.attempt_run hcall)).trans ?_
  cases reply with
  | ended e =>
    simp only [Reply.result, Reply.succeeds_ended_iff]
    split_ifs <;> rfl
  | notStarted _ | timedOut | lost _ => exact (if_neg nofun).symm

theorem takes_iff (h : tools.Repeats (named name limit).versionCall reply) :
    Takes tools limit name ↔ reply.Succeeds := by
  have hcons : ∀ names fs, detectAmong tools limit (name :: names) fs
      = if reply.Succeeds
        then (.ok (some (named name limit)), (tools (named name limit).versionCall fs).2)
        else detectAmong tools limit names (tools (named name limit).versionCall fs).2 :=
    fun names fs => detectAmong_cons (Prod.ext (h fs) rfl)
  constructor
  · intro htakes
    by_contra hfails
    -- with nothing behind it the search would end without a compiler
    have hnone := htakes [] ⟨[], [], 0, [], 0⟩
    rw [hcons, if_neg hfails] at hnone
    cases hnone
  · intro hsucceeds names fs
    rw [hcons, if_pos hsucceeds]

/-- What the search ends with is one of the names, and is taken. -/
theorem takes_of_detectAmong
    (h : ∀ name, tools.Repeats (named name limit).versionCall (replies name))
    (hfound : (detectAmong tools limit names fs).1 = .ok (some c)) :
    ∃ name ∈ names, c = named name limit ∧ Takes tools limit name := by
  induction names generalizing fs with
  | nil => cases hfound
  | cons name names ih =>
    have hcall : tools (named name limit).versionCall fs
        = (replies name, (tools (named name limit).versionCall fs).2) := Prod.ext (h name fs) rfl
    rw [detectAmong_cons hcall] at hfound
    split_ifs at hfound with hsucceeds
    · cases hfound
      exact ⟨name, List.mem_cons_self, rfl, (takes_iff (h name)).mpr hsucceeds⟩
    · obtain ⟨name', hmem, hc⟩ := ih hfound
      exact ⟨name', List.mem_cons_of_mem _ hmem, hc⟩

/-! ### The version -/

/-- A version is told by a program that succeeds and prints a text that is not empty. -/
theorem isSome_versionOf?_iff {e : Ended} :
    (versionOf? e).isSome ↔ e.succeeded ∧ (Reply.ended e).Prints := by
  rw [Reply.prints_ended_iff, versionOf?]
  by_cases he : e.succeeded
  · rw [if_pos he]
    cases hdecode : e.output.decode? with
    | none => simp
    | some s =>
      -- a text without a first line is empty, and so are its octets
      have hempty : s = [] ↔ e.output = [] := by
        rw [← Bytes.decodeLossy_of_decode? hdecode, Bytes.decodeLossy_eq_nil_iff]
      simp [he, ← hempty, ← Text.lines_eq_nil_iff]
  · simp [he]

/-- A compiler can be used if it tells a version. -/
theorem isAvailable_of_call (hcall : tools c.versionCall fs = (reply, fs')) :
    ∃ available, c.isAvailable tools fs = (.ok available, fs')
      ∧ (available = true ↔ reply.Succeeds ∧ reply.Prints) := by
  have hattempt := Tools.attempt_run hcall
  cases reply with
  | ended e =>
    have hversion : c.version? tools fs = (.ok (versionOf? e), fs') := Job.bind_of_ok hattempt
    refine ⟨(versionOf? e).isSome, Job.bind_of_ok hversion, ?_⟩
    rw [isSome_versionOf?_iff, Reply.succeeds_ended_iff]
  | notStarted _ | timedOut | lost _ =>
    have hversion : c.version? tools fs = (.ok none, fs') := Job.bind_of_ok hattempt
    refine ⟨false, Job.bind_of_ok hversion, iff_of_false Bool.false_ne_true ?_⟩
    rintro ⟨⟨e, he, -⟩, -⟩
    cases he

/-- A compiler that is detected was found by the search. -/
theorem detectAmong_of_detect (h : (detect tools limit fs).1 = .ok c) :
    (detectAmong tools limit usualNames fs).1 = .ok (some c) := by
  rw [detect, Job.bind_apply] at h
  rcases hsearch : detectAmong tools limit usualNames fs with ⟨failure | found, fs'⟩
  · rw [hsearch] at h
    cases h
  · rw [hsearch] at h
    cases found with
    | none => cases h
    | some c' =>
      cases h
      rfl

/-- **Detection and availability.**  With tools that repeat themselves, the search takes the
compilers that succeed in telling their version.  A compiler can be used exactly if the search takes
it and it prints a text that is not empty, in UTF-8; so one that has been detected can be used
exactly if it does the latter. -/
theorem detection_and_availability
    (h : ∀ name, tools.Repeats (named name limit).versionCall (replies name)) :
    (∀ name, Takes tools limit name ↔ (replies name).Succeeds)
      ∧ (∀ name fs, ∃ available, ((named name limit).isAvailable tools fs).1 = .ok available
        ∧ (available = true ↔ Takes tools limit name ∧ (replies name).Prints))
      ∧ ∀ c fs, (detect tools limit fs).1 = .ok c → ∃ name ∈ usualNames, c = named name limit
        ∧ Takes tools limit name
        ∧ ∀ fs', (c.isAvailable tools fs').1 = .ok true ↔ (replies name).Prints := by
  have havailable : ∀ name fs, ∃ available,
      ((named name limit).isAvailable tools fs).1 = .ok available
        ∧ (available = true ↔ Takes tools limit name ∧ (replies name).Prints) := by
    intro name fs
    obtain ⟨available, happly, hiff⟩ := isAvailable_of_call
      (Prod.ext (h name fs) rfl : tools (named name limit).versionCall fs = (replies name, _))
    rw [takes_iff (h name)]
    exact ⟨available, congrArg Prod.fst happly, hiff⟩
  refine ⟨fun name => takes_iff (h name), havailable, fun c fs hdetect => ?_⟩
  obtain ⟨name, hmem, rfl, htakes⟩ := takes_of_detectAmong h (detectAmong_of_detect hdetect)
  refine ⟨name, hmem, rfl, htakes, fun fs' => ?_⟩
  obtain ⟨available, happly, hiff⟩ := havailable name fs'
  rw [happly, Except.ok.injEq, hiff, and_iff_right htakes]

/-- A first compiler that takes too long, and a second one that tells its version in two lines. -/
theorem detection_and_availability_of_second :
    let limit : Duration := .ofSeconds 30
    let fs : Files := ⟨[], [], 0, [], 0⟩
    let replies : Text → Reply := fun name =>
      if name = "gcc".toList then .ended ⟨some 0, Text.encode "gcc 14\n(C)\n".toList, []⟩
      else .timedOut
    let tools : Tools := fun call fs => (replies call.program.text, fs)
    (∀ name, tools.Repeats (named name limit).versionCall (replies name))
      ∧ ¬ Takes tools limit "cc".toList
      ∧ (detect tools limit fs).1 = .ok (named "gcc".toList limit)
      ∧ ((named "gcc".toList limit).isAvailable tools fs).1 = .ok true := by
  intro limit fs replies tools
  have h : ∀ name, tools.Repeats (named name limit).versionCall (replies name) :=
    fun name fs => rfl
  obtain ⟨htakes, -, hdetected⟩ := detection_and_availability h
  have hdetect : (detect tools limit fs).1 = .ok (named "gcc".toList limit) := rfl
  obtain ⟨name, -, hname, -, havailable⟩ := hdetected _ fs hdetect
  obtain rfl : "gcc".toList = name := congrArg (fun c : Compiler => c.program.text) hname
  refine ⟨h, fun hcc => ?_, hdetect, (havailable fs).mpr ?_⟩
  · exact absurd ((htakes "cc".toList).mp hcc) (by decide)
  · exact ⟨_, rfl, by decide, by decide⟩

/-- A compiler that says nothing about itself, and one that says it in another encoding, are taken
and cannot be used. -/
theorem detection_without_availability :
    let limit : Duration := .ofSeconds 30
    let fs : Files := ⟨[], [], 0, [], 0⟩
    let reply : Bytes → Reply := fun output => .ended ⟨some 0, output, []⟩
    let tools : Bytes → Tools := fun output _ fs => (reply output, fs)
    ∀ output ∈ [[], [0xFC, 10]],
      (∀ call, (tools output).Repeats call (reply output))
        ∧ (detect (tools output) limit fs).1 = .ok (named "cc".toList limit)
        ∧ ((named "cc".toList limit).isAvailable (tools output) fs).1 = .ok false := by
  intro limit fs reply tools output houtput
  refine ⟨fun call fs => rfl, rfl, ?_⟩
  rcases List.mem_pair.mp houtput with rfl | rfl <;> rfl

end Compiler

end NameTables
