import Mathlib.Algebra.Order.Floor.Div
import NameTables.Tool.Wait

/-!
# The end of a waiting

The waiting goes on as long as the program answers that it is running and the clock has not reached
the deadline.  The pauses bring the clock nearer to it, so there is a last question, the first after
which the waiting does not go on.  The answer to it decides how the waiting ends, and what is done
to the program, which is collected in each case.

## Main definitions

* `Child.GoesOn` — the waiting goes on after a question.
* `Answer.ending`, `Answer.lastActs` — what the last answer comes to.
* `Fate`, `Child.fate` — what has become of a program to which something was done.

## Main statements

* `Child.le_of_goesOn` — how many questions there are at most before the last.
* `Child.exists_last` — there is a last question.
* `Child.waitFrom_zero` — what the waiting comes to, told by the last question.
* `Child.fate_waitFrom` — the program is collected, by what is done to it last.
* `Child.wait_eq_none_iff` — there is a waiting unless the clock cannot show the deadline.
* `Child.wait_outcome` — what comes of a call whose program is waited for.
-/

namespace NameTables

namespace Answer

variable {σ : Type}

/-- How the waiting ends with this answer, if it does not go on. -/
def ending : Answer σ → Ending σ
  | .running => .timedOut
  | .ended status => .ended status
  | .failed fault => .failed fault

/-- What is done to the program with this answer, if the waiting does not go on. -/
def lastActs : Answer σ → List Act
  | .running => [.ask, .kill, .collect]
  | .ended _ => [.ask]
  | .failed _ => [.ask, .kill, .collect]

theorem lastActs_ne_nil (a : Answer σ) : a.lastActs ≠ [] := by
  cases a <;> exact List.cons_ne_nil _ _

theorem ending_injective : Function.Injective (ending : Answer σ → Ending σ) := by
  intro a b h
  cases a <;> cases b <;> cases h <;> rfl

end Answer

namespace Child

variable {σ : Type} {child : Child σ} {deadline k n : Nat}

/-! ### The last question -/

/-- The waiting goes on after the question: the program is running, and its time is not over. -/
def GoesOn (child : Child σ) (deadline k : Nat) : Prop :=
  child.answer k = .running ∧ child.reading k < deadline

theorem waitFrom_of_goesOn (h : child.GoesOn deadline k) : child.waitFrom deadline k
    = ⟨(child.waitFrom deadline (k + 1)).ending, .ask :: (child.waitFrom deadline (k + 1)).acts⟩ := by
  rw [waitFrom, h.1]
  exact if_neg (not_le.mpr h.2)

theorem waitFrom_of_not_goesOn (h : ¬ child.GoesOn deadline k) :
    child.waitFrom deadline k = ⟨(child.answer k).ending, (child.answer k).lastActs⟩ := by
  rw [waitFrom]
  cases hanswer : child.answer k with
  | running => exact if_pos (not_lt.mp fun hearly => h ⟨hanswer, hearly⟩)
  | ended status => rfl
  | failed fault => rfl

/-- The clock has advanced by as many pauses at least as there have been. -/
theorem start_add_le_reading (child : Child σ) (k : Nat) :
    child.start + pause.nanoseconds * k ≤ child.reading k := by
  induction k with
  | zero => exact child.started
  | succ k ih =>
    calc child.start + pause.nanoseconds * (k + 1)
        = child.start + pause.nanoseconds * k + pause.nanoseconds := by
          rw [Nat.mul_succ, Nat.add_assoc]
      _ ≤ child.reading k + pause.nanoseconds := Nat.add_le_add_right ih _
      _ ≤ child.reading (k + 1) := child.advances k

/-- The waiting goes on as often as there are pauses up to the deadline, at most. -/
theorem le_of_goesOn (h : ∀ j < n, child.GoesOn deadline j) :
    n ≤ (deadline - child.start) ⌈/⌉ pause.nanoseconds := by
  by_contra hn
  obtain ⟨m, rfl⟩ := Nat.exists_eq_add_one_of_ne_zero (show n ≠ 0 by omega)
  have hpause : 0 < pause.nanoseconds := by decide
  have hm : deadline - child.start ≤ pause.nanoseconds * m :=
    (ceilDiv_le_iff_le_mul hpause).mp (by omega)
  have hlate : deadline ≤ child.reading m :=
    (Nat.sub_le_iff_le_add'.mp hm).trans (child.start_add_le_reading m)
  exact absurd (h m (Nat.lt_succ_self m)).2 (not_lt.mpr hlate)

/-- There is a last question. -/
theorem exists_last (child : Child σ) (deadline : Nat) :
    ∃ n, (∀ j < n, child.GoesOn deadline j) ∧ ¬ child.GoesOn deadline n := by
  classical
  have hends : ∃ n, ¬ child.GoesOn deadline n := by
    by_contra hgoesOn
    rw [not_exists] at hgoesOn
    have hle := le_of_goesOn (n := (deadline - child.start) ⌈/⌉ pause.nanoseconds + 1)
      fun j _ => not_not.mp (hgoesOn j)
    exact Nat.not_succ_le_self _ hle
  exact ⟨Nat.find hends, fun j hj => not_not.mp (Nat.find_min hends hj), Nat.find_spec hends⟩

/-- The waiting is the questions after which it goes on, and the waiting from there. -/
theorem waitFrom_zero_eq_waitFrom (hbefore : ∀ j < k, child.GoesOn deadline j) :
    child.waitFrom deadline 0 = ⟨(child.waitFrom deadline k).ending,
      List.replicate k .ask ++ (child.waitFrom deadline k).acts⟩ := by
  induction k with
  | zero => rfl
  | succ k ih =>
    rw [ih fun j hj => hbefore j (Nat.lt_succ_of_lt hj),
      waitFrom_of_goesOn (hbefore k (Nat.lt_succ_self k)), List.replicate_succ',
      List.append_assoc]
    rfl

/-- The waiting is all the questions up to the last, and what that one comes to. -/
theorem waitFrom_zero (hbefore : ∀ j < n, child.GoesOn deadline j)
    (hlast : ¬ child.GoesOn deadline n) : child.waitFrom deadline 0
      = ⟨(child.answer n).ending, List.replicate n .ask ++ (child.answer n).lastActs⟩ := by
  rw [waitFrom_zero_eq_waitFrom hbefore, waitFrom_of_not_goesOn hlast]

/-! ### How it ends -/

/-- The first answer that tells more than that the program is running decides how the waiting ends,
if the time was not over before. -/
theorem ending_eq_iff {a : Answer σ} (ha : a ≠ .running) :
    (child.waitFrom deadline 0).ending = a.ending
      ↔ ∃ k, child.answer k = a ∧ ∀ j < k, child.GoesOn deadline j := by
  constructor
  · intro h
    obtain ⟨n, hbefore, hlast⟩ := child.exists_last deadline
    rw [waitFrom_zero hbefore hlast] at h
    exact ⟨n, Answer.ending_injective h, hbefore⟩
  · rintro ⟨k, rfl, hbefore⟩
    rw [waitFrom_zero hbefore fun hgoesOn => ha hgoesOn.1]

/-- The time is over as soon as the clock reaches the deadline before any other answer. -/
theorem ending_eq_timedOut_iff : (child.waitFrom deadline 0).ending = .timedOut
    ↔ ∃ k, deadline ≤ child.reading k ∧ ∀ j ≤ k, child.answer j = .running := by
  obtain ⟨n, hbefore, hlast⟩ := child.exists_last deadline
  rw [waitFrom_zero hbefore hlast]
  constructor
  · intro h
    have hanswer : child.answer n = .running := Answer.ending_injective h
    refine ⟨n, not_lt.mp fun hearly => hlast ⟨hanswer, hearly⟩, fun j hj => ?_⟩
    rcases hj.lt_or_eq with hj | rfl
    · exact (hbefore j hj).1
    · exact hanswer
  · rintro ⟨k, hlate, hrunning⟩
    -- the reading is not one after which the waiting goes on
    have hn : n ≤ k := not_lt.mp fun hk => absurd (hbefore k hk).2 (not_lt.mpr hlate)
    rw [hrunning n hn]
    rfl

/-- There is one question more, at most, than there are pauses up to the deadline. -/
theorem count_ask_waitFrom (child : Child σ) (deadline : Nat) :
    (child.waitFrom deadline 0).acts.count .ask
      ≤ (deadline - child.start) ⌈/⌉ pause.nanoseconds + 1 := by
  obtain ⟨n, hbefore, hlast⟩ := child.exists_last deadline
  have hcount : (child.waitFrom deadline 0).acts.count .ask = n + 1 := by
    rw [waitFrom_zero hbefore hlast, List.count_append, List.count_replicate_self]
    cases child.answer n <;> rfl
  exact hcount.trans_le (Nat.succ_le_succ (le_of_goesOn hbefore))

end Child

/-! ### What becomes of the program -/

/-- What has become of a started program. -/
inductive Fate
  /-- It is left to itself: it runs, or has ended without anyone having been told. -/
  | free
  /-- It has been killed, and has not been collected yet. -/
  | killed
  /-- It has been collected, and nothing is left of it. -/
  | collected
  deriving DecidableEq, Repr

/-- What becomes of a program to which something is done, when it would answer so if it is asked.
Waiting for the end of a program that has not been killed may take for ever, so it is not said to
collect the program. -/
def Fate.after {σ : Type} (answer : Answer σ) : Act → Fate → Fate
  | .ask, fate =>
    match answer with
    | .ended _ => .collected
    | _ => fate
  | .kill, .free => .killed
  | .collect, .killed => .collected
  | _, fate => fate

namespace Child

variable {σ : Type} {child : Child σ} {k n : Nat}

/-- What becomes of the program by these acts, when it is asked for the `k`-th time next. -/
def fateFrom (child : Child σ) : (k : Nat) → Fate → List Act → Fate
  | _, fate, [] => fate
  | k, fate, act :: acts =>
    child.fateFrom (if act = .ask then k + 1 else k) (Fate.after (child.answer k) act fate) acts

/-- What has become of the program by these acts since it was started. -/
def fate (child : Child σ) (acts : List Act) : Fate := child.fateFrom 0 .free acts

/-- Questions to which the program answers that it is running leave it to itself. -/
theorem fateFrom_replicate (hrunning : ∀ j < n, child.answer (k + j) = .running) (fate : Fate)
    (acts : List Act) : child.fateFrom k fate (List.replicate n .ask ++ acts)
      = child.fateFrom (k + n) fate acts := by
  induction n generalizing k with
  | zero => rfl
  | succ n ih =>
    have hnow : child.answer k = .running := hrunning 0 (Nat.succ_pos n)
    have hlater : ∀ j < n, child.answer (k + 1 + j) = .running := fun j hj => by
      rw [Nat.add_assoc, Nat.add_comm 1]
      exact hrunning (j + 1) (Nat.succ_lt_succ hj)
    calc child.fateFrom k fate (List.replicate (n + 1) .ask ++ acts)
        = child.fateFrom (k + 1) (Fate.after (child.answer k) .ask fate)
            (List.replicate n .ask ++ acts) := rfl
      _ = child.fateFrom (k + 1) fate (List.replicate n .ask ++ acts) := by rw [hnow]; rfl
      _ = child.fateFrom (k + 1 + n) fate acts := ih hlater
      _ = child.fateFrom (k + (n + 1)) fate acts := by rw [Nat.add_assoc, Nat.add_comm 1]

/-- The last answer is followed by what collects the program, and by nothing after that. -/
theorem fateFrom_lastActs (child : Child σ) (n : Nat) :
    child.fateFrom n .free (child.answer n).lastActs.dropLast ≠ .collected
      ∧ child.fateFrom n .free (child.answer n).lastActs = .collected := by
  cases hanswer : child.answer n with
  | ended status =>
    simp only [Answer.lastActs, List.dropLast_singleton, fateFrom, hanswer]
    exact ⟨nofun, rfl⟩
  | running | failed fault =>
    simp only [Answer.lastActs, List.dropLast, fateFrom, hanswer]
    exact ⟨nofun, rfl⟩

/-- The program is collected, by what is done to it last. -/
theorem fate_waitFrom (child : Child σ) (deadline : Nat) :
    child.fate (child.waitFrom deadline 0).acts.dropLast ≠ .collected
      ∧ child.fate (child.waitFrom deadline 0).acts = .collected := by
  obtain ⟨n, hbefore, hlast⟩ := child.exists_last deadline
  have hacts : (child.waitFrom deadline 0).acts
      = List.replicate n .ask ++ (child.answer n).lastActs :=
    congrArg Wait.acts (waitFrom_zero hbefore hlast)
  have hrunning : ∀ j < n, child.answer (0 + j) = .running := fun j hj => by
    rw [Nat.zero_add]
    exact (hbefore j hj).1
  have hfate : ∀ acts, child.fate (List.replicate n .ask ++ acts) = child.fateFrom n .free acts :=
    fun acts => by rw [fate, fateFrom_replicate hrunning, Nat.zero_add]
  rw [hacts, List.dropLast_append_of_ne_nil (Answer.lastActs_ne_nil _), hfate, hfate]
  exact child.fateFrom_lastActs n

/-! ### Whether there is a waiting -/

section Deadline

variable {limit : Duration} {wait : Wait σ}

theorem wait_eq_none_iff :
    child.wait limit = none ↔ clockEnd ≤ child.start + limit.nanoseconds := by
  unfold Child.wait deadline?
  split <;> simp_all

theorem mem_wait_iff : wait ∈ child.wait limit
    ↔ child.start + limit.nanoseconds < clockEnd
      ∧ child.waitFrom (child.start + limit.nanoseconds) 0 = wait := by
  unfold Child.wait deadline?
  split <;> simp_all

end Deadline

/-! ### What comes of a call -/

variable {call : Call} {ending : Ending Ended} {e : Ended} {fault : IoFault} {cause : ToolFault}

theorem result_reply_eq_ok_iff : ending.reply.result call = .ok e ↔ ending = .ended e := by
  cases ending <;> simp [Ending.reply, Reply.result]

theorem result_reply_eq_toolUnavailable_iff :
    ending.reply.result call = .error (.toolUnavailable cause)
      ↔ cause = .timedOut call.program.text call.limit ∧ ending = .timedOut := by
  cases ending <;> simp [Ending.reply, Reply.result, eq_comm]

theorem result_reply_eq_io_iff :
    ending.reply.result call = .error (.io fault) ↔ ending = .failed fault := by
  cases ending <;> simp [Ending.reply, Reply.result]

/-- **The outcome of a waiting.**  There is a waiting unless the clock cannot show the deadline.  A
program whose end is waited for is asked at most once more than there are pauses in the limit.  The
call comes to what the program has left if its first answer other than that it is running is that it
has ended, and to the system's fault if that answer is one; in both cases if the clock had not
reached the deadline before.  It is reported as timed out if the clock reaches the deadline before
any other answer.  In each case what is done to the program last collects it. -/
theorem wait_outcome (child : Child Ended) (call : Call) :
    let deadline := child.start + call.limit.nanoseconds
    (child.wait call.limit = none ↔ clockEnd ≤ deadline)
      ∧ ∀ wait ∈ child.wait call.limit,
        let result := wait.ending.reply.result call
        wait.acts.count .ask ≤ call.limit.nanoseconds ⌈/⌉ pause.nanoseconds + 1
          ∧ (∀ e, result = .ok e ↔ ∃ k, child.answer k = .ended e
            ∧ ∀ j < k, child.answer j = .running ∧ child.reading j < deadline)
          ∧ (∀ cause, result = .error (.toolUnavailable cause)
            ↔ cause = .timedOut call.program.text call.limit
              ∧ ∃ k, deadline ≤ child.reading k ∧ ∀ j ≤ k, child.answer j = .running)
          ∧ (∀ fault, result = .error (.io fault) ↔ ∃ k, child.answer k = .failed fault
            ∧ ∀ j < k, child.answer j = .running ∧ child.reading j < deadline)
          ∧ child.fate wait.acts.dropLast ≠ .collected ∧ child.fate wait.acts = .collected := by
  intro deadline
  refine ⟨wait_eq_none_iff, fun wait hwait => ?_⟩
  obtain ⟨-, rfl⟩ := mem_wait_iff.mp hwait
  intro result
  refine ⟨?polls, fun e => ?ended, fun cause => ?timedOut, fun fault => ?failed, ?collected⟩
  case polls =>
    have hpolls := child.count_ask_waitFrom deadline
    rwa [Nat.add_sub_cancel_left] at hpolls
  case ended =>
    exact result_reply_eq_ok_iff.trans (ending_eq_iff (a := .ended e) nofun)
  case timedOut =>
    rw [result_reply_eq_toolUnavailable_iff, ending_eq_timedOut_iff]
  case failed =>
    exact result_reply_eq_io_iff.trans (ending_eq_iff (a := .failed fault) nofun)
  case collected =>
    exact child.fate_waitFrom deadline

/-- A program that has ended when it is asked for the third time: in time within 25 milliseconds, too
late within 5, and not waited for at all with the greatest limit that settings can have. -/
theorem wait_outcome_at_third_answer :
    let e : Ended := ⟨some 0, [], []⟩
    let child : Child Ended :=
      { answer := fun k => if k < 2 then .running else .ended e
        start := 0
        reading := fun k => pause.nanoseconds * (k + 1)
        started := Nat.zero_le _
        advances := fun k => (Nat.mul_succ pause.nanoseconds (k + 1)).ge }
    let call (limit : Duration) : Call := ⟨⟨"cc".toList⟩, ["--version".toList], limit⟩
    let inTime := call (.ofMilliseconds 25)
    let tooLate := call (.ofMilliseconds 5)
    (∃ wait ∈ child.wait inTime.limit, wait.ending.reply.result inTime = .ok e
        ∧ wait.acts.count .ask ≤ 4 ∧ child.fate wait.acts = .collected)
      ∧ (∃ wait ∈ child.wait tooLate.limit, wait.ending.reply.result tooLate
          = .error (.toolUnavailable (.timedOut "cc".toList tooLate.limit))
        ∧ child.fate wait.acts = .collected)
      ∧ child.wait (.ofSeconds 18446744073709551615) = none := by
  intro e child call inTime tooLate
  refine ⟨?_, ?_, ?_⟩
  · obtain ⟨hnone, hwait⟩ := wait_outcome child inTime
    obtain ⟨wait, hmem⟩ := Option.ne_none_iff_exists'.mp (hnone.not.mpr (by decide))
    obtain ⟨hpolls, hended, -, -, -, hfate⟩ := hwait wait hmem
    have hearly : ∀ j < 2, child.reading j < child.start + inTime.limit.nanoseconds := by decide
    exact ⟨wait, hmem, (hended e).mpr ⟨2, rfl, fun j hj => ⟨if_pos hj, hearly j hj⟩⟩,
      hpolls.trans (by decide), hfate⟩
  · obtain ⟨hnone, hwait⟩ := wait_outcome child tooLate
    obtain ⟨wait, hmem⟩ := Option.ne_none_iff_exists'.mp (hnone.not.mpr (by decide))
    obtain ⟨-, -, htimedOut, -, -, hfate⟩ := hwait wait hmem
    refine ⟨wait, hmem, (htimedOut _).mpr ⟨rfl, 0, by decide, fun j hj => ?_⟩, hfate⟩
    exact if_pos (by omega)
  · exact (wait_outcome child (call (.ofSeconds 18446744073709551615))).1.mpr (by decide)

end Child

end NameTables
