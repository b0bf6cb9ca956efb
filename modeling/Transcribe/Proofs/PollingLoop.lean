import Mathlib
import Transcribe.Proofs.PhpRun
import Transcribe.Translate.Legacy
/-!
# `Proofs.PollingLoop` — the remote-control wait gives up after exactly its bound

The four remote-control waits on the presence of an element or a text translate into one
polling loop (`Translate.Legacy.waitLoop`):

    for ($second = 0; ; $second++) {
        if ($second >= N) $this->fail("timeout");
        try {
            if (COND) break;
        } catch (Exception $e) {}
        sleep(I);
    }

Its bound is checked before the condition, an exception raised by the condition is
swallowed, and the sleep follows a check that did not hold; an off-by-one in the number of
checks or sleeps is easy to make here.

## What is proved, with every binder written out

`polling_wait_gives_up_after_bound`: for every wait `(name, method, negated)` of
`pollingWaits`, every target, value, receiver `r` and timing `T`, with
`N = T.waitLoopIterations` and `I = T.waitLoopIntervalSecs`,

* the lines of the step are those of `pollLoop r N I COND`, where `COND` is the presence
  check `method` on the target, negated with `!` for the waits on absence;
* for every sequence `o` of outcomes of the condition (true, false or an exception), whose
  first true outcome is at index `k`, `⊤` when there is none (`FirstYes o k`), the loop has a
  run from the empty state, and every run (there is one, `Stmt.Runs.unique`) checks the
  condition `min (k + 1) N` times, sleeps `I` seconds `min k N` times and no other time,
  records `fail("timeout")` exactly when `N ≤ k`, and ends by throwing PHPUnit's
  assertion failure exactly then, normally otherwise (`GivesUpAfter`).

The proof runs the loop one round at a time: a round below the bound whose check does not
hold adds a check and a sleep and moves the counter on (`iterate_not_yes`); a round whose
check holds stops the loop (`iterate_yes`); the round at the bound fails
(`iterate_at_bound`). `iterate_rounds` chains the first kind by induction on their number.
-/

namespace Transcribe.Php

/-- The polling loop with bound `rounds`, interval `interval` and condition `cond`. -/
def pollLoop (receiver : String) (rounds interval : Nat) (cond : String) : Stmt :=
  .forLoop (.assign "$second" (.int 0)) (.postIncr "$second")
    (.seq (.ifThen (.ge (.var "$second") (.int rounds)) (.expr (.fail receiver "timeout")))
      (.seq (.tryCatch (.ifThen (.probe cond) .breakLoop) "Exception" .skip)
        (.expr (.sleep interval))))

/-- The loop that the legacy translator writes is `pollLoop`, printed. -/
theorem waitLoop_eq_lines (r : String) (T : Timing) (cond : String) :
    Translate.Legacy.waitLoop r T cond =
      (pollLoop r T.waitLoopIterations.toNat T.waitLoopIntervalSecs.toNat cond).lines := by
  simp only [Translate.Legacy.waitLoop, pollLoop, Stmt.lines, Term.code, indentLines_four,
    List.map_cons, List.map_nil, List.cons_append, List.nil_append, Int.repr, toString]
  simp only [List.cons.injEq, and_true]
  -- the lines differ in how their pieces are grouped, and in the numbers' printing
  refine ⟨?_, ?_, rfl, ?_, rfl, ?_⟩ <;> simp [← String.toList_inj]

section Rounds

variable {o : Nat → Probe} {r cond : String} {N I : Nat}

/-- The loop's state at the start of a round: the counter at `j`, after the events `E`. -/
def atRound (j : Int) (E : List Event) : Run := ⟨[("$second", .int j)], E⟩

/-- The body of the polling loop. -/
def pollBody (r : String) (N I : Nat) (cond : String) : Stmt :=
  .seq (.ifThen (.ge (.var "$second") (.int N)) (.expr (.fail r "timeout")))
    (.seq (.tryCatch (.ifThen (.probe cond) .breakLoop) "Exception" .skip) (.expr (.sleep I)))

theorem pollLoop_eq :
    pollLoop r N I cond =
      .forLoop (.assign "$second" (.int 0)) (.postIncr "$second") (pollBody r N I cond) :=
  rfl

/-- Below the bound, the bound check lets the round go on. -/
theorem boundCheck_below {j : Int} (hj : j < N) (E : List Event) (f : Nat) :
    (Stmt.ifThen (.ge (.var "$second") (.int N)) (.expr (.fail r "timeout"))).exec o (f + 2)
      (atRound j E) = some (.normal, atRound j E) := by
  have hnot : ¬ (N : Int) ≤ j := by omega
  simp [Stmt.exec, afterEval, Term.eval, atRound, Run.get, Scalar.ge, Scalar.truthy, hnot]

/-- At the bound, the bound check fails the test. -/
theorem boundCheck_at {j : Int} (hj : N ≤ j) (E : List Event) (f : Nat) :
    (Stmt.ifThen (.ge (.var "$second") (.int N)) (.expr (.fail r "timeout"))).exec o (f + 2)
      (atRound j E) =
      some (.threw ⟨assertionFailed, "timeout"⟩, atRound j (E ++ [.fail "timeout"])) := by
  simp [Stmt.exec, afterEval, Term.eval, atRound, Run.get, Run.record, Scalar.ge,
    Scalar.truthy, hj]

/-- A check that holds breaks out of the `try`. -/
theorem poll_yes {st : Run} (hyes : o st.checks = .yes) (f : Nat) :
    (Stmt.tryCatch (.ifThen (.probe cond) .breakLoop) "Exception" .skip).exec o (f + 3) st =
      some (.broke, st.record .check) := by
  simp [Stmt.exec, afterEval, recover, Term.eval, hyes, Scalar.truthy]

/-- A check that does not hold, or that raises, leaves the `try` normally: the `catch`
swallows the exception. -/
theorem poll_not_yes {st : Run} (hno : o st.checks ≠ .yes) (f : Nat) :
    (Stmt.tryCatch (.ifThen (.probe cond) .breakLoop) "Exception" .skip).exec o (f + 3) st =
      some (.normal, st.record .check) := by
  cases h : o st.checks with
  | yes => exact absurd h hno
  | no => simp [Stmt.exec, afterEval, recover, Term.eval, h, Scalar.truthy]
  | raises => simp [Stmt.exec, afterEval, recover, catches, Term.eval, h]

theorem body_at_bound {j : Int} (hj : N ≤ j) (E : List Event) (f : Nat) :
    (pollBody r N I cond).exec o (f + 5) (atRound j E) =
      some (.threw ⟨assertionFailed, "timeout"⟩, atRound j (E ++ [.fail "timeout"])) := by
  rw [pollBody, exec_seq, boundCheck_at hj]
  rfl

theorem body_yes {j : Int} (hj : j < N) {E : List Event} (hyes : o (E.count .check) = .yes)
    (f : Nat) :
    (pollBody r N I cond).exec o (f + 5) (atRound j E) =
      some (.broke, atRound j (E ++ [.check])) := by
  rw [pollBody, exec_seq, boundCheck_below hj, andThen, exec_seq, poll_yes hyes]
  rfl

theorem body_not_yes {j : Int} (hj : j < N) {E : List Event} (hno : o (E.count .check) ≠ .yes)
    (f : Nat) :
    (pollBody r N I cond).exec o (f + 5) (atRound j E) =
      some (.normal, atRound j (E ++ [.check, .sleep I])) := by
  rw [pollBody, exec_seq, boundCheck_below hj, andThen, exec_seq, poll_not_yes hno]
  simp [andThen, Stmt.exec, afterEval, Term.eval, atRound, Run.record]

/-- The events of `d` rounds whose check did not hold: a check, then a sleep, each. -/
def rounds (I d : Nat) : List Event := (List.replicate d [.check, .sleep I]).flatten

theorem rounds_succ (I d : Nat) : rounds I (d + 1) = [.check, .sleep I] ++ rounds I d := by
  simp [rounds, List.replicate_succ]

theorem count_check_rounds (I d : Nat) : (rounds I d).count .check = d := by
  induction d with
  | zero => rfl
  | succ d ih =>
    rw [rounds_succ]
    simp [ih]

theorem count_sleep_rounds (I d : Nat) : (rounds I d).count (.sleep I) = d := by
  induction d with
  | zero => rfl
  | succ d ih =>
    rw [rounds_succ]
    simp [ih]

theorem mem_rounds {d : Nat} {ev : Event} (h : ev ∈ rounds I d) : ev = .check ∨ ev = .sleep I := by
  simp only [rounds, List.mem_flatten, List.mem_replicate] at h
  obtain ⟨l, ⟨-, rfl⟩, hl⟩ := h
  simpa using hl

/-- The events of a run that ends after `d` rounds: checks, sleeps of `I`, and the last one. -/
theorem mem_rounds_append {d : Nat} {ev ev' : Event} (h : ev' ∈ rounds I d ++ [ev]) :
    ev' = .check ∨ ev' = .sleep I ∨ ev' = ev := by
  rcases List.mem_append.1 h with h | h
  · rcases mem_rounds h with h | h
    · exact Or.inl h
    · exact Or.inr (Or.inl h)
  · exact Or.inr (Or.inr (List.mem_singleton.1 h))

/-- The only sleeps of a run that ends after `d` rounds with some other event are those of its
rounds. -/
theorem eq_of_sleep_mem {d n : Nat} {ev : Event} (hev : ∀ m, ev ≠ .sleep m)
    (h : .sleep n ∈ rounds I d ++ [ev]) : n = I := by
  rcases mem_rounds_append h with h | h | h
  · cases h
  · cases h
    rfl
  · exact absurd h.symm (hev n)

theorem iterate_at_bound {j : Int} (hj : N ≤ j) (E : List Event) (f : Nat) :
    Stmt.iterate o (f + 6) (.postIncr "$second") (pollBody r N I cond) (atRound j E) =
      some (.threw ⟨assertionFailed, "timeout"⟩, atRound j (E ++ [.fail "timeout"])) := by
  simp only [Stmt.iterate, body_at_bound hj, afterRound]

theorem iterate_yes {j : Int} (hj : j < N) {E : List Event} (hyes : o (E.count .check) = .yes)
    (f : Nat) :
    Stmt.iterate o (f + 6) (.postIncr "$second") (pollBody r N I cond) (atRound j E) =
      some (.normal, atRound j (E ++ [.check])) := by
  simp only [Stmt.iterate, body_yes hj hyes, afterRound]

theorem iterate_not_yes {j : Int} (hj : j < N) {E : List Event}
    (hno : o (E.count .check) ≠ .yes) (f : Nat) :
    Stmt.iterate o (f + 6) (.postIncr "$second") (pollBody r N I cond) (atRound j E) =
      Stmt.iterate o (f + 5) (.postIncr "$second") (pollBody r N I cond)
        (atRound (j + 1) (E ++ [.check, .sleep I])) := by
  simp only [Stmt.iterate, body_not_yes hj hno, afterRound, afterEval, Term.eval]
  rfl

/-- `d` rounds below the bound whose checks do not hold each add a check and a sleep and move
the counter on by one. -/
theorem iterate_rounds {d : Nat} {j : Int} (hj : j + d ≤ N) {E : List Event}
    (hno : ∀ i < d, o (E.count .check + i) ≠ .yes) (f : Nat) :
    Stmt.iterate o (f + d + 6) (.postIncr "$second") (pollBody r N I cond) (atRound j E) =
      Stmt.iterate o (f + 6) (.postIncr "$second") (pollBody r N I cond)
        (atRound (j + d) (E ++ rounds I d)) := by
  induction d generalizing j E with
  | zero => simp [rounds]
  | succ d ih =>
    have h₀ : o (E.count .check) ≠ .yes := by simpa using hno 0 (by omega)
    rw [show f + (d + 1) + 6 = (f + d + 1) + 5 + 1 by omega, iterate_not_yes (by omega) h₀,
      show f + d + 1 + 5 = f + d + 6 by omega]
    -- the remaining rounds see one check more
    have hnext : ∀ i < d, o ((E ++ [Event.check, .sleep I]).count .check + i) ≠ .yes := by
      intro i hi
      simpa [Nat.add_assoc, Nat.add_comm 1 i] using hno (i + 1) (by omega)
    rw [ih (by omega) hnext, rounds_succ, List.append_assoc]
    congr 2
    push_cast
    omega

theorem init_eval : (Term.assign "$second" (.int 0)).eval o {} = (.ok (.int 0), atRound 0 []) :=
  rfl

/-- From the empty state, `d` rounds below the bound whose checks do not hold bring the loop
to round `d`, after their checks and sleeps. -/
theorem exec_pollLoop_rounds {d : Nat} (hd : d ≤ N) (hno : ∀ i < d, o i ≠ .yes) :
    (pollLoop r N I cond).exec o (d + 7) {} =
      Stmt.iterate o 6 (.postIncr "$second") (pollBody r N I cond) (atRound d (rounds I d)) := by
  have hrounds := @iterate_rounds o r cond N I d 0 (by omega) [] (by simpa using hno) 0
  rw [pollLoop_eq, show d + 7 = (0 + d + 6) + 1 by omega, Stmt.exec, init_eval, afterEval,
    hrounds, Int.zero_add, List.nil_append]

/-- The condition first holds at check `k`, below the bound: the loop stops after `k` rounds,
with the check that held. -/
theorem exec_pollLoop_of_yes {k : Nat} (hk : k < N) (hno : ∀ i < k, o i ≠ .yes)
    (hyes : o k = .yes) :
    (pollLoop r N I cond).exec o (k + 7) {} =
      some (.normal, atRound k (rounds I k ++ [.check])) := by
  rw [exec_pollLoop_rounds hk.le hno]
  exact iterate_yes (by omega) (by rw [count_check_rounds]; exact hyes) 0

/-- No check below the bound holds: the loop fails with `"timeout"` after `N` rounds. -/
theorem exec_pollLoop_of_timeout (hno : ∀ i < N, o i ≠ .yes) :
    (pollLoop r N I cond).exec o (N + 7) {} =
      some (.threw ⟨assertionFailed, "timeout"⟩, atRound N (rounds I N ++ [.fail "timeout"])) := by
  rw [exec_pollLoop_rounds (Nat.le_refl N) hno]
  exact iterate_at_bound (by omega) _ 0

end Rounds

/-! ### What a run of the loop does -/

/-- `k` is the index of the first `yes` among the outcomes of the checks, `⊤` when none is. -/
def FirstYes (o : Nat → Probe) (k : ℕ∞) : Prop :=
  (∀ i : Nat, (i : ℕ∞) < k → o i ≠ .yes) ∧ ∀ i : Nat, (i : ℕ∞) = k → o i = .yes

/-- What a run of the polling loop with bound `N` and interval `I` does when the condition
first holds at check `k`: how often it checks and sleeps, whether it fails, how it ends. -/
structure GivesUpAfter (N I : Nat) (k : ℕ∞) (e : Ending) (st : Run) : Prop where
  checks : (st.events.count .check : ℕ∞) = min (k + 1) N
  sleeps : (st.events.count (.sleep I) : ℕ∞) = min k N
  sleeps_of : ∀ n, .sleep n ∈ st.events → n = I
  fails : .fail "timeout" ∈ st.events ↔ (N : ℕ∞) ≤ k
  ending : e = if (N : ℕ∞) ≤ k then .threw ⟨assertionFailed, "timeout"⟩ else .normal

section Runs

variable {N I : Nat}

theorem givesUpAfter_of_yes {k : Nat} (hk : k < N) :
    GivesUpAfter N I k .normal (atRound k (rounds I k ++ [.check])) where
  checks := by
    have hle : (k : ℕ∞) + 1 ≤ N := by exact_mod_cast Nat.succ_le_of_lt hk
    simp [atRound, count_check_rounds, min_eq_left hle]
  sleeps := by
    have hle : (k : ℕ∞) ≤ N := by exact_mod_cast hk.le
    simp [atRound, count_sleep_rounds, min_eq_left hle]
  sleeps_of _ h := eq_of_sleep_mem (fun _ h => by cases h) h
  fails := by
    have hlt : ¬ (N : ℕ∞) ≤ k := by exact_mod_cast Nat.not_le.2 hk
    refine iff_of_false (fun h => ?_) hlt
    rcases mem_rounds_append h with h | h | h <;> cases h
  ending := by
    have hlt : ¬ (N : ℕ∞) ≤ k := by exact_mod_cast Nat.not_le.2 hk
    rw [if_neg hlt]

theorem givesUpAfter_of_timeout {k : ℕ∞} (hk : (N : ℕ∞) ≤ k) :
    GivesUpAfter N I k (.threw ⟨assertionFailed, "timeout"⟩)
      (atRound N (rounds I N ++ [.fail "timeout"])) where
  checks := by
    have hle : (N : ℕ∞) ≤ k + 1 := hk.trans le_self_add
    simp [atRound, count_check_rounds, min_eq_right hle]
  sleeps := by simp [atRound, count_sleep_rounds, min_eq_right hk]
  sleeps_of _ h := eq_of_sleep_mem (fun _ h => by cases h) h
  fails := by simp [atRound, hk]
  ending := by rw [if_pos hk]

/-- The polling loop has a run from the empty state, and what it does is fixed by the index `k`
of the first check that holds: it checks `min (k + 1) N` times, sleeps `I` seconds `min k N`
times, and fails with `"timeout"` exactly when `N ≤ k`. -/
theorem pollLoop_gives_up_after (o : Nat → Probe) {k : ℕ∞} (hk : FirstYes o k)
    (r cond : String) (N I : Nat) :
    (∃ e st, (pollLoop r N I cond).Runs o {} e st) ∧
      ∀ e st, (pollLoop r N I cond).Runs o {} e st → GivesUpAfter N I k e st := by
  by_cases hN : (N : ℕ∞) ≤ k
  · -- no check below the bound holds
    have hno : ∀ i < N, o i ≠ .yes := fun i hi =>
      hk.1 i (lt_of_lt_of_le (by exact_mod_cast hi) hN)
    exact Stmt.runs_of_exec (@exec_pollLoop_of_timeout o r cond N I hno)
      (givesUpAfter_of_timeout hN)
  · -- the first check that holds comes below the bound
    have hlt : k < N := lt_of_not_ge hN
    obtain ⟨m, rfl⟩ := ENat.ne_top_iff_exists.1 (ne_top_of_lt hlt)
    have hm : m < N := by exact_mod_cast hlt
    have hrun := @exec_pollLoop_of_yes o r cond N I m hm
      (fun i hi => hk.1 i (by exact_mod_cast hi)) (hk.2 m rfl)
    exact Stmt.runs_of_exec hrun (givesUpAfter_of_yes hm)

/-- Three rounds of two seconds, the condition first holding at its second check. -/
example : (pollLoop "$this" 3 2 "c").exec (fun i => if i = 1 then .yes else .no) 8 {} =
    some (.normal, atRound 1 [.check, .sleep 2, .check]) := by
  rfl

end Runs

end Transcribe.Php

namespace Transcribe.Translate.Legacy

open Transcribe.Php

/-- The four waits that poll in a loop: the command, the presence check it polls, and whether
the check is negated. -/
def pollingWaits : List (String × String × Bool) :=
  [("waitForElementPresent", "isElementPresent", false),
   ("waitForElementNotPresent", "isElementPresent", true),
   ("waitForTextPresent", "isTextPresent", false),
   ("waitForTextNotPresent", "isTextPresent", true)]

/-- The loop of a polling wait on `target` with the presence check `method`. -/
def pollingLoop (r : String) (T : Timing) (method : String) (negated : Bool)
    (target : String) : Stmt :=
  pollLoop r T.waitLoopIterations.toNat T.waitLoopIntervalSecs.toNat
    ((if negated then "!" else "") ++ callExpr r method target)

theorem translate_polling_wait {name method : String} {negated : Bool}
    (hw : (name, method, negated) ∈ pollingWaits) (target value : Option String) (r : String)
    (T : Timing) :
    translate r T ⟨name, target, value⟩ = (pollingLoop r T method negated (target.getD "")).lines := by
  simp only [pollingWaits, List.mem_cons, Prod.mk.injEq, List.not_mem_nil, or_false] at hw
  rcases hw with ⟨rfl, rfl, rfl⟩ | ⟨rfl, rfl, rfl⟩ | ⟨rfl, rfl, rfl⟩ | ⟨rfl, rfl, rfl⟩ <;>
    simp [translate, Rule.ofName?, Rule.lines, pollingLoop, ← waitLoop_eq_lines, elementPresent,
      textPresent, Command.targetText]

/-- A polling wait is the loop on its presence check, and that loop gives up after exactly the
configured number of rounds: with `N` rounds and an interval of `I` seconds, a condition that
first holds at check `k` is checked `min (k + 1) N` times, with `min k N` sleeps of `I`
seconds between, and the test fails with `"timeout"` exactly when `N ≤ k`. -/
theorem polling_wait_gives_up_after_bound {name method : String} {negated : Bool}
    (hw : (name, method, negated) ∈ pollingWaits) (target value : Option String) (r : String)
    (T : Timing) (o : Nat → Probe) {k : ℕ∞} (hk : FirstYes o k) :
    translate r T ⟨name, target, value⟩ = (pollingLoop r T method negated (target.getD "")).lines ∧
      (∃ e st, (pollingLoop r T method negated (target.getD "")).Runs o {} e st) ∧
      ∀ e st, (pollingLoop r T method negated (target.getD "")).Runs o {} e st →
        GivesUpAfter T.waitLoopIterations.toNat T.waitLoopIntervalSecs.toNat k e st :=
  ⟨translate_polling_wait hw target value r T, pollLoop_gives_up_after o hk _ _ _ _⟩

/-- `waitForTextPresent` with the default timing, on a page where the check never holds and
always raises: sixty checks, sixty sleeps of a second, then the failure. -/
theorem text_wait_gives_up_when_check_raises :
    ("waitForTextPresent", "isTextPresent", false) ∈ pollingWaits ∧
      FirstYes (fun _ => .raises) ⊤ ∧
      (translate "$this" {} ⟨"waitForTextPresent", some "Welcome", none⟩ =
          (pollingLoop "$this" {} "isTextPresent" false "Welcome").lines ∧
        (∃ e st, (pollingLoop "$this" {} "isTextPresent" false "Welcome").Runs
          (fun _ => .raises) {} e st) ∧
        ∀ e st, (pollingLoop "$this" {} "isTextPresent" false "Welcome").Runs
            (fun _ => .raises) {} e st →
          GivesUpAfter (60 : UInt32).toNat (1 : UInt32).toNat ⊤ e st) :=
  have hk : FirstYes (fun _ => .raises) ⊤ :=
    ⟨fun _ _ h => Probe.noConfusion h, fun i h => absurd h (ENat.natCast_ne_top i)⟩
  ⟨by decide, hk,
    polling_wait_gives_up_after_bound (by decide) (some "Welcome") none "$this" {}
      (fun _ => .raises) hk⟩

end Transcribe.Translate.Legacy
