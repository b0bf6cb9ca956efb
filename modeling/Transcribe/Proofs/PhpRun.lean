import Transcribe.Php.Code
/-!
# `Proofs.PhpRun` — running the statements of generated PHP

The remote-control waits translate into a PHP loop with a `try`, a `break` and a call that
fails the test. To say what that code does when it runs, this module gives the fragment of
PHP it is written in a syntax (`Term`, `Stmt`), a printer into lines that lays the code out
as the translator does (`Stmt.lines`), and a semantics (`Stmt.exec`).

The semantics is PHP's, for this fragment:

* `for (init; ; step) body` runs `init`, then `body` and `step` round after round, until the
  body breaks, which ends the loop normally, or throws, which leaves the loop with the throw;
* `try { body } catch (C $e) { handler }` runs the handler on a throw of class `C`; every class
  thrown here extends `Exception`, so a handler for `Exception` catches them all;
* `$r->fail("m")` throws PHPUnit's `PHPUnit_Framework_AssertionFailedError`;
* `>=` on two integers compares them; other scalars are compared as booleans;
* a check of the page (`Term.probe`) is an oracle: its `i`-th evaluation, counted from `0`
  over the whole run, answers `o i`, which is true, false, or an exception.

Each evaluation of a check, each sleep and each failure is recorded in the run's events, so
the events of a run say how often it checked the page and how long it slept.

`Stmt.exec` takes fuel, one unit for each level of nesting and each round of a loop, and
answers `none` when the fuel runs out. More fuel never changes an answer
(`exec_extends_of_le`), so a statement has at most one run from a state
(`Stmt.Runs.unique`).

Each construct continues through a combinator (`afterEval`, `andThen`, `recover`,
`afterRound`), and the argument that more fuel keeps an answer is made once per combinator.
-/

namespace Transcribe.Php

/-- The values the fragment computes with. -/
inductive Scalar where
  | null
  | bool (b : Bool)
  | int (n : Int)
  deriving DecidableEq, Repr

/-- PHP's truth of a value. -/
def Scalar.truthy : Scalar → Bool
  | .null => false
  | .bool b => b
  | .int n => n != 0

/-- PHP's `a >= b`: integers by value, anything else as booleans. -/
def Scalar.ge : Scalar → Scalar → Bool
  | .int a, .int b => decide (b ≤ a)
  | a, b => a.truthy || !b.truthy

/-- PHP's `$x++` on the value of `$x`: `null` becomes `1`, and booleans are left as they are. -/
def Scalar.succ : Scalar → Scalar
  | .int n => .int (n + 1)
  | .null => .int 1
  | .bool b => .bool b

/-- Expressions of the fragment. -/
inductive Term where
  | var (name : String)
  | int (n : Int)
  | ge (a b : Term)
  | assign (name : String) (e : Term)
  | postIncr (name : String)
  /-- A check of the page, written as the code `code`. -/
  | probe (code : String)
  /-- `receiver->fail("message")`. -/
  | fail (receiver message : String)
  | sleep (secs : Nat)
  deriving DecidableEq, Repr

/-- Statements of the fragment. -/
inductive Stmt where
  | skip
  | expr (e : Term)
  | seq (a b : Stmt)
  | ifThen (cond : Term) (body : Stmt)
  | breakLoop
  | tryCatch (body : Stmt) (cls : String) (handler : Stmt)
  /-- `for (init; ; step) body`, a loop with no condition. -/
  | forLoop (init step : Term) (body : Stmt)
  deriving DecidableEq, Repr

/-- What one evaluation of a check of the page gives. -/
inductive Probe where
  | yes
  | no
  | raises
  deriving DecidableEq, Repr

/-- What a run leaves a trace of. -/
inductive Event where
  | check
  | sleep (secs : Nat)
  | fail (message : String)
  deriving DecidableEq, Repr

/-- An exception in flight: its class and message. -/
structure Thrown where
  cls : String
  message : String
  deriving DecidableEq, Repr

/-- How a statement ends. -/
inductive Ending where
  | normal
  | broke
  | threw (x : Thrown)
  deriving DecidableEq, Repr

/-- The state of a run: the variables, latest first, and the events so far. -/
structure Run where
  vars : List (String × Scalar) := []
  events : List Event := []
  deriving DecidableEq, Repr

/-- The value of a variable; an unset variable reads as `null`. -/
def Run.get (st : Run) (x : String) : Scalar := (st.vars.lookup x).getD .null

def Run.set (st : Run) (x : String) (v : Scalar) : Run :=
  { st with vars := (x, v) :: st.vars.filter (·.1 != x) }

def Run.record (st : Run) (ev : Event) : Run := { st with events := st.events ++ [ev] }

/-- The number of checks of the page made so far, which is the index of the next one. -/
def Run.checks (st : Run) : Nat := st.events.count .check

/-- The class of the exception that `fail` throws. -/
def assertionFailed : String := "PHPUnit_Framework_AssertionFailedError"

/-- Whether `catch (cls $e)` catches `x`. -/
def catches (cls : String) (x : Thrown) : Bool := cls == "Exception" || cls == x.cls

/-- Evaluates a term; the checks of the page answer as `o` says. -/
def Term.eval (o : Nat → Probe) : Term → Run → Except Thrown Scalar × Run
  | .var x, st => (.ok (st.get x), st)
  | .int n, st => (.ok (.int n), st)
  | .ge a b, st =>
    match a.eval o st with
    | (.error x, st₁) => (.error x, st₁)
    | (.ok va, st₁) =>
      match b.eval o st₁ with
      | (.error x, st₂) => (.error x, st₂)
      | (.ok vb, st₂) => (.ok (.bool (va.ge vb)), st₂)
  | .assign x e, st =>
    match e.eval o st with
    | (.error err, st₁) => (.error err, st₁)
    | (.ok v, st₁) => (.ok v, st₁.set x v)
  | .postIncr x, st => (.ok (st.get x), st.set x (st.get x).succ)
  | .probe _, st =>
    match o st.checks with
    | .yes => (.ok (.bool true), st.record .check)
    | .no => (.ok (.bool false), st.record .check)
    | .raises => (.error ⟨"Exception", ""⟩, st.record .check)
  | .fail _ m, st => (.error ⟨assertionFailed, m⟩, st.record (.fail m))
  | .sleep n, st => (.ok (.int 0), st.record (.sleep n))

/-- After evaluating a term: goes on with its value, or ends the statement with what it threw. -/
def afterEval (r : Except Thrown Scalar × Run) (k : Scalar → Run → Option (Ending × Run)) :
    Option (Ending × Run) :=
  match r with
  | (.ok v, st) => k v st
  | (.error x, st) => some (.threw x, st)

/-- After a statement: goes on with `k` when it ended normally, and passes any other ending on. -/
def andThen (r : Option (Ending × Run)) (k : Run → Option (Ending × Run)) : Option (Ending × Run) :=
  match r with
  | some (.normal, st) => k st
  | r => r

/-- After the body of a `try`: runs the handler on an exception that its class catches. -/
def recover (cls : String) (r : Option (Ending × Run)) (handler : Run → Option (Ending × Run)) :
    Option (Ending × Run) :=
  match r with
  | some (.threw x, st) => if catches cls x then handler st else some (.threw x, st)
  | r => r

/-- After one round of a loop body: goes round again with `k` when it ended normally, leaves
the loop normally when it broke, and passes a throw on. -/
def afterRound (r : Option (Ending × Run)) (k : Run → Option (Ending × Run)) :
    Option (Ending × Run) :=
  match r with
  | some (.normal, st) => k st
  | some (.broke, st) => some (.normal, st)
  | r => r

mutual
/-- Runs a statement with the given fuel; `none` when the fuel runs out. -/
def Stmt.exec (o : Nat → Probe) : Nat → Stmt → Run → Option (Ending × Run)
  | 0, _, _ => none
  | _ + 1, .skip, st => some (.normal, st)
  | _ + 1, .expr e, st => afterEval (e.eval o st) fun _ st₁ => some (.normal, st₁)
  | fuel + 1, .seq a b, st => andThen (Stmt.exec o fuel a st) (Stmt.exec o fuel b)
  | fuel + 1, .ifThen c s, st =>
    afterEval (c.eval o st) fun v st₁ =>
      if v.truthy then Stmt.exec o fuel s st₁ else some (.normal, st₁)
  | _ + 1, .breakLoop, st => some (.broke, st)
  | fuel + 1, .tryCatch body cls handler, st =>
    recover cls (Stmt.exec o fuel body st) (Stmt.exec o fuel handler)
  | fuel + 1, .forLoop init step body, st =>
    afterEval (init.eval o st) fun _ st₁ => Stmt.iterate o fuel step body st₁

/-- The rounds of a `for` loop from its first, one unit of fuel each. -/
def Stmt.iterate (o : Nat → Probe) : Nat → Term → Stmt → Run → Option (Ending × Run)
  | 0, _, _, _ => none
  | fuel + 1, step, body, st =>
    afterRound (Stmt.exec o fuel body st) fun st₁ =>
      afterEval (step.eval o st₁) fun _ st₂ => Stmt.iterate o fuel step body st₂
end

/-- The code of a term. -/
def Term.code : Term → String
  | .var x => x
  | .int n => toString n
  | .ge a b => a.code ++ " >= " ++ b.code
  | .assign x e => x ++ " = " ++ e.code
  | .postIncr x => x ++ "++"
  | .probe c => c
  | .fail r m => r ++ "->fail(\"" ++ m ++ "\")"
  | .sleep n => "sleep(" ++ toString n ++ ")"

/-- The lines of a statement, laid out as generated code is: an `if` with a one-line body on
one line, blocks indented by four spaces, and an empty `catch` block closed on its line. -/
def Stmt.lines : Stmt → List String
  | .skip => []
  | .expr e => [e.code ++ ";"]
  | .seq a b => a.lines ++ b.lines
  | .ifThen c s =>
    match s.lines with
    | [line] => ["if (" ++ c.code ++ ") " ++ line]
    | ls => ["if (" ++ c.code ++ ") \x7b"] ++ indentLines ls 4 ++ ["\x7d"]
  | .breakLoop => ["break;"]
  | .tryCatch body cls handler =>
    ["try \x7b"] ++ indentLines body.lines 4 ++
      match handler.lines with
      | [] => ["\x7d catch (" ++ cls ++ " $e) \x7b\x7d"]
      | ls => ["\x7d catch (" ++ cls ++ " $e) \x7b"] ++ indentLines ls 4 ++ ["\x7d"]
  | .forLoop init step body =>
    ["for (" ++ init.code ++ "; ; " ++ step.code ++ ") \x7b"] ++ indentLines body.lines 4 ++ ["\x7d"]

/-! ### More fuel keeps an answer -/

theorem exec_seq (o : Nat → Probe) (fuel : Nat) (a b : Stmt) (st : Run) :
    (Stmt.seq a b).exec o (fuel + 1) st = andThen (a.exec o fuel st) (b.exec o fuel) :=
  rfl

section Fuel

variable {o : Nat → Probe}

theorem exec_zero (s : Stmt) (st : Run) : s.exec o 0 st = none := by
  cases s <;> rfl

/-- `r'` gives every answer that `r` gives. -/
def Extends {α : Type} (r r' : Option α) : Prop := ∀ x, r = some x → r' = some x

theorem Extends.refl {α : Type} (r : Option α) : Extends r r := fun _ h => h

theorem Extends.trans {α : Type} {r₁ r₂ r₃ : Option α} (h₁ : Extends r₁ r₂)
    (h₂ : Extends r₂ r₃) : Extends r₁ r₃ :=
  fun x h => h₂ x (h₁ x h)

theorem afterEval_extends {r : Except Thrown Scalar × Run}
    {k k' : Scalar → Run → Option (Ending × Run)} (hk : ∀ v st, Extends (k v st) (k' v st)) :
    Extends (afterEval r k) (afterEval r k') := by
  obtain ⟨_ | v, st⟩ := r
  · exact Extends.refl _
  · exact hk v st

theorem andThen_extends {r r' : Option (Ending × Run)} {k k' : Run → Option (Ending × Run)}
    (hr : Extends r r') (hk : ∀ st, Extends (k st) (k' st)) :
    Extends (andThen r k) (andThen r' k') := by
  intro z h
  cases r with
  | none => cases h
  | some x =>
    rw [hr x rfl]
    obtain ⟨_ | _ | _, st⟩ := x
    · exact hk st z h
    · exact h
    · exact h

theorem recover_extends {cls : String} {r r' : Option (Ending × Run)}
    {k k' : Run → Option (Ending × Run)} (hr : Extends r r') (hk : ∀ st, Extends (k st) (k' st)) :
    Extends (recover cls r k) (recover cls r' k') := by
  intro z h
  cases r with
  | none => cases h
  | some x =>
    rw [hr x rfl]
    obtain ⟨_ | _ | x, st⟩ := x
    · exact h
    · exact h
    · simp only [recover] at h ⊢
      split at h
      · rw [if_pos ‹_›]
        exact hk st z h
      · rw [if_neg ‹_›]
        exact h

theorem afterRound_extends {r r' : Option (Ending × Run)} {k k' : Run → Option (Ending × Run)}
    (hr : Extends r r') (hk : ∀ st, Extends (k st) (k' st)) :
    Extends (afterRound r k) (afterRound r' k') := by
  intro z h
  cases r with
  | none => cases h
  | some x =>
    rw [hr x rfl]
    obtain ⟨_ | _ | _, st⟩ := x
    · exact hk st z h
    · exact h
    · exact h

/-- One more unit of fuel keeps every answer, of a statement and of a loop alike. -/
theorem exec_extends_succ : ∀ n,
    (∀ s st, Extends (Stmt.exec o n s st) (Stmt.exec o (n + 1) s st)) ∧
    (∀ step body st, Extends (Stmt.iterate o n step body st) (Stmt.iterate o (n + 1) step body st))
  | 0 => ⟨fun s st _ h => (by rw [exec_zero] at h; cases h), fun _ _ _ _ h => (by cases h)⟩
  | n + 1 => by
    obtain ⟨ihs, ihi⟩ := exec_extends_succ n
    refine ⟨fun s st => ?_, fun step body st => ?_⟩
    · -- each construct continues through its combinator, which keeps the answers of its parts
      cases s with
      | skip | expr | breakLoop => exact Extends.refl _
      | seq a b => exact andThen_extends (ihs a st) (ihs b)
      | ifThen c body =>
        refine afterEval_extends fun v st₁ => ?_
        by_cases hv : v.truthy
        · simp only [if_pos hv]
          exact ihs body st₁
        · simp only [if_neg hv]
          exact Extends.refl _
      | tryCatch body cls handler => exact recover_extends (ihs body st) (ihs handler)
      | forLoop init step' body => exact afterEval_extends fun _ st₁ => ihi step' body st₁
    · exact afterRound_extends (ihs body st) fun st₁ =>
        afterEval_extends fun _ st₂ => ihi step body st₂

theorem exec_extends_of_le {n m : Nat} (h : n ≤ m) (s : Stmt) (st : Run) :
    Extends (s.exec o n st) (s.exec o m st) := by
  induction h with
  | refl => exact Extends.refl _
  | step _ ih => exact ih.trans ((exec_extends_succ _).1 s st)

/-- A statement runs from `st` to the ending `e` in the state `st'` when some fuel suffices. -/
def Stmt.Runs (o : Nat → Probe) (s : Stmt) (st : Run) (e : Ending) (st' : Run) : Prop :=
  ∃ fuel, s.exec o fuel st = some (e, st')

/-- A statement has at most one run from a state. -/
theorem Stmt.Runs.unique {s : Stmt} {st st₁ st₂ : Run} {e₁ e₂ : Ending}
    (h₁ : s.Runs o st e₁ st₁) (h₂ : s.Runs o st e₂ st₂) : e₁ = e₂ ∧ st₁ = st₂ := by
  obtain ⟨n₁, h₁⟩ := h₁
  obtain ⟨n₂, h₂⟩ := h₂
  -- both answers survive to the larger fuel, where they must agree
  have h₁' := exec_extends_of_le (Nat.le_max_left n₁ n₂) s st _ h₁
  have h₂' := exec_extends_of_le (Nat.le_max_right n₁ n₂) s st _ h₂
  rw [h₁'] at h₂'
  cases h₂'
  exact ⟨rfl, rfl⟩

/-- A run found with some fuel is the only one: what holds of it holds of every run. -/
theorem Stmt.runs_of_exec {s : Stmt} {st st' : Run} {e : Ending} {n : Nat}
    {P : Ending → Run → Prop} (h : s.exec o n st = some (e, st')) (hP : P e st') :
    (∃ e' st'', s.Runs o st e' st'') ∧ ∀ e' st'', s.Runs o st e' st'' → P e' st'' := by
  refine ⟨⟨e, st', n, h⟩, fun e' st'' hrun => ?_⟩
  obtain ⟨rfl, rfl⟩ := Stmt.Runs.unique ⟨n, h⟩ hrun
  exact hP

end Fuel

end Transcribe.Php
