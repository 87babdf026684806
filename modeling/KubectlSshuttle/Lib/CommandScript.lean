import Mathlib.Data.List.Basic

/-!
# Programs that run commands

A script runs external commands one after another.  A command succeeds as a
whole or fails as a whole; a failed command changes nothing, and what is run
next depends on the exit status alone.

A command must fail in the states in which it makes no sense.  It may fail
for other reasons besides: `Outcome` admits these faults and `eval` does not.
-/

namespace KubectlSshuttle.Lib

universe u v w

/-- A run of commands, each of which can fail. -/
inductive Script (Command : Type u) (Result : Type w) where
  | finished (result : Result)
  | run (command : Command) (next : Bool → Script Command Result)

namespace Script

variable {Command : Type u} {State : Type v} {Result Other : Type w}

/-! ## Building scripts -/

/-- Run a script, then the one that its result asks for. -/
def bind (script : Script Command Result)
    (rest : Result → Script Command Other) : Script Command Other :=
  match script with
  | .finished result => rest result
  | .run command next => .run command fun ok => (next ok).bind rest

/-- A script that stops at the first failure and reports the command. -/
abbrev Fallible (Command : Type u) := Script Command (Except Command Unit)

/-- Run a list of commands up to the first that fails. -/
def all : List Command → Fallible Command
  | [] => .finished (.ok ())
  | command :: rest =>
      .run command fun ok =>
        if ok then all rest else .finished (.error command)

/-- Go on only after a success. -/
def andThen (first second : Fallible Command) : Fallible Command :=
  first.bind fun
    | .ok () => second
    | .error command => .finished (.error command)

theorem all_append (first second : List Command) :
    all (first ++ second) = (all first).andThen (all second) := by
  induction first with
  | nil => rfl
  | cons command rest induction =>
      rw [List.cons_append, all, all, andThen, bind]
      congr 1
      funext ok
      cases ok with
      | true => exact induction
      | false => rfl

/-! ## What a script does -/

section Meaning

variable (apply : Command → State → Option State)

/-- A script runs from a state to its result; any command may fail. -/
inductive Outcome : Script Command Result → State → Result → State → Prop
  where
  | finished (result : Result) (state : State) :
      Outcome (.finished result) state result state
  | succeeded {command : Command} {next : Bool → Script Command Result}
      {state middle final : State} {result : Result}
      (applied : apply command state = some middle)
      (rest : Outcome (next true) middle result final) :
      Outcome (.run command next) state result final
  | failed {command : Command} {next : Bool → Script Command Result}
      {state final : State} {result : Result}
      (rest : Outcome (next false) state result final) :
      Outcome (.run command next) state result final

/-- A script runs to its end, and a command fails only where it must. -/
def eval : Script Command Result → State → Result × State
  | .finished result, state => (result, state)
  | .run command next, state =>
      match apply command state with
      | some middle => eval (next true) middle
      | none => eval (next false) state

variable {apply}

theorem Outcome.of_finished {result other : Result} {state final : State}
    (outcome : Outcome apply (.finished result) state other final) :
    other = result ∧ final = state := by
  cases outcome with
  | finished => exact ⟨rfl, rfl⟩

theorem outcome_eval (script : Script Command Result) (state : State) :
    Outcome apply script state (script.eval apply state).1
      (script.eval apply state).2 := by
  induction script generalizing state with
  | finished result => exact .finished result state
  | run command next induction =>
      rw [eval]
      split
      · next middle applied => exact .succeeded applied (induction true _)
      · exact .failed (induction false _)

/-- A script in front of another reaches a state of its own in between. -/
theorem Outcome.of_bind {script : Script Command Result}
    {rest : Result → Script Command Other} {state final : State}
    {result : Other}
    (outcome : Outcome apply (script.bind rest) state result final) :
    ∃ found middle, Outcome apply script state found middle ∧
      Outcome apply (rest found) middle result final := by
  induction script generalizing state with
  | finished found => exact ⟨found, state, .finished found state, outcome⟩
  | run command next induction =>
      cases outcome with
      | succeeded applied later =>
          rcases induction true later with ⟨found, middle, first, second⟩
          exact ⟨found, middle, .succeeded applied first, second⟩
      | failed later =>
          rcases induction false later with ⟨found, middle, first, second⟩
          exact ⟨found, middle, .failed first, second⟩

/-- The second script runs only after a success of the first. -/
theorem Outcome.of_andThen {first second : Fallible Command}
    {state final : State} {result : Except Command Unit}
    (outcome : Outcome apply (first.andThen second) state result final) :
    (∃ command, Outcome apply first state (.error command) final) ∨
      ∃ middle, Outcome apply first state (.ok ()) middle ∧
        Outcome apply second middle result final := by
  rcases outcome.of_bind with ⟨found, middle, earlier, later⟩
  cases found with
  | ok value => exact .inr ⟨middle, earlier, later⟩
  | error command =>
      rcases later.of_finished with ⟨_, rfl⟩
      exact .inl ⟨command, earlier⟩

/-- Both scripts succeed. -/
theorem Outcome.ok_of_andThen {first second : Fallible Command}
    {state final : State}
    (outcome : Outcome apply (first.andThen second) state (.ok ()) final) :
    ∃ middle, Outcome apply first state (.ok ()) middle ∧
      Outcome apply second middle (.ok ()) final := by
  rcases outcome.of_bind with ⟨found, middle, earlier, later⟩
  cases found with
  | ok value => exact ⟨middle, earlier, later⟩
  | error command => cases later.of_finished.1

/-- Where a list of commands succeeds, each of them has been applied. -/
theorem Outcome.of_all {commands : List Command} {state final : State}
    (outcome : Outcome apply (all commands) state (.ok ()) final) :
    commands.foldlM (fun state command => apply command state) state =
      some final := by
  induction commands generalizing state with
  | nil => exact congrArg some outcome.of_finished.2.symm
  | cons command rest induction =>
      cases outcome with
      | succeeded applied later =>
          rw [List.foldlM_cons, applied]
          exact induction later
      | failed later => cases later.of_finished.1

theorem eval_bind (script : Script Command Result)
    (rest : Result → Script Command Other) (state : State) :
    (script.bind rest).eval apply state =
      (rest (script.eval apply state).1).eval apply
        (script.eval apply state).2 := by
  induction script generalizing state with
  | finished result => rfl
  | run command next induction =>
      rw [bind, eval, eval]
      split
      · exact induction true _
      · exact induction false _

/-! ## One command at a time -/

variable (apply) in
/-- Run the next command, which may fail besides. -/
def attempt (ok : Bool) :
    Script Command Result → State → Option (Script Command Result × State)
  | .finished _, _ => none
  | .run command next, state =>
      if ok then (apply command state).map fun middle => (next true, middle)
      else some (next false, state)

variable (apply) in
/-- Run the next command, which fails only where it must. -/
def advance :
    Script Command Result → State → Option (Script Command Result × State)
  | .finished _, _ => none
  | .run command next, state =>
      match apply command state with
      | some middle => some (next true, middle)
      | none => some (next false, state)

/-- What the rest of a script can do, the script can do. -/
theorem Outcome.of_attempt {ok : Bool} {script rest : Script Command Result}
    {state middle final : State} {result : Result}
    (attempted : script.attempt apply ok state = some (rest, middle))
    (outcome : Outcome apply rest middle result final) :
    Outcome apply script state result final := by
  cases script with
  | finished found => cases attempted
  | run command next =>
      cases ok with
      | true =>
          rcases Option.map_eq_some_iff.mp attempted with
            ⟨found, applied, pair⟩
          rcases Prod.mk.inj pair with ⟨rfl, rfl⟩
          exact .succeeded applied outcome
      | false =>
          rcases Prod.mk.inj (Option.some.inj attempted) with ⟨rfl, rfl⟩
          exact .failed outcome

theorem eval_of_advance {script rest : Script Command Result}
    {state middle : State}
    (advanced : script.advance apply state = some (rest, middle)) :
    rest.eval apply middle = script.eval apply state := by
  cases script with
  | finished found => cases advanced
  | run command next =>
      rw [eval]
      rw [advance] at advanced
      split at advanced
      · next found applied =>
          rcases Prod.mk.inj (Option.some.inj advanced) with ⟨rfl, rfl⟩
          rfl
      · next failed =>
          rcases Prod.mk.inj (Option.some.inj advanced) with ⟨rfl, rfl⟩
          rfl

end Meaning

/-! ## Invariants -/

/-- The commands that a script can come to run. -/
inductive Mentions : Script Command Result → Command → Prop where
  | here (command : Command) (next : Bool → Script Command Result) :
      Mentions (.run command next) command
  | later {command other : Command} {next : Bool → Script Command Result}
      (ok : Bool) (mentioned : Mentions (next ok) other) :
      Mentions (.run command next) other

theorem mem_of_mentions_all {commands : List Command} {command : Command}
    (mentioned : (all commands).Mentions command) : command ∈ commands := by
  induction commands with
  | nil => cases mentioned
  | cons first rest induction =>
      cases mentioned with
      | here => exact List.mem_cons_self
      | later ok mentioned =>
          cases ok with
          | true => exact List.mem_cons_of_mem _ (induction mentioned)
          | false => cases mentioned

/-- What every command of a script preserves holds after the script. -/
theorem Outcome.invariant {apply : Command → State → Option State}
    {holds : State → Prop} {script : Script Command Result}
    {state final : State} {result : Result}
    (outcome : Outcome apply script state result final)
    (preserved : ∀ command before after, script.Mentions command →
      apply command before = some after → holds before → holds after)
    (initial : holds state) : holds final := by
  induction outcome with
  | finished => exact initial
  | succeeded applied rest induction =>
      apply induction
      · exact fun other before after mentioned =>
          preserved other before after (.later true mentioned)
      · exact preserved _ _ _ (.here _ _) applied initial
  | failed rest induction =>
      apply induction
      · exact fun other before after mentioned =>
          preserved other before after (.later false mentioned)
      · exact initial

end Script

end KubectlSshuttle.Lib
