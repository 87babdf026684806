import Mathlib.Data.List.Induction

/-!
# Runs of action-labelled programs

A program is given by a partial step function: in a state, the chosen action
either is enabled and determines the next state, or is not enabled.  All
nondeterminism (which task moves, what the environment does) sits in the
choice of the actions, so a run is a list of actions together with the state
it leads to.

The module supplies the induction principle over runs, prefixes of runs, runs
whose steps all meet a condition, and the projection of a run of a composed
program to a run of one of its components, whether the component exists from
the start or is created on the way.
-/

namespace KubectlSshuttle.Lib.Transition

universe u v w x

variable {State : Type u} {Action : Type v}

/-- A partial step function; `none` says that the action is not enabled. -/
abbrev Stepper (State : Type u) (Action : Type v) :=
  State → Action → Option State

/-- The runs of a program, extended at their end. -/
inductive Run (step : Stepper State Action) (start : State) :
    List Action → State → Prop where
  | start : Run step start [] start
  | extend {trace : List Action} {middle finish : State} {action : Action}
      (earlier : Run step start trace middle)
      (taken : step middle action = some finish) :
      Run step start (trace ++ [action]) finish

/-- Carry out a list of actions, if each of them is enabled in its turn. -/
def execute (step : Stepper State Action) (start : State) :
    List Action → Option State
  | [] => some start
  | action :: rest =>
      match step start action with
      | none => none
      | some next => execute step next rest

section Runs

variable {step : Stepper State Action} {start : State}

theorem Run.single {action : Action} {finish : State}
    (taken : step start action = some finish) :
    Run step start [action] finish :=
  (Run.start : Run step start [] start).extend taken

/-- Runs compose. -/
theorem Run.trans {first second : List Action} {middle finish : State}
    (left : Run step start first middle)
    (right : Run step middle second finish) :
    Run step start (first ++ second) finish := by
  induction right with
  | start =>
      simpa using left
  | extend earlier taken induction =>
      rw [← List.append_assoc]
      exact Run.extend induction taken

/-- A run that follows the carried-out actions exists. -/
theorem run_of_execute {trace : List Action} {finish : State}
    (done : execute step start trace = some finish) :
    Run step start trace finish := by
  induction trace generalizing start with
  | nil =>
      simp only [execute, Option.some.injEq] at done
      subst done
      exact Run.start
  | cons action rest induction =>
      simp only [execute] at done
      split at done
      · cases done
      · next next taken =>
          exact (Run.single taken).trans (induction done)

variable (step start) in
/-- A test on where the actions lead finds a run. -/
theorem run_of_execute_any (trace : List Action) (test : State → Bool)
    (passed : (execute step start trace).any test = true) :
    ∃ finish, Run step start trace finish ∧ test finish = true := by
  cases reached : execute step start trace with
  | none => simp [reached] at passed
  | some finish =>
      rw [reached] at passed
      exact ⟨finish, run_of_execute reached, passed⟩

/-- The empty trace leads nowhere else. -/
theorem Run.nil_eq {finish : State} (run : Run step start [] finish) :
    finish = start := by
  generalize empty : ([] : List Action) = trace at run
  cases run with
  | start => rfl
  | extend earlier taken => simp at empty

/-- Inversion of a run at its last action. -/
theorem Run.last {trace : List Action} {action : Action} {finish : State}
    (run : Run step start (trace ++ [action]) finish) :
    ∃ middle, Run step start trace middle ∧
      step middle action = some finish := by
  generalize whole : trace ++ [action] = full at run
  cases run with
  | start => simp at whole
  | extend earlier taken =>
      obtain ⟨rfl, rfl⟩ := List.append_inj' whole rfl |>.imp id
        (fun equal => by simpa using equal)
      exact ⟨_, earlier, taken⟩

/-- Every prefix of a trace is the trace of a run. -/
theorem Run.take {before after : List Action} {finish : State}
    (run : Run step start (before ++ after) finish) :
    ∃ middle, Run step start before middle ∧
      Run step middle after finish := by
  induction after using List.reverseRecOn generalizing finish with
  | nil =>
      exact ⟨finish, by simpa using run, Run.start⟩
  | append_singleton after action induction =>
      rw [← List.append_assoc] at run
      rcases run.last with ⟨previous, earlier, taken⟩
      rcases induction earlier with ⟨middle, left, right⟩
      exact ⟨middle, left, right.extend taken⟩

/-- The step that a run takes at one of its actions. -/
theorem Run.step_at {before after : List Action} {action : Action}
    {finish : State} (run : Run step start (before ++ action :: after) finish) :
    ∃ state next, Run step start before state ∧
      step state action = some next ∧ Run step next after finish := by
  rw [List.append_cons] at run
  rcases run.take with ⟨next, first, rest⟩
  rcases first.last with ⟨state, reached, taken⟩
  exact ⟨state, next, reached, taken, rest⟩

/-- The state a trace leads to is determined by the trace. -/
theorem Run.deterministic {trace : List Action} {left right : State}
    (leftRun : Run step start trace left)
    (rightRun : Run step start trace right) :
    left = right := by
  induction leftRun generalizing right with
  | start => exact rightRun.nil_eq.symm
  | extend earlier taken induction =>
      rcases rightRun.last with ⟨middle, rightEarlier, rightTaken⟩
      have same := induction rightEarlier
      subst same
      exact Option.some.inj (taken.symm.trans rightTaken)

/--
The invariant rule: what holds at the start and is preserved by every step
holds at the end of every run.  The motive may speak about the trace.
-/
theorem Run.invariant {motive : List Action → State → Prop}
    (initial : motive [] start)
    (preserved : ∀ trace state action next,
      Run step start trace state → motive trace state →
        step state action = some next →
          motive (trace ++ [action]) next)
    {trace : List Action} {finish : State}
    (run : Run step start trace finish) : motive trace finish := by
  induction run with
  | start => exact initial
  | extend earlier taken induction =>
      exact preserved _ _ _ _ earlier induction taken

end Runs

/-! ## Runs whose steps all meet a condition -/

/--
Every step of the run meets `condition`, which sees the actions taken before
the step, the state before it and the action itself.
-/
def Meets (step : Stepper State Action) (start : State)
    (condition : List Action → State → Action → Prop)
    (trace : List Action) : Prop :=
  ∀ before action after state, trace = before ++ action :: after →
    Run step start before state → condition before state action

section Meets

variable {step : Stepper State Action} {start : State}
  {condition : List Action → State → Action → Prop}

theorem Meets.nil : Meets step start condition [] := by
  intro before action after state equal
  simp at equal

/-- A condition on the actions alone. -/
theorem Meets.of_forall {trace : List Action}
    (holds : ∀ action ∈ trace, ∀ before state,
      condition before state action) :
    Meets step start condition trace := by
  intro before action after state equal _
  exact holds action (by simp [equal]) before state

theorem Meets.init {trace : List Action} {action : Action}
    (meets : Meets step start condition (trace ++ [action])) :
    Meets step start condition trace := by
  intro before other after state equal run
  refine meets before other (after ++ [action]) state ?_ run
  simp [equal]

theorem Meets.take {before after : List Action}
    (meets : Meets step start condition (before ++ after)) :
    Meets step start condition before := by
  intro earlier action rest state equal run
  exact meets earlier action (rest ++ after) state (by simp [equal]) run

theorem Meets.last {trace : List Action} {action : Action} {state : State}
    (meets : Meets step start condition (trace ++ [action]))
    (run : Run step start trace state) :
    condition trace state action :=
  meets trace action [] state rfl run

theorem Meets.extend {trace : List Action} {action : Action} {state : State}
    (meets : Meets step start condition trace)
    (run : Run step start trace state)
    (holds : condition trace state action) :
    Meets step start condition (trace ++ [action]) := by
  intro before other after reached equal beforeRun
  rcases List.eq_nil_or_concat after with rfl | ⟨initial, final, rfl⟩
  · rcases List.append_inj' equal rfl with ⟨rfl, same⟩
    obtain rfl : action = other := by simpa using same
    rw [run.deterministic beforeRun] at holds
    exact holds
  · refine meets before other initial reached ?_ beforeRun
    have shape : trace ++ [action] =
        (before ++ other :: initial) ++ [final] := by
      simpa using equal
    exact (List.append_inj' shape rfl).1

/-- Further actions that meet the condition in every state. -/
theorem Meets.append {trace rest : List Action}
    (meets : Meets step start condition trace)
    (holds : ∀ action ∈ rest, ∀ before state,
      condition before state action) :
    Meets step start condition (trace ++ rest) := by
  intro before action after state equal run
  rcases List.append_eq_append_iff.mp equal with
    ⟨more, rfl, split⟩ | ⟨more, whole, split⟩
  · exact holds action (by simp [split]) _ state
  · cases more with
    | nil =>
        have same : action :: after = rest := split
        subst same
        exact holds action List.mem_cons_self before state
    | cons other more =>
        rcases List.cons.inj split with ⟨rfl, rfl⟩
        exact meets before action more state whole run

/-- The steps of a program that pass a test. -/
def guarded (step : Stepper State Action) (test : State → Action → Bool) :
    Stepper State Action :=
  fun state action => if test state action then step state action else none

/-- A run in which every step is tested meets the condition tested. -/
theorem Run.of_guarded {test : State → Action → Bool} {trace : List Action}
    {finish : State} (run : Run (guarded step test) start trace finish) :
    Run step start trace finish ∧
      Meets step start (fun _ state action => test state action = true)
        trace := by
  induction run with
  | start => exact ⟨.start, Meets.nil⟩
  | extend earlier taken induction =>
      rcases induction with ⟨before, meets⟩
      rw [guarded] at taken
      split at taken
      · next passed =>
          exact ⟨before.extend taken, meets.extend before passed⟩
      · cases taken

/-- The invariant rule for runs whose steps all meet the condition. -/
theorem Run.invariant_of_meets {motive : List Action → State → Prop}
    (initial : motive [] start)
    (preserved : ∀ trace state action next,
      Run step start trace state → motive trace state →
        condition trace state action →
          step state action = some next →
            motive (trace ++ [action]) next)
    {trace : List Action} {finish : State}
    (run : Run step start trace finish)
    (meets : Meets step start condition trace) :
    motive trace finish := by
  induction run with
  | start => exact initial
  | extend earlier taken induction =>
      exact preserved _ _ _ _ earlier (induction meets.init)
        (meets.last earlier) taken

end Meets

/-! ## Projection to a component -/

section Projection

variable {Part : Type w} {Event : Type x}
  {step : Stepper State Action} {partStep : Stepper Part Event}
  {start : State}

/--
What a step of the composed program does to a component: it either leaves the
component alone or is one step of the component.
-/
def Projects (partStep : Stepper Part Event) (event : Option Event)
    (before after : Part) : Prop :=
  match event with
  | none => after = before
  | some event => partStep before event = some after

theorem Projects.kept_or_step {event : Option Event} {before after : Part}
    (projected : Projects partStep event before after) :
    (event = none ∧ after = before) ∨
      ∃ own, event = some own ∧ partStep before own = some after := by
  cases event with
  | none => exact Or.inl ⟨rfl, projected⟩
  | some own => exact Or.inr ⟨own, rfl, projected⟩

/-- A run of the composed program projects to a run of the component. -/
theorem Run.project (view : State → Part) (label : Action → Option Event)
    (simulate : ∀ state action next, step state action = some next →
      Projects partStep (label action) (view state) (view next))
    {trace : List Action} {finish : State}
    (run : Run step start trace finish) :
    Run partStep (view start) (trace.filterMap label) (view finish) := by
  induction run with
  | start => exact Run.start
  | @extend trace middle finish action earlier taken induction =>
      have moved := simulate _ _ _ taken
      rw [List.filterMap_append]
      rcases moved.kept_or_step with
        ⟨unlabelled, same⟩ | ⟨own, labelled, step⟩
      · simpa [unlabelled, same] using induction
      · simpa [labelled] using induction.extend step

/--
A component created on the way: before its creation no action concerns it,
and from a fresh part on it follows its own steps.
-/
theorem Run.project_created (view : State → Option Part)
    (label : Action → Option Event) (Fresh : Part → Prop)
    (absent : view start = none)
    (create : ∀ state action next, step state action = some next →
      view state = none → label action = none ∧
        (view next = none ∨ ∃ part, Fresh part ∧ view next = some part))
    (simulate : ∀ state action next part, step state action = some next →
      view state = some part →
        ∃ part', view next = some part' ∧
          Projects partStep (label action) part part')
    {trace : List Action} {finish : State}
    (run : Run step start trace finish) :
    (view finish = none ∧ trace.filterMap label = []) ∨
      ∃ fresh part, Fresh fresh ∧ view finish = some part ∧
        Run partStep fresh (trace.filterMap label) part := by
  induction run with
  | start => exact Or.inl ⟨absent, rfl⟩
  | @extend trace middle finish action earlier taken induction =>
      rw [List.filterMap_append]
      rcases induction with
        ⟨missing, empty⟩ | ⟨fresh, part, isFresh, present, partRun⟩
      · rcases create _ _ _ taken missing with ⟨unlabelled, created⟩
        have nothing : [action].filterMap label = [] := by
          simp [unlabelled]
        rw [empty, nothing]
        rcases created with still | ⟨part, isFresh, present⟩
        · exact Or.inl ⟨still, rfl⟩
        · exact Or.inr ⟨part, part, isFresh, present, Run.start⟩
      · rcases simulate _ _ _ _ taken present with ⟨part', present', moved⟩
        refine Or.inr ⟨fresh, part', isFresh, present', ?_⟩
        rcases moved.kept_or_step with
          ⟨unlabelled, same⟩ | ⟨own, labelled, step⟩
        · simpa [unlabelled, same] using partRun
        · simpa [labelled] using partRun.extend step

end Projection

end KubectlSshuttle.Lib.Transition
