import KubectlSshuttle.Lib.Transition

/-!
# Programs that come to rest

Some actions of a program belong to its environment, the others are its own.
At rest no action of its own is enabled.  A price on the runs that every own
action lowers bounds how long the program can act by itself: whatever it
does, it comes to rest, and from there on only the environment moves.
-/

namespace KubectlSshuttle.Lib.Settling

open KubectlSshuttle.Lib.Transition

universe u v

variable {State : Type u} {Action : Type v}

/-- No action of the program's own is enabled. -/
def Rests (step : Stepper State Action) (outside : Action → Bool)
    (state : State) : Prop :=
  ∀ action next, step state action = some next → outside action = true

/-- Only actions of the program's own. -/
def Alone (outside : Action → Bool) (trace : List Action) : Prop :=
  ∀ action ∈ trace, outside action = false

/-- Every action of the program's own lowers the price of the run. -/
def Spends (step : Stepper State Action) (outside : Action → Bool)
    (start : State) (price : List Action → State → Nat) : Prop :=
  ∀ trace state action next, Run step start trace state →
    outside action = false → step state action = some next →
      price (trace ++ [action]) next < price trace state

section Spends

variable {step : Stepper State Action} {outside : Action → Bool}
  {start : State} {price : List Action → State → Nat}

theorem Alone.nil : Alone outside [] := by
  intro action member
  cases member

theorem Alone.cons {action : Action} {rest : List Action}
    (own : outside action = false) (alone : Alone outside rest) :
    Alone outside (action :: rest) := by
  intro other member
  rcases List.mem_cons.mp member with rfl | later
  · exact own
  · exact alone other later

/-- A program with fewer actions of its own spends no less for them. -/
theorem Spends.of_le {wider : Action → Bool}
    (spends : Spends step outside start price)
    (more : ∀ action, wider action = false → outside action = false) :
    Spends step wider start price := by
  intro trace state action next run own taken
  exact spends trace state action next run (more action own) taken

/-- The program pays for each of its own actions. -/
theorem Spends.pays (spends : Spends step outside start price)
    {trace rest : List Action} {state final : State}
    (run : Run step start trace state) (more : Run step state rest final)
    (alone : Alone outside rest) :
    price (trace ++ rest) final + rest.length ≤ price trace state := by
  induction more with
  | start => simp
  | @extend rest middle final action earlier taken induction =>
      have before := induction fun other member =>
        alone other (List.mem_append_left _ member)
      have own := alone action (by simp)
      have lower := spends _ _ _ _ (run.trans earlier) own taken
      rw [List.append_assoc] at lower
      rw [List.length_append, List.length_singleton]
      omega

/-- How often the program can act by itself. -/
theorem Spends.bounds (spends : Spends step outside start price)
    {trace rest : List Action} {state final : State}
    (run : Run step start trace state) (more : Run step state rest final)
    (alone : Alone outside rest) : rest.length ≤ price trace state := by
  have paid := spends.pays run more alone
  omega

/-- Without anything to spend the program is at rest. -/
theorem Spends.rests (spends : Spends step outside start price)
    {trace : List Action} {state : State}
    (run : Run step start trace state) (broke : price trace state = 0) :
    Rests step outside state := by
  intro action next taken
  by_contra own
  have lower := spends _ _ _ _ run (by simpa using own) taken
  rw [broke] at lower
  exact Nat.not_lt_zero _ lower

/-- Whatever the program has done, it can go on by itself until it rests. -/
theorem Spends.comes_to_rest (spends : Spends step outside start price)
    {trace : List Action} {state : State}
    (run : Run step start trace state) :
    ∃ rest final, Alone outside rest ∧ Run step state rest final ∧
      Rests step outside final := by
  -- by induction on what the run can still spend
  generalize budget : price trace state = amount
  induction amount using Nat.strongRecOn generalizing trace state with
  | ind amount induction =>
      by_cases still : Rests step outside state
      · exact ⟨[], state, .nil, .start, still⟩
      · simp only [Rests, not_forall, Bool.not_eq_true] at still
        rcases still with ⟨action, next, taken, own⟩
        have lower := spends _ _ _ _ run own taken
        rcases induction _ (budget ▸ lower) (run.extend taken) rfl with
          ⟨rest, final, alone, more, rests⟩
        exact ⟨action :: rest, final, .cons own alone,
          (Run.single taken).trans more, rests⟩

end Spends

end KubectlSshuttle.Lib.Settling
