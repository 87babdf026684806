import Mathlib.Logic.Function.Basic

/-!
# Members registered under keys

Members are numbered in the order of their registration.  A key belongs to the
member registered under it last, until the key is closed or that member ends.
This is what a map from keys to members is for; a program's own map can be
compared with it event by event.
-/

namespace KubectlSshuttle.Lib

universe u

variable {Key : Type u}

/-- Members that are numbered as they register, and who holds a key. -/
structure Registry (Key : Type u) where
  owner : Key → Option Nat
  count : Nat

/-- What happens to a registry. -/
inductive RegistryEvent (Key : Type u) where
  | opened (key : Key)
  | closed (key : Key)
  | ended (member : Nat)

/-- No member has registered. -/
def Registry.empty : Registry Key where
  owner := fun _ => none
  count := 0

variable [DecidableEq Key]

/-- A member that ends gives up its key only if it still holds it. -/
def Registry.step (registry : Registry Key) :
    RegistryEvent Key → Registry Key
  | .opened key =>
      { owner := Function.update registry.owner key (some registry.count)
        count := registry.count + 1 }
  | .closed key =>
      { registry with owner := Function.update registry.owner key none }
  | .ended member =>
      { registry with
        owner := fun key =>
          if registry.owner key = some member then none
          else registry.owner key }

/-- The registry after a history of events. -/
def registered (events : List (RegistryEvent Key)) : Registry Key :=
  events.foldl Registry.step .empty

theorem registered_snoc (events : List (RegistryEvent Key))
    (event : RegistryEvent Key) :
    registered (events ++ [event]) = (registered events).step event := by
  simp [registered]

/--
The end of a member that holds at most its own key, while nobody else holds
that key, frees exactly this key.
-/
theorem Registry.step_ended {registry : Registry Key} {member : Nat}
    {key : Key}
    (own : ∀ other, registry.owner other = some member → other = key)
    (alone : ∀ other, registry.owner key = some other → other = member) :
    (registry.step (.ended member)).owner =
      Function.update registry.owner key none := by
  funext other
  simp only [Registry.step]
  by_cases same : other = key
  · subst same
    rw [Function.update_self]
    cases held : registry.owner other with
    | none => simp
    | some holder => simp [alone holder held]
  · rw [Function.update_of_ne same]
    split
    · next held => exact (same (own other held)).elim
    · rfl

end KubectlSshuttle.Lib
