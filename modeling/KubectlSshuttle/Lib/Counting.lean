import Mathlib.Algebra.BigOperators.Group.List.Basic
import Mathlib.Algebra.Ring.Nat
import Mathlib.Data.List.Perm.Subperm

/-!
# Counting over lists of parts

A quantity of a system is often the sum over its parts, and a step replaces
one part.  The total then changes as the quantity of that part does.

One list draws on another when it uses every element at most as often as the
other has it.
-/

namespace KubectlSshuttle.Lib.Counting

universe u v

variable {Part : Type u} {Item : Type v}

/-- One element of a list is replaced. -/
theorem sum_map_set (price : Part → Nat) {parts : List Part}
    {place : Nat} {old : Part} (found : parts[place]? = some old)
    (new : Part) :
    ((parts.set place new).map price).sum + price old =
      (parts.map price).sum + price new := by
  induction parts generalizing place with
  | nil => cases found
  | cons first rest induction =>
      cases place with
      | zero =>
          rcases Option.some.inj found with rfl
          simp only [List.set_cons_zero, List.map_cons, List.sum_cons]
          omega
      | succ place =>
          have tail := @induction place (by simpa using found)
          simp only [List.set_cons_succ, List.map_cons, List.sum_cons]
          omega

/-- The items of the replaced part are exchanged for those of the new one. -/
theorem count_flatMap_set [BEq Item] (items : Part → List Item)
    {parts : List Part} {place : Nat} {old : Part}
    (found : parts[place]? = some old) (new : Part) (item : Item) :
    ((parts.set place new).flatMap items).count item +
        (items old).count item =
      (parts.flatMap items).count item + (items new).count item := by
  rw [List.count_flatMap, List.count_flatMap]
  exact sum_map_set (List.count item ∘ items) found new

/-- Counting what an action adds at the end. -/
theorem count_filterMap_toList [BEq Item] (read : Part → Option Item)
    (parts : List Part) (last : Option Part) (item : Item) :
    ((parts ++ last.toList).filterMap read).count item =
      (parts.filterMap read).count item +
        (last.bind read).toList.count item := by
  rw [List.filterMap_append, List.count_append]
  cases last with
  | none => rfl
  | some part => cases chosen : read part <;> simp [chosen]

/-- A bound on each part bounds the parts together. -/
theorem length_flatten_le {parts : List (List Item)} {room : Nat}
    (short : ∀ part ∈ parts, part.length ≤ room) :
    parts.flatten.length ≤ parts.length * room := by
  induction parts with
  | nil => simp
  | cons part rest induction =>
      have tail := induction fun other member =>
        short other (List.mem_cons_of_mem _ member)
      have head := short part List.mem_cons_self
      rw [List.flatten_cons, List.length_append, List.length_cons,
        Nat.succ_mul]
      omega

/-- What a list draws on is drawn on by its image as well. -/
theorem subperm_map {Image : Type*} {left right : List Item}
    (draws : left.Subperm right) (image : Item → Image) :
    (left.map image).Subperm (right.map image) := by
  rcases draws with ⟨drawn, perm, within⟩
  exact ⟨drawn.map image, perm.map image, within.map image⟩

end KubectlSshuttle.Lib.Counting
