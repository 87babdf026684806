import Mathlib.Logic.Function.Basic

/-!
# Boxes under keys

Boxes are numbered in the order of their opening.  What is posted under a key
lies from then on in the box opened under it last, unless the key has been
closed since; then it is thrown away.  This is what a map from keys to queues
is for, without the queues.
-/

namespace KubectlSshuttle.Lib

universe u v

/-- Boxes that are numbered as they are opened, and who holds a key. -/
structure PostOffice (Key : Type u) (Item : Type v) where
  owner : Key → Option Nat
  count : Nat
  box : Nat → List Item

/-- What happens at a post office. -/
inductive PostEvent (Key : Type u) (Item : Type v) where
  | opened (key : Key)
  | posted (key : Key) (item : Item)
  | closed (key : Key)

variable {Key : Type u} {Item : Type v}

/-- No box has been opened. -/
def PostOffice.empty : PostOffice Key Item where
  owner := fun _ => none
  count := 0
  box := fun _ => []

variable [DecidableEq Key]

/-- An item goes to the box that holds its key, if there is one. -/
def PostOffice.step (office : PostOffice Key Item) :
    PostEvent Key Item → PostOffice Key Item
  | .opened key =>
      { office with
        owner := Function.update office.owner key (some office.count)
        count := office.count + 1 }
  | .posted key item =>
      { office with
        box := fun number =>
          if office.owner key = some number then office.box number ++ [item]
          else office.box number }
  | .closed key =>
      { office with owner := Function.update office.owner key none }

/-- The boxes after a history of events. -/
def delivered (events : List (PostEvent Key Item)) : PostOffice Key Item :=
  events.foldl PostOffice.step .empty

theorem delivered_append (events : List (PostEvent Key Item))
    (event : PostEvent Key Item) :
    delivered (events ++ [event]) = (delivered events).step event := by
  simp [delivered]

end KubectlSshuttle.Lib
