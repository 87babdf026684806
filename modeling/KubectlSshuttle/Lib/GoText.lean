import KubectlSshuttle.Lib.RustText

/-!
# Searching from the end of a text

`strings.LastIndex` for a separator of one character, and where it cuts a
text.
-/

namespace KubectlSshuttle.Lib.GoText

open KubectlSshuttle.Lib.RustText

/-- `strings.LastIndex` for a single character; `none` stands for -1. -/
def lastIndex (separator : Char) : Text → Option Nat
  | [] => none
  | char :: rest =>
      match lastIndex separator rest with
      | some index => some (index + 1)
      | none => if char = separator then some 0 else none

theorem lastIndex_of_notMem {separator : Char} {text : Text}
    (absent : separator ∉ text) : lastIndex separator text = none := by
  induction text with
  | nil => rfl
  | cons char rest induction =>
      rw [List.mem_cons, not_or] at absent
      rw [lastIndex, induction absent.2]
      exact if_neg (Ne.symm absent.1)

/-- The last occurrence is the one that no other follows. -/
theorem lastIndex_append {separator : Char} {right : Text}
    (absent : separator ∉ right) (left : Text) :
    lastIndex separator (left ++ separator :: right) = some left.length := by
  induction left with
  | nil =>
      rw [List.nil_append, lastIndex, lastIndex_of_notMem absent]
      exact if_pos rfl
  | cons char rest induction =>
      rw [List.cons_append, lastIndex, induction]
      rfl

end KubectlSshuttle.Lib.GoText
