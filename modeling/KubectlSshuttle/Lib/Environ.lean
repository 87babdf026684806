import Mathlib.Algebra.Ring.Int.Defs
import KubectlSshuttle.Lib.RustText

/-!
# The environment of a process

An environment is a list of entries `KEY=value`.  Where it mentions a key more
than once, the first mention counts; so what is appended to an environment
gives a value only to the keys that it did not mention before.

The numbers in it are written and read as `int`s.
-/

namespace KubectlSshuttle.Lib.Environ

open KubectlSshuttle.Lib.RustText

/-! ## Variables -/

/-- The value that an entry gives to a key. -/
def valueFor (key entry : Text) : Option Text :=
  match splitOnce '=' entry with
  | some (name, value) => if name = key then some value else none
  | none => none

/-- The value of a key, if it is mentioned. -/
def lookup (environ : List Text) (key : Text) : Option Text :=
  environ.findSome? (valueFor key)

/-- `os.Getenv` -/
def getenv (environ : List Text) (key : Text) : Text :=
  (lookup environ key).getD []

/-- The entry that sets a variable. -/
def entry (key value : Text) : Text :=
  key ++ '=' :: value

section Variables

variable {key : Text}

theorem lookup_append (front back : List Text) (key : Text) :
    lookup (front ++ back) key =
      (lookup front key).or (lookup back key) := by
  rw [lookup, List.findSome?_append]
  rfl

theorem valueFor_entry (named : '=' ∉ key) (other value : Text) :
    valueFor other (entry key value) =
      if key = other then some value else none := by
  rw [valueFor, entry, splitOnce_append named]

theorem lookup_entry_cons (named : '=' ∉ key) (other value : Text)
    (rest : List Text) :
    lookup (entry key value :: rest) other =
      if key = other then some value else lookup rest other := by
  rw [lookup, List.findSome?_cons, valueFor_entry named]
  by_cases same : key = other
  · rw [if_pos same, if_pos same]
  · rw [if_neg same, if_neg same]
    rfl

end Variables

/-! ## Numbers -/

/-- `int` has 64 bits. -/
def maxInt : Int := 2 ^ 63 - 1

/-- The least 64-bit integer. -/
def minInt : Int := -2 ^ 63

/-- The value of an `int`. -/
def IsInt (number : Int) : Prop :=
  minInt ≤ number ∧ number ≤ maxInt

instance (number : Int) : Decidable (IsInt number) :=
  inferInstanceAs (Decidable (_ ∧ _))

/-- `strconv.Itoa`, and `%d` -/
def itoa : Int → Text
  | .ofNat number => decimal number
  | .negSucc number => '-' :: decimal (number + 1)

/-- The nearest `int`. -/
def clampInt (number : Int) : Int :=
  max minInt (min maxInt number)

/-- What `strconv.ParseUint` makes of a text. -/
inductive Unsigned where
  | value (number : Nat)
  /-- `ErrSyntax` -/
  | malformed
  /-- `ErrRange` -/
  | tooLarge
deriving DecidableEq, Repr

/--
The loop of `strconv.ParseUint` for 64 bits, behind digits with the value
`read`.  It returns at the digit that is too many, whatever follows.
-/
def parseUint (read : Nat) : Text → Unsigned
  | [] => .value read
  | char :: rest =>
      if char.isDigit then
        let next := 10 * read + (char.toNat - '0'.toNat)
        if next < 2 ^ 64 then parseUint next rest else .tooLarge
      else .malformed

/-- `strconv.ParseInt` behind the sign, without its error. -/
def parseInt (negative : Bool) (digits : Text) : Int :=
  if digits = [] then 0
  else
    match parseUint 0 digits with
    | .value number => clampInt (if negative then -number else number)
    | .malformed => 0
    | .tooLarge => if negative then minInt else maxInt

/--
`strconv.Atoi`, without its error: what is no number reads as 0, and a number
out of range as the nearest in range.
-/
def atoi : Text → Int
  | '-' :: digits => parseInt true digits
  | '+' :: digits => parseInt false digits
  | digits => parseInt false digits

-- 2 ^ 64 is passed at the twentieth digit, in front of the letter
example : atoi "99999999999999999999x".toList = maxInt := by decide

theorem clampInt_of_isInt {number : Int} (isInt : IsInt number) :
    clampInt number = number := by
  rcases isInt with ⟨low, high⟩
  simp only [clampInt]
  omega

theorem le_ofDigitChars (digits : Text) (read : Nat) :
    read ≤ Nat.ofDigitChars 10 digits read := by
  induction digits generalizing read with
  | nil => exact Nat.le_refl _
  | cons char rest induction =>
      rw [Nat.ofDigitChars_cons]
      exact Nat.le_trans (by omega) (induction _)

/-- Digits that stay in range are read to their end. -/
theorem parseUint_of_digits {digits : Text} {read : Nat}
    (allDigits : ∀ char ∈ digits, char.isDigit = true)
    (small : Nat.ofDigitChars 10 digits read < 2 ^ 64) :
    parseUint read digits = .value (Nat.ofDigitChars 10 digits read) := by
  induction digits generalizing read with
  | nil => rfl
  | cons char rest induction =>
      rw [Nat.ofDigitChars_cons] at small ⊢
      have inRange := Nat.lt_of_le_of_lt (le_ofDigitChars rest _) small
      rw [parseUint, if_pos (allDigits char List.mem_cons_self),
        if_pos inRange]
      exact induction
        (fun other member => allDigits other (List.mem_cons_of_mem _ member))
        small

theorem parseInt_decimal (negative : Bool) {number : Nat}
    (small : number < 2 ^ 64) :
    parseInt negative (decimal number) =
      clampInt (if negative then -number else number) := by
  have value : Nat.ofDigitChars 10 (decimal number) 0 = number :=
    Nat.ofDigitChars_ten_toDigits
  have read := parseUint_of_digits
    (fun _ member => isDigit_of_mem_decimal member)
    (value.symm ▸ small : Nat.ofDigitChars 10 (decimal number) 0 < 2 ^ 64)
  rw [parseInt, if_neg (decimal_ne_nil number), read, value]

/-- An `int` that is written is read back. -/
theorem atoi_itoa {number : Int} (isInt : IsInt number) :
    atoi (itoa number) = number := by
  have bounds := isInt
  rw [IsInt, minInt, maxInt] at bounds
  cases number with
  | negSucc number =>
      rw [itoa, atoi, parseInt_decimal true (by omega), if_pos rfl]
      exact clampInt_of_isInt isInt
  | ofNat number =>
      rw [Int.ofNat_eq_natCast] at bounds
      rcases decimal_eq_cons number with ⟨first, rest, starts, digit⟩
      have unsigned : atoi (decimal number) =
          parseInt false (decimal number) := by
        rw [starts]
        unfold atoi
        split
        · next shape =>
            rw [(List.cons.inj shape).1] at digit
            exact absurd digit (by decide)
        · next shape =>
            rw [(List.cons.inj shape).1] at digit
            exact absurd digit (by decide)
        · rfl
      rw [itoa, unsigned, parseInt_decimal false (by omega),
        if_neg (by decide)]
      exact clampInt_of_isInt isInt

/-- `time.Duration(microseconds) * time.Microsecond`, in nanoseconds -/
def microseconds (number : Int) : Int :=
  (number * 1000).bmod (2 ^ 64)

end KubectlSshuttle.Lib.Environ
