import KubectlSshuttle.Lib.RustText

/-!
# Internet addresses and their text

The address types of the standard library with their `Display` text: four
decimal numbers for IPv4; eight hexadecimal groups for IPv6, with the first
longest run of at least two zero groups written `::` and an IPv4-mapped
address written with its IPv4 part.
-/

namespace KubectlSshuttle.Lib.Address

open KubectlSshuttle.Lib.RustText

/-- An IPv4 address, as its four octets. -/
structure Ipv4Addr where
  a : UInt8
  b : UInt8
  c : UInt8
  d : UInt8
deriving DecidableEq, Repr

/-- An IPv6 address, as its eight segments. -/
structure Ipv6Addr where
  segments : List UInt16
  length_eq : segments.length = 8
deriving DecidableEq, Repr

/-- An address of either family. -/
inductive IpAddr where
  | v4 (address : Ipv4Addr)
  | v6 (address : Ipv6Addr)
deriving DecidableEq, Repr

/-- `IpAddr::is_ipv4`. -/
def IpAddr.isIpv4 : IpAddr → Bool
  | .v4 _ => true
  | .v6 _ => false

/-- An address with a port. -/
structure SocketAddr where
  ip : IpAddr
  port : UInt16
deriving DecidableEq, Repr

/-! ## Display -/

/-- `Display` of an IPv4 address. -/
def Ipv4Addr.toText (address : Ipv4Addr) : Text :=
  decimal address.a.toNat ++ '.' :: decimal address.b.toNat ++
    '.' :: decimal address.c.toNat ++ '.' :: decimal address.d.toNat

/-- `to_ipv4_mapped`: the IPv4 part of an address `::ffff:a.b.c.d`. -/
def Ipv6Addr.toIpv4Mapped (address : Ipv6Addr) : Option Ipv4Addr :=
  match address.segments with
  | [0, 0, 0, 0, 0, 0xffff, high, low] =>
      some
        { a := UInt8.ofNat (high.toNat / 256)
          b := UInt8.ofNat high.toNat
          c := UInt8.ofNat (low.toNat / 256)
          d := UInt8.ofNat low.toNat }
  | _ => none

/-- A run of zero segments. -/
structure Span where
  start : Nat
  len : Nat

/-- The first longest run of zero segments, found in one pass. -/
def longestZeroes (index : Nat) (current longest : Span) :
    List UInt16 → Span
  | [] => longest
  | segment :: rest =>
      if segment = 0 then
        let grown : Span :=
          { start := if current.len = 0 then index else current.start
            len := current.len + 1 }
        longestZeroes (index + 1) grown
          (if longest.len < grown.len then grown else longest) rest
      else
        longestZeroes (index + 1) ⟨0, 0⟩ longest rest

/-- One segment in lower-case hexadecimal. -/
def hexadecimal (segment : UInt16) : Text :=
  Nat.toDigits 16 segment.toNat

/-- A colon-separated part of an IPv6 address. -/
def fmtSubslice : List UInt16 → Text
  | [] => []
  | [segment] => hexadecimal segment
  | segment :: rest => hexadecimal segment ++ ':' :: fmtSubslice rest

/-- `Display` of an IPv6 address. -/
def Ipv6Addr.toText (address : Ipv6Addr) : Text :=
  match address.toIpv4Mapped with
  | some ipv4 => "::ffff:".toList ++ ipv4.toText
  | none =>
      let zeroes := longestZeroes 0 ⟨0, 0⟩ ⟨0, 0⟩ address.segments
      if 1 < zeroes.len then
        fmtSubslice (address.segments.take zeroes.start) ++
          ':' :: ':' ::
            fmtSubslice
              (address.segments.drop (zeroes.start + zeroes.len))
      else
        fmtSubslice address.segments

/-- `IpAddr::to_string`. -/
def IpAddr.toText : IpAddr → Text
  | .v4 address => address.toText
  | .v6 address => address.toText

/-! ## Characters of the text -/

section Characters

variable {allowed : Char → Prop}

/-- What every digit of a base meets, every character of a number meets. -/
theorem forall_toDigits {base : Nat} (wide : 1 < base)
    (digits : ∀ digit < base, allowed (Nat.digitChar digit))
    (number : Nat) : ∀ char ∈ Nat.toDigits base number, allowed char := by
  induction number using Nat.strong_induction_on with
  | _ number induction =>
      intro char member
      rcases Nat.lt_or_ge number base with small | large
      · rw [Nat.toDigits_of_lt_base small, List.mem_singleton] at member
        exact member ▸ digits number small
      · rw [Nat.toDigits_of_base_le wide large, List.mem_append,
          List.mem_singleton] at member
        rcases member with earlier | rfl
        · exact induction (number / base)
            (Nat.div_lt_self (by omega) wide) char earlier
        · exact digits _ (Nat.mod_lt _ (by omega))

variable (hexadecimals : ∀ digit < 16, allowed (Nat.digitChar digit))
  (colon : allowed ':')

include hexadecimals

theorem forall_decimal (number : Nat) :
    ∀ char ∈ decimal number, allowed char :=
  forall_toDigits (by decide)
    (fun digit small => hexadecimals digit (by omega)) number

theorem Ipv4Addr.forall_toText (dot : allowed '.')
    (address : Ipv4Addr) : ∀ char ∈ address.toText, allowed char := by
  intro char member
  simp only [Ipv4Addr.toText, List.mem_append, List.mem_cons] at member
  rcases member with
    ((digit | rfl | digit) | rfl | digit) | rfl | digit
  · exact forall_decimal hexadecimals _ char digit
  · exact dot
  · exact forall_decimal hexadecimals _ char digit
  · exact dot
  · exact forall_decimal hexadecimals _ char digit
  · exact dot
  · exact forall_decimal hexadecimals _ char digit

include colon

theorem forall_fmtSubslice (segments : List UInt16) :
    ∀ char ∈ fmtSubslice segments, allowed char := by
  induction segments with
  | nil => simp [fmtSubslice]
  | cons segment rest induction =>
      have digits : ∀ char ∈ hexadecimal segment, allowed char :=
        forall_toDigits (by decide) hexadecimals segment.toNat
      cases rest with
      | nil => simpa [fmtSubslice] using digits
      | cons other others =>
          intro char member
          simp only [fmtSubslice, List.mem_append, List.mem_cons] at member
          rcases member with digit | rfl | later
          · exact digits char digit
          · exact colon
          · exact induction char later

/-- Without an IPv4 part the text has no dot. -/
theorem Ipv6Addr.forall_toText_of_not_mapped {address : Ipv6Addr}
    (unmapped : address.toIpv4Mapped = none) :
    ∀ char ∈ address.toText, allowed char := by
  intro char member
  simp only [Ipv6Addr.toText, unmapped] at member
  split at member
  · rw [List.mem_append, List.mem_cons, List.mem_cons] at member
    rcases member with front | rfl | rfl | back
    · exact forall_fmtSubslice hexadecimals colon _ char front
    · exact colon
    · exact colon
    · exact forall_fmtSubslice hexadecimals colon _ char back
  · exact forall_fmtSubslice hexadecimals colon _ char member

/-- An address text consists of hexadecimal digits, dots and colons. -/
theorem IpAddr.forall_toText (dot : allowed '.') (address : IpAddr) :
    ∀ char ∈ address.toText, allowed char := by
  cases address with
  | v4 address => exact address.forall_toText hexadecimals dot
  | v6 address =>
      cases mapped : address.toIpv4Mapped with
      | none =>
          exact address.forall_toText_of_not_mapped hexadecimals colon mapped
      | some ipv4 =>
          intro char member
          have letter : allowed 'f' := hexadecimals 15 (by decide)
          have front : ∀ char ∈ "::ffff:".toList, allowed char := by
            have letters : "::ffff:".toList =
                [':', ':', 'f', 'f', 'f', 'f', ':'] := by decide
            simp [letters, letter, colon]
          have whole : (IpAddr.v6 address).toText =
              "::ffff:".toList ++ ipv4.toText := by
            simp [IpAddr.toText, Ipv6Addr.toText, mapped]
          rw [whole, List.mem_append] at member
          exact member.elim (front char)
            (ipv4.forall_toText hexadecimals dot char)

end Characters

/-- No address text contains the separator of the wire payloads. -/
theorem IpAddr.comma_notMem_toText (address : IpAddr) :
    ',' ∉ address.toText := by
  intro member
  have noComma : ∀ char ∈ address.toText, char ≠ ',' :=
    address.forall_toText (by decide) (by decide) (by decide)
  exact noComma ',' member rfl

/-! ## Length of the text -/

theorem length_decimal_octet (octet : UInt8) :
    (decimal octet.toNat).length ≤ 3 :=
  length_decimal_le (by decide) (lt_trans octet.toNat_lt (by decide))

theorem Ipv4Addr.length_toText_le (address : Ipv4Addr) :
    address.toText.length ≤ 15 := by
  have first := length_decimal_octet address.a
  have second := length_decimal_octet address.b
  have third := length_decimal_octet address.c
  have fourth := length_decimal_octet address.d
  simp only [Ipv4Addr.toText, List.length_append, List.length_cons]
  omega

theorem length_hexadecimal_le (segment : UInt16) :
    (hexadecimal segment).length ≤ 4 :=
  (Nat.length_toDigits_le_iff (by decide) (by decide)).mpr
    (lt_of_lt_of_le segment.toNat_lt (by decide))

theorem length_fmtSubslice_le (segments : List UInt16) :
    (fmtSubslice segments).length ≤ 5 * segments.length := by
  induction segments with
  | nil => simp [fmtSubslice]
  | cons segment rest induction =>
      have size := length_hexadecimal_le segment
      cases rest with
      | nil =>
          simp only [fmtSubslice, List.length_cons, List.length_nil]
          omega
      | cons next others =>
          simp only [fmtSubslice, List.length_append,
            List.length_cons] at induction ⊢
          omega

/-- A generous bound: both parts around `::` lie within the eight segments. -/
theorem Ipv6Addr.length_toText_le (address : Ipv6Addr) :
    address.toText.length ≤ 82 := by
  have whole := length_fmtSubslice_le address.segments
  have eight := address.length_eq
  unfold Ipv6Addr.toText
  split
  · next ipv4 mapped =>
      have size := ipv4.length_toText_le
      have header : ("::ffff:".toList).length = 7 := by decide
      rw [List.length_append, header]
      omega
  · dsimp only
    split
    · have left := length_fmtSubslice_le
        (address.segments.take
          (longestZeroes 0 ⟨0, 0⟩ ⟨0, 0⟩ address.segments).start)
      have right := length_fmtSubslice_le
        (address.segments.drop
          ((longestZeroes 0 ⟨0, 0⟩ ⟨0, 0⟩ address.segments).start +
            (longestZeroes 0 ⟨0, 0⟩ ⟨0, 0⟩ address.segments).len))
      simp only [List.length_append, List.length_cons,
        List.length_take, List.length_drop] at left right ⊢
      omega
    · omega

theorem IpAddr.length_toText_le (address : IpAddr) :
    address.toText.length ≤ 82 := by
  cases address with
  | v4 address =>
      exact le_trans address.length_toText_le (by decide)
  | v6 address => exact address.length_toText_le

example : (IpAddr.v6 ⟨[0xfd00, 0, 0, 1, 0, 0, 0, 1], rfl⟩).toText =
    "fd00:0:0:1::1".toList := by
  decide

end KubectlSshuttle.Lib.Address
