import Mathlib.Data.Nat.Digits.Lemmas
import KubectlSshuttle.Lib.AddressParser

/-!
# Networks in CIDR notation

A network is an address and the number of its leading bits that count.  A text
is read as one either way: a single address stands for itself.
-/

namespace KubectlSshuttle.Lib.Address

open KubectlSshuttle.Lib.RustText

/-! ## Addresses as numbers -/

/-- The bits of an address of the family. -/
def IpAddr.width : IpAddr → Nat
  | .v4 _ => 32
  | .v6 _ => 128

/-- The address as a number. -/
def IpAddr.value : IpAddr → Nat
  | .v4 ip => Nat.ofDigits 256 [ip.d.toNat, ip.c.toNat, ip.b.toNat, ip.a.toNat]
  | .v6 ip => Nat.ofDigits 65536 (ip.segments.reverse.map UInt16.toNat)

/-- An address is known by its family and its number. -/
theorem IpAddr.eq_of_value {first second : IpAddr}
    (family : first.isIpv4 = second.isIpv4)
    (value : first.value = second.value) : first = second := by
  cases first with
  | v4 first =>
      cases second with
      | v6 second => cases family
      | v4 second =>
          simp only [IpAddr.value] at value
          have small (octet : UInt8) : octet.toNat < 256 := octet.toNat_lt
          have base : 1 < 256 := by decide
          have digits :
              [first.d.toNat, first.c.toNat, first.b.toNat, first.a.toNat] =
                [second.d.toNat, second.c.toNat, second.b.toNat,
                  second.a.toNat] := by
            apply Nat.ofDigits_inj_of_len_eq base (by rfl)
            · simp [small]
            · simp [small]
            · exact value
          simp only [List.cons.injEq, UInt8.toNat_inj, and_true] at digits
          rcases digits with ⟨d, c, b, a⟩
          rcases first with ⟨_, _, _, _⟩
          rcases second with ⟨_, _, _, _⟩
          dsimp only at d c b a
          rw [d, c, b, a]
  | v6 first =>
      cases second with
      | v4 second => cases family
      | v6 second =>
          have small (ip : Ipv6Addr) (digit : Nat)
              (member : digit ∈ ip.segments.reverse.map UInt16.toNat) :
              digit < 65536 := by
            rcases List.mem_map.mp member with ⟨segment, _, rfl⟩
            exact segment.toNat_lt
          have digits := Nat.ofDigits_inj_of_len_eq (by decide)
            (by simp [first.length_eq, second.length_eq])
            (small first) (small second) value
          have segments := List.map_injective_iff.mpr
            (fun _ _ => UInt16.toNat_inj.mp) digits
          rw [List.reverse_inj] at segments
          rcases first with ⟨_, _⟩
          rcases second with ⟨_, _⟩
          simpa using segments

/-! ## Networks -/

/-- An address and how many of its leading bits matter. -/
structure Network where
  address : IpAddr
  length : Nat
  length_le : length ≤ address.width
deriving DecidableEq

/-- The network of one address. -/
def Network.host (address : IpAddr) : Network where
  address := address
  length := address.width
  length_le := Nat.le_refl _

/-- The leading bits agree. -/
def Network.contains (network : Network) (address : IpAddr) : Bool :=
  let ignored := 2 ^ (network.address.width - network.length)
  network.address.isIpv4 == address.isIpv4 &&
    network.address.value / ignored == address.value / ignored

theorem Network.contains_host {address other : IpAddr} :
    (Network.host address).contains other = true ↔ other = address := by
  simp only [Network.contains, Network.host, Nat.sub_self, Nat.pow_zero,
    Nat.div_one, Bool.and_eq_true, beq_iff_eq]
  constructor
  · rintro ⟨family, value⟩
    exact (IpAddr.eq_of_value family value).symm
  · rintro rfl
    exact ⟨rfl, rfl⟩

/-! ## The notation -/

/-- Read an address, with or without a length behind it. -/
def parseNetwork (text : Text) : Option Network :=
  match splitOnce '/' text with
  | none => (parseIpAddr text).map Network.host
  | some (front, digits) =>
      match parseIpAddr front, parseDigits digits with
      | some address, some length =>
          if fits : length ≤ address.width then
            some ⟨address, length, fits⟩
          else none
      | _, _ => none

theorem slash_notMem_toText (address : Ipv4Addr) :
    '/' ∉ address.toText := by
  have digits (number : Nat) : '/' ∉ decimal number := fun member =>
    absurd (isDigit_of_mem_decimal member) (by decide)
  simp [Ipv4Addr.toText, digits]

theorem parseNetwork_v4 (address : Ipv4Addr) :
    parseNetwork address.toText = some (.host (.v4 address)) := by
  rw [parseNetwork, splitOnce_of_notMem (slash_notMem_toText address),
    parseIpAddr_v4]
  rfl

/-- A network with a colon is one of IPv6. -/
theorem isIpv4_of_parseNetwork {text : Text} {network : Network}
    (parsed : parseNetwork text = some network) :
    network.address.isIpv4 = true ↔ ':' ∉ text := by
  rw [parseNetwork] at parsed
  split at parsed
  · rcases Option.map_eq_some_iff.mp parsed with ⟨address, read, rfl⟩
    exact isIpv4_of_parseIpAddr read
  · next front digits cut =>
      split at parsed
      · next address length read number =>
          split_ifs at parsed
          rcases Option.some.inj parsed with rfl
          have noColon : ':' ∉ digits := by
            intro member
            exact absurd ((parseDigits_eq_some_iff.mp number).2.1 _ member)
              (by decide)
          rw [splitOnce_eq_some cut, isIpv4_of_parseIpAddr read]
          simp [noColon]
      · cases parsed

end KubectlSshuttle.Lib.Address
