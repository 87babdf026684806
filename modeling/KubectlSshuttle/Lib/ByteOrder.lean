import Mathlib.Data.Nat.Notation

/-!
# Numbers in memory

A machine reads a number from its bytes in its own order, and the network
sends the most significant byte first.  Swapping the bytes of what was read on
a little-endian machine therefore gives, on every machine, the number that the
network meant.
-/

namespace KubectlSshuttle.Lib.ByteOrder

/-- Which byte of a number comes first. -/
inductive Endian where
  | little
  | big
deriving DecidableEq, Repr

/-- The number whose least significant byte comes first. -/
def littleEndian : List UInt8 → Nat
  | [] => 0
  | byte :: rest => byte.toNat + 256 * littleEndian rest

/-- The number whose most significant byte comes first. -/
def bigEndian (bytes : List UInt8) : Nat :=
  littleEndian bytes.reverse

/-- The bytes of a number of this width, the least significant one first. -/
def bytesOf : Nat → Nat → List UInt8
  | 0, _ => []
  | width + 1, number => UInt8.ofNat number :: bytesOf width (number / 256)

/-- A load from memory. -/
def Endian.load : Endian → List UInt8 → Nat
  | .little => littleEndian
  | .big => bigEndian

/-- `from_be` of an unsigned integer of this many bytes. -/
def Endian.fromBe (order : Endian) (width number : Nat) : Nat :=
  match order with
  | .little => littleEndian (bytesOf width number).reverse
  | .big => number

theorem bytesOf_littleEndian (bytes : List UInt8) :
    bytesOf bytes.length (littleEndian bytes) = bytes := by
  induction bytes with
  | nil => rfl
  | cons byte rest induction =>
      have small := byte.toNat_lt
      have low : UInt8.ofNat (byte.toNat + 256 * littleEndian rest) =
          byte := by
        apply UInt8.toNat_inj.mp
        rw [UInt8.toNat_ofNat']
        omega
      have high : (byte.toNat + 256 * littleEndian rest) / 256 =
          littleEndian rest := by
        omega
      rw [List.length_cons, littleEndian, bytesOf, low, high, induction]

/-- What the network sent is read alike on every machine. -/
theorem Endian.fromBe_load (order : Endian) (bytes : List UInt8) :
    order.fromBe bytes.length (order.load bytes) = bigEndian bytes := by
  cases order with
  | little => rw [fromBe, load, bytesOf_littleEndian, bigEndian]
  | big => rfl

end KubectlSshuttle.Lib.ByteOrder
