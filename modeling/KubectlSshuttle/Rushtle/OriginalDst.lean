import KubectlSshuttle.Lib.ByteOrder
import KubectlSshuttle.Rushtle.Dialing

/-!
# The destination of a redirected connection

The kernel writes the destination that a connection had before the redirect
into a `sockaddr_in` or `sockaddr_in6`, its port and address in the order of
the network.  From there it becomes text, the payload of a `TCP_CONNECT`, text
again on the server and at last the address that is connected to.
-/

namespace KubectlSshuttle.Rushtle.OriginalDst

open KubectlSshuttle.Lib.RustText
open KubectlSshuttle.Lib.Address
open KubectlSshuttle.Lib.ByteOrder
open KubectlSshuttle.Rushtle
open KubectlSshuttle.Rushtle.Ssnet
open KubectlSshuttle.Rushtle.Connection

/-! ## `original_dst` -/

/-- The bytes of a field of a structure. -/
def field (memory : Bytes) (offset width : Nat) : Bytes :=
  (memory.drop offset).take width

/-- `Ipv6Addr::from` of sixteen octets. -/
def ipv6OfOctets (octets : Bytes) : Ipv6Addr where
  segments := (List.range 8).map fun index =>
    fromBeBytes (octets.getD (2 * index) 0) (octets.getD (2 * index + 1) 0)
  length_eq := by simp

/-- The port of a `sockaddr`. -/
def portOf (order : Endian) (memory : Bytes) : UInt16 :=
  UInt16.ofNat (order.fromBe 2 (order.load (field memory 2 2)))

/-- The text of the address of a `sockaddr_in`. -/
def ipv4Text (order : Endian) (memory : Bytes) : Text :=
  let ip := order.fromBe 4 (order.load (field memory 4 4))
  decimal (ip / 2 ^ 24 % 256) ++ '.' :: decimal (ip / 2 ^ 16 % 256) ++
    '.' :: decimal (ip / 2 ^ 8 % 256) ++ '.' :: decimal (ip % 256)

/--
`original_dst` on Linux, by what `getsockopt` leaves in the `sockaddr_in6` or
`sockaddr_in`.
-/
def originalDstLinux (order : Endian) (isV6 : Bool)
    (getsockopt : Except Error Bytes) : Except Error (Text × UInt16) :=
  getsockopt.map fun memory =>
    if isV6 then
      ((ipv6OfOctets (field memory 8 16)).toText, portOf order memory)
    else (ipv4Text order memory, portOf order memory)

/-! ## What the kernel writes -/

/-- `struct sockaddr_in` -/
def sockaddrIn (family padding : Bytes) (address : Ipv4Addr)
    (port : UInt16) : Bytes :=
  family ++ toBeBytes port ++
    [address.a, address.b, address.c, address.d] ++ padding

/-- `struct sockaddr_in6` -/
def sockaddrIn6 (family flowInfo scopeId : Bytes) (address : Ipv6Addr)
    (port : UInt16) : Bytes :=
  family ++ toBeBytes port ++ flowInfo ++
    address.segments.flatMap toBeBytes ++ scopeId

/-- The address that the kernel wrote for a listener of the family. -/
inductive Written : Bool → Bytes → SocketAddr → Prop where
  | v4 {family padding : Bytes} (address : Ipv4Addr) (port : UInt16)
      (two : family.length = 2) :
      Written false (sockaddrIn family padding address port)
        ⟨.v4 address, port⟩
  | v6 {family flowInfo scopeId : Bytes} (address : Ipv6Addr)
      (port : UInt16) (two : family.length = 2)
      (four : flowInfo.length = 4) :
      Written true (sockaddrIn6 family flowInfo scopeId address port)
        ⟨.v6 address, port⟩

theorem bigEndian_toBeBytes (number : UInt16) :
    UInt16.ofNat (bigEndian (toBeBytes number)) = number := by
  have small := number.toNat_lt
  apply UInt16.toNat_inj.mp
  simp only [bigEndian, toBeBytes, List.reverse_cons, List.reverse_nil,
    List.nil_append, List.cons_append, littleEndian, UInt8.toNat_ofNat',
    UInt16.toNat_ofNat']
  omega

theorem field_append_right {front rest : Bytes} {offset width : Nat}
    (behind : front.length = offset) :
    field (front ++ rest) offset width = rest.take width := by
  rw [field, ← behind, List.drop_left]

/-- The segments of an address among its octets. -/
theorem fromBeBytes_octets (segments : List UInt16) {index : Nat}
    (bound : index < segments.length) :
    fromBeBytes ((segments.flatMap toBeBytes).getD (2 * index) 0)
        ((segments.flatMap toBeBytes).getD (2 * index + 1) 0) =
      segments[index] := by
  induction segments generalizing index with
  | nil => exact absurd bound (by simp)
  | cons segment rest induction =>
      cases index with
      | zero => exact fromBeBytes_toBeBytes segment
      | succ index => exact induction (by simpa using bound)

theorem length_octets (segments : List UInt16) :
    (segments.flatMap toBeBytes).length = 2 * segments.length := by
  induction segments with
  | nil => rfl
  | cons segment rest induction =>
      rw [List.flatMap_cons, List.length_append, induction, List.length_cons,
        length_toBeBytes]
      omega

theorem ipv6OfOctets_octets (address : Ipv6Addr) :
    ipv6OfOctets (address.segments.flatMap toBeBytes) = address := by
  rcases address with ⟨segments, eight⟩
  simp only [ipv6OfOctets, Ipv6Addr.mk.injEq]
  apply List.ext_getElem
  · simp [eight]
  · intro index bound within
    rw [List.getElem_map, List.getElem_range,
      fromBeBytes_octets segments within]

theorem portOf_eq (order : Endian) {family : Bytes}
    (two : family.length = 2) (port : UInt16) (rest : Bytes) :
    portOf order (family ++ (toBeBytes port ++ rest)) = port := by
  have bytes : field (family ++ (toBeBytes port ++ rest)) 2 2 =
      toBeBytes port := by
    rw [field_append_right two]
    rfl
  rw [portOf, bytes]
  exact (congrArg UInt16.ofNat (order.fromBe_load (toBeBytes port))).trans
    (bigEndian_toBeBytes port)

/-- The shifts take the octets of the address apart. -/
theorem ipv4Text_eq (order : Endian) {front : Bytes}
    (four : front.length = 4) (address : Ipv4Addr) (rest : Bytes) :
    ipv4Text order
        (front ++ [address.a, address.b, address.c, address.d] ++ rest) =
      address.toText := by
  have bytes : field
      (front ++ [address.a, address.b, address.c, address.d] ++ rest) 4 4 =
        [address.a, address.b, address.c, address.d] := by
    rw [List.append_assoc, field_append_right four]
    rfl
  have value : order.fromBe 4 (order.load
      [address.a, address.b, address.c, address.d]) =
        address.d.toNat + 256 * (address.c.toNat +
          256 * (address.b.toNat + 256 * address.a.toNat)) :=
    order.fromBe_load [address.a, address.b, address.c, address.d]
  have a := address.a.toNat_lt
  have b := address.b.toNat_lt
  have c := address.c.toNat_lt
  have d := address.d.toNat_lt
  rw [ipv4Text, bytes, value, Ipv4Addr.toText]
  have first : (address.d.toNat + 256 * (address.c.toNat +
      256 * (address.b.toNat + 256 * address.a.toNat))) / 2 ^ 24 % 256 =
        address.a.toNat := by omega
  have second : (address.d.toNat + 256 * (address.c.toNat +
      256 * (address.b.toNat + 256 * address.a.toNat))) / 2 ^ 16 % 256 =
        address.b.toNat := by omega
  have third : (address.d.toNat + 256 * (address.c.toNat +
      256 * (address.b.toNat + 256 * address.a.toNat))) / 2 ^ 8 % 256 =
        address.c.toNat := by omega
  have fourth : (address.d.toNat + 256 * (address.c.toNat +
      256 * (address.b.toNat + 256 * address.a.toNat))) % 256 =
        address.d.toNat := by omega
  rw [first, second, third, fourth]

section Written

variable {isV6 : Bool} {memory : Bytes} {address : SocketAddr}

/-- `original_dst` reads what the kernel wrote, on every machine. -/
theorem originalDstLinux_of_written (order : Endian)
    (written : Written isV6 memory address) :
    originalDstLinux order isV6 (.ok memory) = .ok (originalDst address) := by
  cases written with
  | @v4 family padding address port two =>
      have text := ipv4Text_eq order
        (by simp [two, toBeBytes] : (family ++ toBeBytes port).length = 4)
        address padding
      have number := portOf_eq order two port
        ([address.a, address.b, address.c, address.d] ++ padding)
      rw [← List.append_assoc, ← List.append_assoc] at number
      simp only [originalDstLinux, sockaddrIn, Except.map, Bool.false_eq_true,
        if_false, text, number, originalDst, IpAddr.toText]
  | @v6 family flowInfo scopeId address port two four =>
      have octets : field (sockaddrIn6 family flowInfo scopeId address port)
          8 16 = address.segments.flatMap toBeBytes := by
        rw [sockaddrIn6, List.append_assoc, field_append_right
          (by simp [two, four, toBeBytes])]
        exact List.take_left' (by rw [length_octets, address.length_eq])
      have number := portOf_eq order two port
        (flowInfo ++ (address.segments.flatMap toBeBytes ++ scopeId))
      rw [← List.append_assoc, ← List.append_assoc, ← List.append_assoc]
        at number
      simp only [originalDstLinux, octets, ipv6OfOctets_octets, Except.map,
        if_true, originalDst, IpAddr.toText]
      rw [sockaddrIn6, number]

/-- The text of an address tells its family. -/
theorem familyOf_toText (ip : IpAddr) :
    familyOf ip.toText = if ip.isIpv4 then afInet else afInet6 := by
  have colon := isIpv4_of_parseIpAddr (parseIpAddr_toText ip)
  rw [familyOf]
  by_cases family : ip.isIpv4 = true
  · rw [if_neg (colon.mp family), if_pos family]
  · rw [if_pos (not_not.mp fun absent => family (colon.mpr absent)),
      if_neg family]

/--
The destination of a redirected connection survives the kernel's layout in the
byte order of any machine, its text, the payload of `TCP_CONNECT` and the
server's reading of it: the server connects to that address, in its family.
-/
theorem dialed_of_written (order : Endian) (channel : UInt16)
    (written : Written isV6 memory address) :
    ∃ target connect,
      originalDstLinux order isV6 (.ok memory) = .ok target ∧
      parseConnect (connectFrame channel target).data = .ok connect ∧
      connect.family = some (if isV6 then afInet6 else afInet) ∧
      dialed (connect.host, connect.port) = some address := by
  refine ⟨originalDst address, _, originalDstLinux_of_written order written,
    parseConnect_encodeConnect _ (comma_notMem_originalDst address) _, ?_,
    dialed_originalDst address⟩
  refine congrArg some ((familyOf_toText address.ip).trans ?_)
  cases written <;> rfl

end Written

/-- `[::ffff:10.0.0.2]:53` on a little-endian machine, with a flow label. -/
theorem dialed_of_written_mapped :
    ∃ target connect,
      originalDstLinux .little true (.ok (sockaddrIn6 [10, 0] [1, 2, 3, 4]
        [0, 0, 0, 0]
          ⟨[0, 0, 0, 0, 0, 0xffff, 0x0a00, 2], rfl⟩ 53)) = .ok target ∧
      parseConnect (connectFrame 1 target).data = .ok connect ∧
      connect.family = some afInet6 ∧
      dialed (connect.host, connect.port) =
        some ⟨.v6 ⟨[0, 0, 0, 0, 0, 0xffff, 0x0a00, 2], rfl⟩, 53⟩ :=
  dialed_of_written .little 1 (.v6 _ _ rfl rfl)

end KubectlSshuttle.Rushtle.OriginalDst
