import KubectlSshuttle.Lib.AddressParser

/-!
# Addresses are read back

`Display` shortens an IPv6 address: it leaves out the first longest run of
zero segments, and writes the end of a mapped address as an IPv4 address.
`FromStr` of the text is the address again.
-/

namespace KubectlSshuttle.Lib.Address

open KubectlSshuttle.Lib.RustText

/-! ## The run that is left out -/

/-- All segments of the span are zero. -/
def Span.Zeroes (span : Span) (segments : List UInt16) : Prop :=
  ∀ index, span.start ≤ index → index < span.start + span.len →
    segments[index]? = some 0

theorem Span.zeroes_empty (start : Nat) (segments : List UInt16) :
    (Span.mk start 0).Zeroes segments := by
  intro index low high
  exact absurd high (by simpa using low)

/-- A run grows by a zero at its end, or starts there. -/
theorem Span.Zeroes.grow {current : Span} {segments : List UInt16}
    {index : Nat} (zeroes : current.Zeroes segments)
    (running : current.len = 0 ∨ current.start + current.len = index)
    (zero : segments[index]? = some 0) :
    (Span.mk (if current.len = 0 then index else current.start)
      (current.len + 1)).Zeroes segments := by
  intro position low high
  dsimp only at low high
  rcases Nat.lt_or_ge position index with before | after
  · split at low
    · omega
    · exact zeroes position low (by omega)
  · have edge : position = index := by
      split at high <;> omega
    rwa [edge]

/-- The search returns a run of zeroes. -/
theorem zeroes_longestZeroes {segments rest : List UInt16} {index : Nat}
    {current longest : Span} (here : segments.drop index = rest)
    (running : current.len = 0 ∨ current.start + current.len = index)
    (growing : current.Zeroes segments) (found : longest.Zeroes segments) :
    (longestZeroes index current longest rest).Zeroes segments := by
  induction rest generalizing index current longest with
  | nil => exact found
  | cons segment rest induction =>
      have at_ : segments[index]? = some segment := by
        rw [← List.head?_drop, here]
        rfl
      have later : segments.drop (index + 1) = rest := by
        rw [← List.tail_drop, here]
        rfl
      rw [longestZeroes]
      by_cases zero : segment = 0
      · have grown := growing.grow running (zero ▸ at_)
        rw [if_pos zero]
        refine induction later (.inr ?_) grown ?_
        · dsimp only
          split <;> omega
        · by_cases longer : longest.len < current.len + 1
          · rw [if_pos longer]
            exact grown
          · rw [if_neg longer]
            exact found
      · rw [if_neg zero]
        exact induction later (.inl rfl) (Span.zeroes_empty 0 segments) found

/-- Writing zeroes for the span gives the segments again. -/
theorem Span.Zeroes.restore {span : Span} {segments : List UInt16}
    (zeroes : span.Zeroes segments) :
    segments.take span.start ++ List.replicate span.len 0 ++
        segments.drop (span.start + span.len) = segments := by
  have middle : (segments.drop span.start).take span.len =
      List.replicate span.len 0 := by
    apply List.ext_getElem?
    intro index
    rw [List.getElem?_take, List.getElem?_drop, List.getElem?_replicate]
    split
    · exact zeroes _ (by omega) (by omega)
    · rfl
  rw [← middle, List.append_assoc, ← List.drop_drop,
    List.take_append_drop, List.take_append_drop]

/-! ## Groups are read back -/

/-- What the groups stop at. -/
def EndsGroups (text : Text) : Prop :=
  text = [] ∨ ∃ rest, text = ':' :: ':' :: rest

/-- The groups behind the first. -/
def laterGroups (segments : List UInt16) : Text :=
  segments.flatMap fun segment => ':' :: hexadecimal segment

theorem fmtSubslice_cons (segment : UInt16) (rest : List UInt16) :
    fmtSubslice (segment :: rest) =
      hexadecimal segment ++ laterGroups rest := by
  induction rest generalizing segment with
  | nil => simp [fmtSubslice, laterGroups]
  | cons other others induction =>
      rw [fmtSubslice, induction]
      · simp [laterGroups]
      · simp

/-- An IPv4 address has dots. -/
theorem readIpv4Addr_eq_none {text : Text} (noDot : '.' ∉ text) :
    readIpv4Addr text = none := by
  cases read : readIpv4Addr text with
  | none => rfl
  | some result =>
      rcases dot_of_readIpv4Addr read with ⟨front, after, rfl, _⟩
      simp at noDot

theorem readSeparator_ipv4_eq_none {text : Text} (noDot : '.' ∉ text)
    (index : Nat) : readSeparator ':' index readIpv4Addr text = none := by
  rw [readSeparator]
  split
  · cases text with
    | nil => rfl
    | cons char rest =>
        rw [readGivenChar]
        split
        · exact readIpv4Addr_eq_none (by simp at noDot; exact noDot.2)
        · rfl
  · exact readIpv4Addr_eq_none noDot

theorem readNumber_hexadecimal (segment : UInt16) {rest : Text}
    (ends : EndsNumber 16 rest) :
    readNumber 16 (some 4) true (2 ^ 16) (hexadecimal segment ++ rest) =
      some (segment.toNat, rest) :=
  readNumber_toDigits (by decide) (by decide)
    (by simpa [hexadecimal] using length_hexadecimal_le segment)
    segment.toNat_lt ends

theorem EndsGroups.endsNumber {text : Text} (ends : EndsGroups text) :
    EndsNumber 16 text := by
  rcases ends with rfl | ⟨rest, rfl⟩
  · exact .nil 16
  · exact .cons (by decide) _

theorem endsNumber_laterGroups (segments : List UInt16) {rest : Text}
    (ends : EndsGroups rest) :
    EndsNumber 16 (laterGroups segments ++ rest) := by
  cases segments with
  | nil => exact ends.endsNumber
  | cons segment others => exact .cons (by decide) _

theorem readNumber_eq_none {radix bound : Nat} {maxDigits : Option Nat}
    {allowZeroPrefix : Bool} {text : Text} (ends : EndsNumber radix text) :
    readNumber radix maxDigits allowZeroPrefix bound text = none := by
  rw [readNumber, readDigits_of_endsNumber ends]
  simp

theorem readIpv4Addr_of_endsNumber {text : Text}
    (ends : EndsNumber 10 text) : readIpv4Addr text = none := by
  have octet : readOctet text = none := by
    rw [readOctet, readNumber_eq_none ends]
    rfl
  simp [readIpv4Addr, readSeparator, octet]

/-- A reader that needs a digit finds none where the groups end. -/
theorem readSeparator_of_endsGroups {Value : Type} {text : Text}
    (ends : EndsGroups text) {inner : Reader Value}
    (empty : inner [] = none) (colon : ∀ rest, inner (':' :: rest) = none)
    (index : Nat) : readSeparator ':' index inner text = none := by
  rw [readSeparator]
  rcases ends with rfl | ⟨rest, rfl⟩
  · split
    · rfl
    · exact empty
  · split
    · exact colon rest
    · exact colon _

/-- Where the groups end, none is read. -/
theorem readGroups_of_endsGroups {text : Text} (ends : EndsGroups text)
    (limit index : Nat) : readGroups limit index text = ([], false, text) := by
  cases limit with
  | zero => rfl
  | succ limit =>
      have address : readSeparator ':' index readIpv4Addr text = none :=
        readSeparator_of_endsGroups ends
          (readIpv4Addr_of_endsNumber (.nil 10))
          (fun rest => readIpv4Addr_of_endsNumber (.cons (by decide) rest))
          index
      have number : readSeparator ':' index
          (readNumber 16 (some 4) true (2 ^ 16)) text = none :=
        readSeparator_of_endsGroups ends (readNumber_eq_none (.nil 16))
          (fun rest => readNumber_eq_none (.cons (by decide) rest)) index
      rw [readGroups, address, ite_self, number]

theorem dot_notMem_hexadecimal (segment : UInt16) :
    '.' ∉ hexadecimal segment := by
  intro member
  exact @forall_toDigits (· ≠ '.') _ (by decide) (by decide)
    segment.toNat '.' member rfl

theorem dot_notMem_laterGroups (segments : List UInt16) :
    '.' ∉ laterGroups segments := by
  intro member
  rcases List.mem_flatMap.mp member with ⟨segment, _, inside⟩
  rcases List.mem_cons.mp inside with dot | digit
  · exact absurd dot (by decide)
  · exact dot_notMem_hexadecimal segment digit

/-- The groups behind the first are read back. -/
theorem readGroups_laterGroups {segments : List UInt16} {rest : Text}
    {limit : Nat} (few : segments.length ≤ limit) (ends : EndsGroups rest)
    (noDot : '.' ∉ rest) (index : Nat) :
    readGroups limit (index + 1) (laterGroups segments ++ rest) =
      (segments, false, rest) := by
  induction segments generalizing limit index with
  | nil => exact readGroups_of_endsGroups ends limit _
  | cons segment others induction =>
      cases limit with
      | zero => exact absurd few (by simp)
      | succ limit =>
          have plain : '.' ∉ laterGroups (segment :: others) ++ rest := by
            rw [List.mem_append, not_or]
            exact ⟨dot_notMem_laterGroups _, noDot⟩
          have number : readSeparator ':' (index + 1)
              (readNumber 16 (some 4) true (2 ^ 16))
              (laterGroups (segment :: others) ++ rest) =
                some (segment.toNat, laterGroups others ++ rest) := by
            rw [readSeparator, if_pos (Nat.succ_pos index)]
            show readNumber _ _ _ _ (_ ++ laterGroups others ++ rest) = _
            rw [List.append_assoc]
            exact readNumber_hexadecimal segment
              (endsNumber_laterGroups others ends)
          rw [readGroups, readSeparator_ipv4_eq_none plain, ite_self, number]
          dsimp only
          rw [induction (Nat.le_of_succ_le_succ few)]
          simp

/-- A part of the address is read back. -/
theorem readGroups_fmtSubslice {segments : List UInt16} {rest : Text}
    {limit : Nat} (few : segments.length ≤ limit) (ends : EndsGroups rest)
    (noDot : '.' ∉ rest) :
    readGroups limit 0 (fmtSubslice segments ++ rest) =
      (segments, false, rest) := by
  cases segments with
  | nil => exact readGroups_of_endsGroups ends limit 0
  | cons segment others =>
      cases limit with
      | zero => exact absurd few (by simp)
      | succ limit =>
          rw [fmtSubslice_cons, List.append_assoc]
          have plain :
              '.' ∉ hexadecimal segment ++ (laterGroups others ++ rest) := by
            simp only [List.mem_append, not_or]
            exact ⟨dot_notMem_hexadecimal _, dot_notMem_laterGroups _, noDot⟩
          have number : readSeparator ':' 0
              (readNumber 16 (some 4) true (2 ^ 16))
              (hexadecimal segment ++ (laterGroups others ++ rest)) =
                some (segment.toNat, laterGroups others ++ rest) :=
            readNumber_hexadecimal segment
              (endsNumber_laterGroups others ends)
          rw [readGroups, readSeparator_ipv4_eq_none plain, ite_self, number]
          dsimp only
          rw [readGroups_laterGroups (Nat.le_of_succ_le_succ few) ends noDot]
          simp

/-! ## Addresses are read back -/

theorem dot_notMem_fmtSubslice (segments : List UInt16) :
    '.' ∉ fmtSubslice segments := by
  intro member
  exact @forall_fmtSubslice (· ≠ '.') (by decide) (by decide)
    segments '.' member rfl

theorem ofSegments_segments (address : Ipv6Addr) :
    Ipv6Addr.ofSegments address.segments = some address :=
  dif_pos address.length_eq

/-- All segments. -/
theorem readIpv6Addr_long (address : Ipv6Addr) :
    readIpv6Addr (fmtSubslice address.segments) = some (address, []) := by
  have groups := @readGroups_fmtSubslice address.segments [] 8
    address.length_eq.le (.inl rfl)
    List.not_mem_nil
  rw [List.append_nil] at groups
  rw [readIpv6Addr, groups]
  simp [address.length_eq, ofSegments_segments]

/-- A span of zeroes lies within the segments. -/
theorem Span.Zeroes.end_le {span : Span} {segments : List UInt16}
    (zeroes : span.Zeroes segments) (some_ : 0 < span.len) :
    span.start + span.len ≤ segments.length := by
  have last := zeroes (span.start + span.len - 1) (by omega) (by omega)
  have := (List.getElem?_eq_some_iff.mp last).1
  omega

/-- The segments on both sides of a run of at least two zeroes. -/
theorem readIpv6Addr_short {address : Ipv6Addr} {span : Span}
    (zeroes : span.Zeroes address.segments) (long : 1 < span.len) :
    readIpv6Addr
        (fmtSubslice (address.segments.take span.start) ++ ':' :: ':' ::
          fmtSubslice (address.segments.drop (span.start + span.len))) =
      some (address, []) := by
  have within := zeroes.end_le (by omega)
  rw [address.length_eq] at within
  have front : (address.segments.take span.start).length = span.start := by
    rw [List.length_take, address.length_eq]
    omega
  have back : (address.segments.drop (span.start + span.len)).length =
      8 - (span.start + span.len) := by
    rw [List.length_drop, address.length_eq]
  have head := @readGroups_fmtSubslice
    (address.segments.take span.start)
    (':' :: ':' ::
      fmtSubslice (address.segments.drop (span.start + span.len)))
    8 (by omega) (.inr ⟨_, rfl⟩)
    (by simpa using dot_notMem_fmtSubslice _)
  have tail := @readGroups_fmtSubslice
    (address.segments.drop (span.start + span.len))
    [] (8 - (span.start + 1)) (by omega) (.inl rfl)
    List.not_mem_nil
  rw [List.append_nil] at tail
  have left : 8 - span.start - (8 - (span.start + span.len)) = span.len := by
    omega
  rw [readIpv6Addr, head]
  dsimp only
  rw [front, if_neg (by omega)]
  simp only [Bool.false_eq_true, if_false, readGivenChar, if_true,
    Option.bind_eq_bind, Option.bind_some, tail, back, left,
    zeroes.restore, ofSegments_segments]
  rfl

/-- Two octets make up a segment. -/
theorem segment_of_octets (segment : UInt16) :
    UInt16.ofNat ((UInt8.ofNat (segment.toNat / 256)).toNat * 256 +
      (UInt8.ofNat segment.toNat).toNat) = segment := by
  have small := segment.toNat_lt
  have high : (UInt8.ofNat (segment.toNat / 256)).toNat =
      segment.toNat / 256 := by
    rw [UInt8.toNat_ofNat']
    exact Nat.mod_eq_of_lt (by omega)
  have low : (UInt8.ofNat segment.toNat).toNat = segment.toNat % 256 := by
    rw [UInt8.toNat_ofNat']
  rw [high, low, Nat.div_add_mod' segment.toNat 256, UInt16.ofNat_toNat]

/-- The segments of a mapped address. -/
theorem segments_of_mapped {address : Ipv6Addr} {ipv4 : Ipv4Addr}
    (mapped : address.toIpv4Mapped = some ipv4) :
    address.segments = [0, 0, 0, 0, 0, 0xffff,
      UInt16.ofNat (ipv4.a.toNat * 256 + ipv4.b.toNat),
      UInt16.ofNat (ipv4.c.toNat * 256 + ipv4.d.toNat)] := by
  rw [Ipv6Addr.toIpv4Mapped] at mapped
  split at mapped
  · next high low shape =>
      rcases Option.some.inj mapped with rfl
      rw [shape, segment_of_octets, segment_of_octets]
  · cases mapped

/-- The end of a mapped address is read as an IPv4 address. -/
theorem readIpv6Addr_mapped {address : Ipv6Addr} {ipv4 : Ipv4Addr}
    (mapped : address.toIpv4Mapped = some ipv4) :
    readIpv6Addr ("::ffff:".toList ++ ipv4.toText) = some (address, []) := by
  have last : readGroups 6 1 (':' :: ipv4.toText) =
      ([UInt16.ofNat (ipv4.a.toNat * 256 + ipv4.b.toNat),
        UInt16.ofNat (ipv4.c.toNat * 256 + ipv4.d.toNat)], true, []) := by
    have read : readSeparator ':' 1 readIpv4Addr (':' :: ipv4.toText) =
        some (ipv4, []) := by
      have whole := readIpv4Addr_toText ipv4 (EndsNumber.nil 10)
      rwa [List.append_nil] at whole
    rw [readGroups, if_pos (by decide), read]
  have tail : readGroups 7 0 ("ffff".toList ++ ':' :: ipv4.toText) =
      ([0xffff, UInt16.ofNat (ipv4.a.toNat * 256 + ipv4.b.toNat),
        UInt16.ofNat (ipv4.c.toNat * 256 + ipv4.d.toNat)], true, []) := by
    have plain : readSeparator ':' 0 readIpv4Addr
        ("ffff".toList ++ ':' :: ipv4.toText) = none :=
      readIpv4Addr_of_endsNumber (.cons (by decide) _)
    have number : readSeparator ':' 0
        (readNumber 16 (some 4) true (2 ^ 16))
        ("ffff".toList ++ ':' :: ipv4.toText) =
          some (0xffff, ':' :: ipv4.toText) := by
      have digits : hexadecimal 0xffff = "ffff".toList := by decide
      rw [← digits]
      have ends : EndsNumber 16 (':' :: ipv4.toText) :=
        .cons (by decide) ipv4.toText
      exact readNumber_hexadecimal 0xffff ends
    rw [readGroups, plain, ite_self, number]
    dsimp only
    rw [last]
    rfl
  have head : readGroups 8 0 ("::ffff:".toList ++ ipv4.toText) =
      ([], false, ':' :: ':' :: ("ffff".toList ++ ':' :: ipv4.toText)) :=
    readGroups_of_endsGroups (.inr ⟨_, rfl⟩) 8 0
  have whole := ofSegments_segments address
  rw [segments_of_mapped mapped] at whole
  rw [readIpv6Addr, head]
  simp only [List.length_nil, Bool.false_eq_true, if_false, readGivenChar,
    if_true, Option.bind_eq_bind, Option.bind_some]
  rw [tail]
  exact congrArg (Option.bind · fun address => some (address, [])) whole

theorem readIpv6Addr_toText (address : Ipv6Addr) :
    readIpv6Addr address.toText = some (address, []) := by
  rw [Ipv6Addr.toText]
  split
  · next ipv4 mapped => exact readIpv6Addr_mapped mapped
  · dsimp only
    split
    · next long =>
        have zeroes := @zeroes_longestZeroes address.segments _ 0 _ _ rfl (.inl rfl) (Span.zeroes_empty 0 _)
          (Span.zeroes_empty 0 _)
        exact readIpv6Addr_short zeroes long
    · exact readIpv6Addr_long address

/-- No IPv6 address reads as one of IPv4. -/
theorem readIpv4Addr_ipv6_toText (address : Ipv6Addr) :
    readIpv4Addr address.toText = none := by
  cases mapped : address.toIpv4Mapped with
  | none =>
      apply readIpv4Addr_eq_none
      intro member
      exact @Ipv6Addr.forall_toText_of_not_mapped (· ≠ '.')
        (by decide) (by decide) _ mapped '.' member rfl
  | some ipv4 =>
      have text : address.toText = "::ffff:".toList ++ ipv4.toText := by
        simp only [Ipv6Addr.toText, mapped]
      rw [text]
      exact readIpv4Addr_of_endsNumber (.cons (by decide) _)

/-- The text of an address is parsed as the address. -/
theorem parseIpAddr_toText (address : IpAddr) :
    parseIpAddr address.toText = some address := by
  cases address with
  | v4 address => exact parseIpAddr_v4 address
  | v6 address =>
      rw [IpAddr.toText, parseIpAddr, readIpAddr,
        readIpv4Addr_ipv6_toText, readIpv6Addr_toText]
      rfl

end KubectlSshuttle.Lib.Address
