import KubectlSshuttle.Lib.Address

/-!
# Reading addresses

`FromStr` of an address accepts `a.b.c.d` and the forms of IPv6, that of a
socket address `a.b.c.d:port` and `[v6]:port`.  A reader takes what it
recognizes off the front of a text; the whole text has to be used up.
-/

namespace KubectlSshuttle.Lib.Address

open KubectlSshuttle.Lib.RustText

/-- What was read, and what is left of the text. -/
abbrev Reader (Value : Type) := Text → Option (Value × Text)

/-! ## Numbers -/

/-- The value of a digit or letter. -/
def digitValue (char : Char) : Option Nat :=
  let code := char.toNat
  if 48 ≤ code ∧ code ≤ 57 then some (code - 48)
  else if 97 ≤ code ∧ code ≤ 122 then some (code - 87)
  else if 65 ≤ code ∧ code ≤ 90 then some (code - 55)
  else none

/-- `char::to_digit`. -/
def toDigit (radix : Nat) (char : Char) : Option Nat :=
  (digitValue char).filter (· < radix)

/-- As many digits as there are. -/
def readDigits (radix : Nat) : Text → List Nat × Text
  | [] => ([], [])
  | char :: rest =>
      match toDigit radix char with
      | some digit =>
          (digit :: (readDigits radix rest).1, (readDigits radix rest).2)
      | none => ([], char :: rest)

/-- The number that digits stand for. -/
def digitsValue (radix : Nat) (digits : List Nat) : Nat :=
  digits.foldl (fun number digit => number * radix + digit) 0

/-- `read_number`, for a type whose values lie below `bound`. -/
def readNumber (radix : Nat) (maxDigits : Option Nat)
    (allowZeroPrefix : Bool) (bound : Nat) : Reader Nat := fun text =>
  match readDigits radix text with
  | (digits, rest) =>
      if digits = [] ∨ maxDigits.any (· < digits.length) ∨
          (!allowZeroPrefix ∧ digits.head? = some 0 ∧ 1 < digits.length) then
        none
      else if digitsValue radix digits < bound then
        some (digitsValue radix digits, rest)
      else none

/-! ## Addresses -/

/-- `read_given_char`. -/
def readGivenChar (given : Char) : Text → Option Text
  | [] => none
  | char :: rest => if char = given then some rest else none

/-- `read_separator`: all values but the first follow a separator. -/
def readSeparator {Value : Type} (separator : Char) (index : Nat)
    (inner : Reader Value) : Reader Value := fun text =>
  if 0 < index then (readGivenChar separator text).bind inner
  else inner text

/-- One part of a dotted address: up to three digits, no leading zero. -/
def readOctet : Reader UInt8 := fun text =>
  (readNumber 10 (some 3) false 256 text).map fun (number, rest) =>
    (UInt8.ofNat number, rest)

/-- Four parts with dots between them. -/
def readIpv4Addr : Reader Ipv4Addr := fun text => do
  let (a, text) ← readSeparator '.' 0 readOctet text
  let (b, text) ← readSeparator '.' 1 readOctet text
  let (c, text) ← readSeparator '.' 2 readOctet text
  let (d, text) ← readSeparator '.' 3 readOctet text
  return (⟨a, b, c, d⟩, text)

/--
`read_groups`: the groups read, whether they end with an IPv4 address, and
what is left.  An IPv4 address stands for two groups.
-/
def readGroups : (limit index : Nat) → Text → List UInt16 × Bool × Text
  | 0, _, text => ([], false, text)
  | limit + 1, index, text =>
      match
        if 0 < limit then readSeparator ':' index readIpv4Addr text
        else none with
      | some (ipv4, rest) =>
          ([UInt16.ofNat (ipv4.a.toNat * 256 + ipv4.b.toNat),
            UInt16.ofNat (ipv4.c.toNat * 256 + ipv4.d.toNat)], true, rest)
      | none =>
          match readSeparator ':' index
            (readNumber 16 (some 4) true (2 ^ 16)) text with
          | some (group, rest) =>
              match readGroups limit (index + 1) rest with
              | (groups, endsV4, left) =>
                  (UInt16.ofNat group :: groups, endsV4, left)
          | none => ([], false, text)

/-- The address with the given segments, if they are eight. -/
def Ipv6Addr.ofSegments (segments : List UInt16) : Option Ipv6Addr :=
  if eight : segments.length = 8 then some ⟨segments, eight⟩ else none

/-- Eight groups, or fewer around a double colon. -/
def readIpv6Addr : Reader Ipv6Addr := fun text =>
  match readGroups 8 0 text with
  | (head, headV4, rest) =>
      if head.length = 8 then
        (Ipv6Addr.ofSegments head).map fun address => (address, rest)
      else if headV4 then none
      else do
        let rest ← readGivenChar ':' rest
        let rest ← readGivenChar ':' rest
        match readGroups (8 - (head.length + 1)) 0 rest with
        | (tail, _, rest) =>
            let zeroes := 8 - head.length - tail.length
            let address ← Ipv6Addr.ofSegments
              (head ++ List.replicate zeroes 0 ++ tail)
            return (address, rest)

/-- A colon and a decimal number. -/
def readPort : Reader UInt16 := fun text => do
  let text ← readGivenChar ':' text
  let (port, text) ← readNumber 10 none true (2 ^ 16) text
  return (UInt16.ofNat port, text)

/-- An IPv4 address with its port. -/
def readSocketAddrV4 : Reader SocketAddr := fun text => do
  let (ip, text) ← readIpv4Addr text
  let (port, text) ← readPort text
  return (⟨.v4 ip, port⟩, text)

/-- A bracketed IPv6 address with its port; scopes are left out. -/
def readSocketAddrV6 : Reader SocketAddr := fun text => do
  let text ← readGivenChar '[' text
  let (ip, text) ← readIpv6Addr text
  let text ← readGivenChar ']' text
  let (port, text) ← readPort text
  return (⟨.v6 ip, port⟩, text)

/-- `str::parse::<SocketAddr>`. -/
def parseSocketAddr (text : Text) : Option SocketAddr :=
  match (readSocketAddrV4 text).or (readSocketAddrV6 text) with
  | some (address, []) => some address
  | _ => none

/-- An address of either family, IPv4 first. -/
def readIpAddr : Reader IpAddr := fun text =>
  ((readIpv4Addr text).map fun (address, rest) =>
    (IpAddr.v4 address, rest)).or
    ((readIpv6Addr text).map fun (address, rest) => (IpAddr.v6 address, rest))

/-- `str::parse::<IpAddr>`. -/
def parseIpAddr (text : Text) : Option IpAddr :=
  match readIpAddr text with
  | some (address, []) => some address
  | _ => none

example : parseSocketAddr "[fd00::1]:53".toList =
    some ⟨.v6 ⟨[0xfd00, 0, 0, 0, 0, 0, 0, 1], rfl⟩, 53⟩ := by
  decide

/-! ## Numbers are read back -/

/-- The text does not go on with a digit. -/
def EndsNumber (radix : Nat) (text : Text) : Prop :=
  ∀ char ∈ text.head?, toDigit radix char = none

theorem EndsNumber.nil (radix : Nat) : EndsNumber radix [] := by
  simp [EndsNumber]

theorem EndsNumber.cons {radix : Nat} {char : Char}
    (other : toDigit radix char = none) (rest : Text) :
    EndsNumber radix (char :: rest) := by
  simpa [EndsNumber] using other

theorem readDigits_of_endsNumber {radix : Nat} {text : Text}
    (ends : EndsNumber radix text) : readDigits radix text = ([], text) := by
  cases text with
  | nil => rfl
  | cons char rest => simp [readDigits, ends char rfl]

section Numbers

variable {radix : Nat}

theorem toDigit_digitChar {digit : Nat} (small : digit < radix)
    (bounded : radix ≤ 16) :
    toDigit radix (Nat.digitChar digit) = some digit := by
  have codes : ∀ digit < 16, digitValue (Nat.digitChar digit) =
      some digit := by decide
  simp [toDigit, codes digit (by omega), small]

/-- The digits of a number, most significant first. -/
theorem readDigits_toDigits (wide : 1 < radix) (bounded : radix ≤ 16)
    (number : Nat) :
    ∃ digits, digits ≠ [] ∧ digits.length = (Nat.toDigits radix number).length ∧
      digitsValue radix digits = number ∧
      (digits.head? = some 0 → number = 0) ∧
      ∀ rest, readDigits radix (Nat.toDigits radix number ++ rest) =
        (digits ++ (readDigits radix rest).1, (readDigits radix rest).2) := by
  induction number using Nat.strong_induction_on with
  | _ number induction =>
      rcases Nat.lt_or_ge number radix with small | large
      · refine ⟨[number], by simp, ?_, by simp [digitsValue], by simp, ?_⟩
        · simp [Nat.toDigits_of_lt_base small]
        · intro rest
          simp [Nat.toDigits_of_lt_base small, readDigits,
            toDigit_digitChar small bounded]
      · have smaller : number / radix < number :=
          Nat.div_lt_self (by omega) wide
        have low : number % radix < radix := Nat.mod_lt _ (by omega)
        rcases induction _ smaller with
          ⟨digits, nonempty, size, value, leading, read⟩
        refine ⟨digits ++ [number % radix], by simp, ?_, ?_, ?_, ?_⟩
        · simp [Nat.toDigits_of_base_le wide large, size]
        · rw [digitsValue, List.foldl_append, ← digitsValue, value]
          simp only [List.foldl_cons, List.foldl_nil]
          exact Nat.div_add_mod' number radix
        · intro zero
          rw [List.head?_append_of_ne_nil _ nonempty] at zero
          have none := leading zero
          have := (Nat.div_eq_zero_iff.mp none).resolve_left (by omega)
          omega
        · intro rest
          rw [Nat.toDigits_of_base_le wide large, List.append_assoc, read]
          simp [readDigits, toDigit_digitChar low bounded]

/-- A number of the allowed length and size is read back. -/
theorem readNumber_toDigits (wide : 1 < radix) (bounded : radix ≤ 16)
    {maxDigits : Option Nat} {allowZeroPrefix : Bool} {bound number : Nat}
    (short : ∀ most ∈ maxDigits,
      (Nat.toDigits radix number).length ≤ most)
    (small : number < bound) {rest : Text}
    (ends : EndsNumber radix rest) :
    readNumber radix maxDigits allowZeroPrefix bound
      (Nat.toDigits radix number ++ rest) = some (number, rest) := by
  rcases readDigits_toDigits wide bounded number with
    ⟨digits, nonempty, size, value, leading, read⟩
  have accepted : ¬ (digits = [] ∨ maxDigits.any (· < digits.length) ∨
      (!allowZeroPrefix ∧ digits.head? = some 0 ∧ 1 < digits.length)) := by
    rintro (empty | long | ⟨_, zero, long⟩)
    · exact nonempty empty
    · rcases (Option.any_eq_true _ _).mp long with ⟨most, given, more⟩
      have := short most given
      have := of_decide_eq_true more
      omega
    · have none := leading zero
      subst none
      simp [size] at long
  rw [readNumber, read, readDigits_of_endsNumber ends]
  simp only [List.append_nil]
  rw [if_neg accepted, value, if_pos small]

end Numbers

/-! ## IPv4 addresses are read back -/

theorem readOctet_decimal (octet : UInt8) {rest : Text}
    (ends : EndsNumber 10 rest) :
    readOctet (decimal octet.toNat ++ rest) = some (octet, rest) := by
  have read : readNumber 10 (some 3) false 256
      (Nat.toDigits 10 octet.toNat ++ rest) = some (octet.toNat, rest) :=
    readNumber_toDigits (by decide) (by decide)
      (by simpa [decimal] using length_decimal_octet octet)
      octet.toNat_lt ends
  have same : decimal octet.toNat = Nat.toDigits 10 octet.toNat := rfl
  rw [readOctet, same, read]
  simp

theorem readIpv4Addr_toText (address : Ipv4Addr) {rest : Text}
    (ends : EndsNumber 10 rest) :
    readIpv4Addr (address.toText ++ rest) = some (address, rest) := by
  have dot (after : Text) : EndsNumber 10 ('.' :: after) :=
    .cons (by decide) after
  simp [readIpv4Addr, Ipv4Addr.toText, readSeparator, readGivenChar,
    readOctet_decimal _ (dot _), readOctet_decimal _ ends]

theorem readPort_decimal (port : UInt16) :
    readPort (':' :: decimal port.toNat) = some (port, []) := by
  have read : readNumber 10 none true 65536
      (Nat.toDigits 10 port.toNat ++ []) = some (port.toNat, []) :=
    readNumber_toDigits (by decide) (by decide) (by simp) port.toNat_lt
      (EndsNumber.nil 10)
  rw [List.append_nil] at read
  have same : decimal port.toNat = Nat.toDigits 10 port.toNat := rfl
  simp [readPort, readGivenChar, same, read]

/-- An IPv4 address and a port joined by a colon are read back. -/
theorem parseSocketAddr_v4 (address : Ipv4Addr) (port : UInt16) :
    parseSocketAddr (address.toText ++ ':' :: decimal port.toNat) =
      some ⟨.v4 address, port⟩ := by
  have ends : EndsNumber 10 (':' :: decimal port.toNat) :=
    .cons (by decide) (decimal port.toNat)
  have read := readIpv4Addr_toText address ends
  simp [parseSocketAddr, readSocketAddrV4, read, readPort_decimal]

/-- An IPv4 address is read back. -/
theorem parseIpAddr_v4 (address : Ipv4Addr) :
    parseIpAddr address.toText = some (.v4 address) := by
  have read := readIpv4Addr_toText address (EndsNumber.nil 10)
  rw [List.append_nil] at read
  simp [parseIpAddr, readIpAddr, read]

theorem Ipv4Addr.toText_injective : Function.Injective Ipv4Addr.toText := by
  intro first second same
  have read := parseIpAddr_v4 first
  rw [same, parseIpAddr_v4] at read
  exact (IpAddr.v4.inj (Option.some.inj read)).symm

/-! ## Characters that are read -/

/-- What is read of a number is a front part made of digits. -/
theorem readDigits_split (radix : Nat) (text : Text) :
    ∃ front, text = front ++ (readDigits radix text).2 ∧
      ∀ char ∈ front, toDigit radix char ≠ none := by
  induction text with
  | nil => exact ⟨[], rfl, by simp⟩
  | cons char rest induction =>
      cases digit : toDigit radix char with
      | none => exact ⟨[], by simp [readDigits, digit], by simp⟩
      | some value =>
          rcases induction with ⟨front, whole, digits⟩
          refine ⟨char :: front, ?_, ?_⟩
          · simpa [readDigits, digit] using whole
          · simpa [digit] using digits

section TakesOff

variable {allowed : Char → Prop}

/-- What is left of a text behind a front part of allowed characters. -/
def TakesOff (allowed : Char → Prop) (text rest : Text) : Prop :=
  ∃ front, text = front ++ rest ∧ ∀ char ∈ front, allowed char

theorem TakesOff.refl (text : Text) : TakesOff allowed text text :=
  ⟨[], rfl, by simp⟩

theorem TakesOff.trans {text middle rest : Text}
    (first : TakesOff allowed text middle)
    (second : TakesOff allowed middle rest) : TakesOff allowed text rest := by
  rcases first with ⟨left, rfl, leftAllowed⟩
  rcases second with ⟨right, rfl, rightAllowed⟩
  refine ⟨left ++ right, by simp, ?_⟩
  intro char member
  exact (List.mem_append.mp member).elim (leftAllowed char)
    (rightAllowed char)

/-- The reader takes off allowed characters only. -/
def Consumes {Value : Type} (allowed : Char → Prop)
    (reader : Reader Value) : Prop :=
  ∀ text value rest, reader text = some (value, rest) →
    TakesOff allowed text rest

theorem takesOff_readGivenChar {given : Char} (allows : allowed given)
    {text rest : Text} (read : readGivenChar given text = some rest) :
    TakesOff allowed text rest := by
  cases text with
  | nil => cases read
  | cons char others =>
      simp only [readGivenChar, Option.ite_none_right_eq_some,
        Option.some.injEq] at read
      rcases read with ⟨rfl, rfl⟩
      exact ⟨[char], rfl, by simpa using allows⟩

theorem Consumes.separated {Value : Type} {separator : Char}
    {inner : Reader Value} (allows : allowed separator)
    (consumes : Consumes allowed inner) (index : Nat) :
    Consumes allowed (readSeparator separator index inner) := by
  intro text value rest read
  rw [readSeparator] at read
  split at read
  · rcases Option.bind_eq_some_iff.mp read with ⟨after, given, back⟩
    exact (takesOff_readGivenChar allows given).trans
      (consumes _ _ _ back)
  · exact consumes _ _ _ read

variable (digits : ∀ radix char, toDigit radix char ≠ none → allowed char)

include digits

theorem consumes_readNumber (radix : Nat) (maxDigits : Option Nat)
    (allowZeroPrefix : Bool) (bound : Nat) :
    Consumes allowed (readNumber radix maxDigits allowZeroPrefix bound) := by
  intro text value rest read
  rcases readDigits_split radix text with ⟨front, whole, inFront⟩
  simp only [readNumber] at read
  split_ifs at read
  rcases Prod.mk.inj (Option.some.inj read) with ⟨_, rfl⟩
  exact ⟨front, whole, fun char member =>
    digits radix char (inFront char member)⟩

theorem consumes_readOctet : Consumes allowed readOctet := by
  intro text value rest read
  rcases Option.map_eq_some_iff.mp read with ⟨⟨number, left⟩, front, pair⟩
  rw [← (Prod.mk.inj pair).2]
  exact consumes_readNumber digits _ _ _ _ _ _ _ front

variable (dot : allowed '.')

include dot

theorem consumes_readIpv4Addr : Consumes allowed readIpv4Addr := by
  intro text value rest read
  have part := (consumes_readOctet digits).separated dot
  rcases Option.bind_eq_some_iff.mp read with ⟨⟨a, afterA⟩, first, read⟩
  rcases Option.bind_eq_some_iff.mp read with ⟨⟨b, afterB⟩, second, read⟩
  rcases Option.bind_eq_some_iff.mp read with ⟨⟨c, afterC⟩, third, read⟩
  rcases Option.bind_eq_some_iff.mp read with ⟨⟨d, afterD⟩, fourth, pair⟩
  rw [← (Prod.mk.inj (Option.some.inj pair)).2]
  exact (part 0 _ _ _ first).trans ((part 1 _ _ _ second).trans
    ((part 2 _ _ _ third).trans (part 3 _ _ _ fourth)))

variable (colon : allowed ':')

include colon

theorem takesOff_readGroups (limit index : Nat) (text : Text) :
    TakesOff allowed text (readGroups limit index text).2.2 := by
  induction limit generalizing index text with
  | zero => exact .refl text
  | succ limit induction =>
      have ipv4 := (consumes_readIpv4Addr digits dot).separated colon index
      have group := (consumes_readNumber digits 16 (some 4) true
        (2 ^ 16)).separated colon index
      rw [readGroups]
      split
      · next address rest read =>
          simp only [Option.ite_none_right_eq_some] at read
          exact ipv4 _ _ _ read.2
      · split
        · next value rest read =>
            exact (group _ _ _ read).trans (induction (index + 1) rest)
        · exact .refl text

theorem consumes_readIpv6Addr : Consumes allowed readIpv6Addr := by
  intro text value rest read
  have groups := takesOff_readGroups digits dot colon
  rw [readIpv6Addr] at read
  split at read
  next head headV4 left front =>
  have first := groups 8 0 text
  rw [front] at first
  split_ifs at read
  · rcases Option.map_eq_some_iff.mp read with ⟨address, _, pair⟩
    rw [← (Prod.mk.inj pair).2]
    exact first
  · rcases Option.bind_eq_some_iff.mp read with ⟨after, one, read⟩
    rcases Option.bind_eq_some_iff.mp read with ⟨behind, two, read⟩
    have second := groups (8 - (head.length + 1)) 0 behind
    split at read
    next tail tailV4 last back =>
    rw [back] at second
    rcases Option.bind_eq_some_iff.mp read with ⟨address, _, pair⟩
    rw [← (Prod.mk.inj (Option.some.inj pair)).2]
    exact first.trans ((takesOff_readGivenChar colon one).trans
      ((takesOff_readGivenChar colon two).trans second))

/-- An address literal consists of digits, dots and colons. -/
theorem forall_of_parseIpAddr {text : Text} {address : IpAddr}
    (parsed : parseIpAddr text = some address) :
    ∀ char ∈ text, allowed char := by
  rw [parseIpAddr] at parsed
  split at parsed
  · next found read =>
      have whole : TakesOff allowed text [] := by
        rcases Option.or_eq_some_iff.mp read with ipv4 | ⟨_, ipv6⟩
        · rcases Option.map_eq_some_iff.mp ipv4 with
            ⟨⟨value, left⟩, front, pair⟩
          rw [← (Prod.mk.inj pair).2]
          exact consumes_readIpv4Addr digits dot _ _ _ front
        · rcases Option.map_eq_some_iff.mp ipv6 with
            ⟨⟨value, left⟩, front, pair⟩
          rw [← (Prod.mk.inj pair).2]
          exact consumes_readIpv6Addr digits dot colon _ _ _ front
      rcases whole with ⟨front, rfl, frontAllowed⟩
      simpa using frontAllowed
  · cases parsed

end TakesOff

/-- An address literal contains no whitespace. -/
theorem ink_of_parseIpAddr {text : Text} {address : IpAddr}
    (parsed : parseIpAddr text = some address) :
    ∀ char ∈ text, isWhitespace char = false := by
  have digits : ∀ radix char, toDigit radix char ≠ none →
      isWhitespace char = false := by
    intro radix char digit
    have known : digitValue char ≠ none := by
      intro unknown
      exact digit (by simp [toDigit, unknown])
    simp only [digitValue] at known
    simp only [isWhitespace, Bool.or_eq_false_iff, Bool.and_eq_false_iff,
      decide_eq_false_iff_not, beq_eq_false_iff_ne]
    split_ifs at known
    · omega
    · omega
    · omega
    · exact (known rfl).elim
  exact forall_of_parseIpAddr digits (by decide) (by decide) parsed

/-! ## IPv6 addresses need their brackets -/

/-- An IPv4 address reaches its first dot before any colon. -/
theorem dot_of_readIpv4Addr {text rest : Text} {address : Ipv4Addr}
    (read : readIpv4Addr text = some (address, rest)) :
    ∃ front after, text = front ++ '.' :: after ∧ ':' ∉ front := by
  rcases readDigits_split 10 text with ⟨front, whole, digits⟩
  have noColon : ':' ∉ front := fun member =>
    digits ':' member (by decide)
  rw [readIpv4Addr] at read
  rcases Option.bind_eq_some_iff.mp read with ⟨⟨a, left⟩, first, read⟩
  rcases Option.bind_eq_some_iff.mp read with ⟨⟨b, later⟩, second, _⟩
  have behind : left = (readDigits 10 text).2 := by
    rcases Option.map_eq_some_iff.mp first with ⟨⟨number, last⟩, octet, same⟩
    simp only [readNumber] at octet
    split_ifs at octet
    rcases Prod.mk.inj (Option.some.inj octet) with ⟨_, rfl⟩
    exact (Prod.mk.inj same).2.symm
  rcases Option.bind_eq_some_iff.mp second with ⟨after, dot, _⟩
  cases left with
  | nil => cases dot
  | cons char more =>
      simp only [readGivenChar, Option.ite_none_right_eq_some] at dot
      rcases dot with ⟨rfl, _⟩
      exact ⟨front, more, behind ▸ whole, noColon⟩

/-- Without brackets, a colon before any dot is not accepted. -/
theorem parseSocketAddr_eq_none {front after : Text}
    (noDot : '.' ∉ front) (noBracket : '[' ∉ front) :
    parseSocketAddr (front ++ ':' :: after) = none := by
  have noV4 : readSocketAddrV4 (front ++ ':' :: after) = none := by
    cases read : readIpv4Addr (front ++ ':' :: after) with
    | none => simp [readSocketAddrV4, read]
    | some result =>
        rcases dot_of_readIpv4Addr read with ⟨digits, more, same, noColon⟩
        rcases List.append_eq_append_iff.mp same with
          ⟨middle, rfl, tail⟩ | ⟨middle, rfl, tail⟩
        · cases middle with
          | nil => simp at tail
          | cons char others =>
              rcases (List.cons.inj tail).1 with rfl
              simp at noColon
        · cases middle with
          | nil => simp at tail
          | cons char others =>
              rcases (List.cons.inj tail).1 with rfl
              simp at noDot
  have noV6 : readSocketAddrV6 (front ++ ':' :: after) = none := by
    cases front with
    | nil => simp [readSocketAddrV6, readGivenChar]
    | cons char rest =>
        have other : char ≠ '[' := fun same => noBracket (by simp [same])
        simp [readSocketAddrV6, readGivenChar, other]
  simp [parseSocketAddr, noV4, noV6]

/-! ## The colon tells the families apart -/

theorem mem_of_readGivenChar {given : Char} {text rest : Text}
    (read : readGivenChar given text = some rest) : given ∈ text := by
  cases text with
  | nil => cases read
  | cons char others =>
      simp only [readGivenChar, Option.ite_none_right_eq_some] at read
      rw [read.1]
      exact List.mem_cons_self

theorem mem_of_readSeparator {Value : Type} {separator : Char} {index : Nat}
    {inner : Reader Value} {text rest : Text} {value : Value}
    (later : 0 < index)
    (read : readSeparator separator index inner text = some (value, rest)) :
    separator ∈ text := by
  rw [readSeparator, if_pos later] at read
  rcases Option.bind_eq_some_iff.mp read with ⟨after, given, _⟩
  exact mem_of_readGivenChar given

/-- A group behind another has a colon in front of it. -/
theorem colon_of_readGroups {limit index : Nat} {text : Text}
    (later : 0 < index) (some_ : (readGroups limit index text).1 ≠ []) :
    ':' ∈ text := by
  cases limit with
  | zero => exact (some_ rfl).elim
  | succ limit =>
      rw [readGroups] at some_
      split at some_
      · next address rest read =>
          simp only [Option.ite_none_right_eq_some] at read
          exact mem_of_readSeparator later read.2
      · split at some_
        · next value rest read => exact mem_of_readSeparator later read
        · exact (some_ rfl).elim

theorem suffix_of_takesOff {text rest : Text} {allowed : Char → Prop}
    (takes : TakesOff allowed text rest) : rest <:+ text := by
  rcases takes with ⟨front, rfl, _⟩
  exact List.suffix_append front rest

/-- More groups than an IPv4 address makes take a colon. -/
theorem colon_of_three {limit index : Nat} {text : Text}
    (many : 2 < (readGroups limit index text).1.length) : ':' ∈ text := by
  cases limit with
  | zero => exact absurd many (by simp [readGroups])
  | succ limit =>
      rw [readGroups] at many
      split at many
      · exact absurd many (by simp)
      · split at many
        · next value rest read =>
            have more : (readGroups limit (index + 1) rest).1 ≠ [] := by
              intro none
              simp [none] at many
            have number : Consumes (fun _ => True)
                (readNumber 16 (some 4) true (2 ^ 16)) :=
              consumes_readNumber (fun _ _ _ => trivial) _ _ _ _
            have takes := number.separated trivial index text value rest read
            exact (suffix_of_takesOff takes).mem
              (colon_of_readGroups (Nat.succ_pos index) more)
        · exact absurd many (by simp)

theorem colon_of_readIpv6Addr {text rest : Text} {address : Ipv6Addr}
    (read : readIpv6Addr text = some (address, rest)) : ':' ∈ text := by
  have takes : TakesOff (fun _ => True) text (readGroups 8 0 text).2.2 :=
    takesOff_readGroups (fun _ _ _ => trivial) trivial trivial 8 0 text
  have three := @colon_of_three 8 0 text
  rw [readIpv6Addr] at read
  split at read
  next head headV4 left front =>
  rw [front] at takes three
  split_ifs at read with eight
  · exact three (by simp [eight])
  · rcases Option.bind_eq_some_iff.mp read with ⟨after, one, _⟩
    exact (suffix_of_takesOff takes).mem (mem_of_readGivenChar one)

theorem colon_notMem_of_readIpv4Addr {text : Text} {address : Ipv4Addr}
    (read : readIpv4Addr text = some (address, [])) : ':' ∉ text := by
  have digits : ∀ radix char, toDigit radix char ≠ none → char ≠ ':' := by
    rintro radix char digit rfl
    exact digit (by simp [toDigit, digitValue])
  rcases consumes_readIpv4Addr digits (by decide) _ _ _ read with
    ⟨front, rfl, allowed⟩
  intro member
  exact allowed ':' (by simpa using member) rfl

/-- A literal with a colon is one of IPv6. -/
theorem isIpv4_of_parseIpAddr {text : Text} {address : IpAddr}
    (parsed : parseIpAddr text = some address) :
    address.isIpv4 = true ↔ ':' ∉ text := by
  rw [parseIpAddr] at parsed
  split at parsed
  · next found read =>
      rcases Option.some.inj parsed with rfl
      rcases Option.or_eq_some_iff.mp read with ipv4 | ⟨_, ipv6⟩
      · rcases Option.map_eq_some_iff.mp ipv4 with
          ⟨⟨value, left⟩, front, pair⟩
        rcases Prod.mk.inj pair with ⟨rfl, rfl⟩
        exact iff_of_true rfl (colon_notMem_of_readIpv4Addr front)
      · rcases Option.map_eq_some_iff.mp ipv6 with
          ⟨⟨value, left⟩, front, pair⟩
        rcases Prod.mk.inj pair with ⟨rfl, _⟩
        exact iff_of_false Bool.false_ne_true
          (not_not.mpr (colon_of_readIpv6Addr front))
  · cases parsed

end KubectlSshuttle.Lib.Address
