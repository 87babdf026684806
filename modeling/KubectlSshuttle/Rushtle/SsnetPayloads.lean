import KubectlSshuttle.Rushtle.Ssnet

/-!
# The textual payloads

What `parse_connect` makes of the output of `encode_connect`, and how long
the payloads can get.
-/

namespace KubectlSshuttle.Rushtle.Ssnet

open KubectlSshuttle.Lib.RustText

/-! ## `TCP_CONNECT` -/

/-- The text of a `TCP_CONNECT` payload. -/
def connectText (family : UInt16) (host : Text) (port : UInt16) : Text :=
  decimal family.toNat ++ ',' :: host ++ ',' :: decimal port.toNat

theorem encodeConnect_eq (family : UInt16) (host : Text) (port : UInt16) :
    encodeConnect family host port = utf8 (connectText family host port) :=
  rfl

/-- Whitespace and digits are not taken for NUL bytes. -/
theorem trimEndMatches_nul_concat (initial : Text) {last : Char}
    (kind : isWhitespace last = true ∨ last.isDigit = true) :
    trimEndMatches (fun char => char.toNat = 0) (initial ++ [last]) =
      initial ++ [last] := by
  refine List.rdropWhile_concat_neg _ _ _ ?_
  rw [decide_eq_true_eq]
  intro nul
  have zero : last = '\x00' := Char.toNat_inj.mp nul
  subst zero
  revert kind
  decide

/-- A text without whitespace in front and a digit at its end is kept. -/
theorem trim_trimEndMatches_nul {text rest initial : Text}
    {first last : Char} (starts : text = first :: rest)
    (ends : text = initial ++ [last]) (ink : isWhitespace first = false)
    (digit : last.isDigit = true) :
    trim (trimEndMatches (fun char => char.toNat = 0) text) = text := by
  have kept : trimEndMatches (fun char => char.toNat = 0) text = text := by
    rw [ends]
    exact trimEndMatches_nul_concat initial (.inr digit)
  rw [kept]
  exact trim_eq_self starts ends ink (isWhitespace_of_isDigit digit)

/-- A text that begins and ends with a digit survives the trimming. -/
theorem trim_connectText (family : UInt16) (host : Text) (port : UInt16) :
    trim (trimEndMatches (fun char => char.toNat = 0)
      (connectText family host port)) = connectText family host port := by
  rcases decimal_eq_cons family.toNat with ⟨first, rest, front, firstDigit⟩
  rcases decimal_eq_concat port.toNat with ⟨initial, last, back, lastDigit⟩
  have starts : connectText family host port =
      first :: (rest ++ ',' :: host ++ ',' :: decimal port.toNat) := by
    simp [connectText, front]
  have ends : connectText family host port =
      (decimal family.toNat ++ ',' :: host ++ ',' :: initial) ++ [last] := by
    simp [connectText, back]
  exact trim_trimEndMatches_nul starts ends
    (isWhitespace_of_isDigit firstDigit) lastDigit

/-- A host without a comma is read back, with its family and port. -/
theorem parseConnect_encodeConnect (family : UInt16) {host : Text}
    (noComma : ',' ∉ host) (port : UInt16) :
    parseConnect (encodeConnect family host port) =
      .ok ⟨some family, host, port⟩ := by
  have shape : connectText family host port =
      decimal family.toNat ++ ',' :: (host ++ ',' :: decimal port.toNat) := by
    simp [connectText]
  have parts : splitn 3 ',' (connectText family host port) =
      [decimal family.toNat, host, decimal port.toNat] := by
    rw [shape, splitn_append (comma_notMem_decimal _), splitn_append noComma,
      splitn]
  rw [parseConnect, encodeConnect_eq, fromUtf8_utf8]
  dsimp only
  rw [trim_connectText, parts]
  simp [parseNumber, Bind.bind, Except.bind, Pure.pure, Except.pure]

theorem length_decimal_port (number : UInt16) :
    (decimal number.toNat).length ≤ 5 := by
  have bound : number.toNat < 2 ^ 16 := number.toNat_lt
  exact length_decimal_le (by decide) (by omega)

theorem length_encodeConnect_le (family : UInt16) (host : Text)
    (port : UInt16) :
    (encodeConnect family host port).length ≤ 4 * (host.length + 12) := by
  have whole := length_utf8_le (connectText family host port)
  have first := length_decimal_port family
  have last := length_decimal_port port
  simp only [connectText, List.length_append, List.length_cons] at whole
  rw [encodeConnect_eq]
  simp only [connectText]
  omega

/-! ## `UDP_DATA` -/

/-- The scan passes over bytes that are no comma. -/
theorem scanCommas_append {left : Bytes} (noComma : 0x2c ∉ left) (i : Nat)
    (scan : CommaScan) (rest : Bytes) :
    scanCommas i scan (left ++ rest) =
      scanCommas (i + left.length) scan rest := by
  induction left generalizing i with
  | nil => rfl
  | cons byte others induction =>
      rw [List.mem_cons, not_or] at noComma
      have other : byte ≠ 0x2c := fun equal => noComma.1 equal.symm
      rw [List.cons_append, scanCommas, if_neg other,
        induction noComma.2, List.length_cons]
      congr 1
      omega

theorem comma_notMem_utf8 {text : Text} (noComma : ',' ∉ text) :
    0x2c ∉ utf8 text :=
  notMem_utf8 ',' (by decide) (by decide) noComma

/-- A payload with two commas, the address and the port before them. -/
def udpBytes (address field body : Bytes) : Bytes :=
  address ++ 0x2c :: (field ++ 0x2c :: body)

theorem encodeUdpData_eq (peerIp : Text) (peerPort : UInt16) (body : Bytes) :
    encodeUdpData peerIp peerPort body =
      udpBytes (utf8 peerIp) (utf8 (decimal peerPort.toNat)) body := by
  have comma : String.utf8EncodeChar ',' = [0x2c] := by decide
  simp [encodeUdpData, udpBytes, comma]

/-- The scan stops at the second comma. -/
theorem scanCommas_udpBytes {address field : Bytes}
    (first : 0x2c ∉ address) (second : 0x2c ∉ field) (body : Bytes) :
    scanCommas 0 ⟨0, 0, 0⟩ (udpBytes address field body) =
      ⟨2, address.length, address.length + 1 + field.length⟩ := by
  rw [udpBytes, scanCommas_append first]
  simp only [scanCommas]
  rw [scanCommas_append second]
  simp [scanCommas]

/-- The three slices of a payload with two commas. -/
theorem parseUdpData_udpBytes {address field : Bytes}
    (first : 0x2c ∉ address) (second : 0x2c ∉ field) (body : Bytes) :
    parseUdpData (udpBytes address field body) =
      match fromUtf8 address with
      | none => .error .notUtf8
      | some ip =>
          match fromUtf8 field with
          | none => .error .notUtf8
          | some text => do
              let port ← parseNumber text
              return (ip, port, body) := by
  have addressSlice :
      (udpBytes address field body).take address.length = address := by
    rw [udpBytes, List.take_left' rfl]
  have fieldSlice : ((udpBytes address field body).take
      (address.length + 1 + field.length)).drop (address.length + 1) =
        field := by
    rw [udpBytes, List.drop_take, List.append_cons, List.drop_left' (by simp),
      Nat.add_sub_cancel_left, List.take_left' rfl]
  have bodySlice : (udpBytes address field body).drop
      (address.length + 1 + field.length + 1) = body := by
    have split : udpBytes address field body =
        (address ++ 0x2c :: field ++ [0x2c]) ++ body := by
      simp [udpBytes]
    rw [split]
    apply List.drop_left'
    simp only [List.length_append, List.length_cons, List.length_nil]
    omega
  cases decoded : fromUtf8 address with
  | none =>
      simp [parseUdpData, scanCommas_udpBytes first second, addressSlice,
        decoded]
  | some ip =>
      cases number : fromUtf8 field with
      | none =>
          simp [parseUdpData, scanCommas_udpBytes first second,
            addressSlice, fieldSlice, decoded, number]
      | some text =>
          simp [parseUdpData, scanCommas_udpBytes first second,
            addressSlice, fieldSlice, bodySlice, decoded, number]

/-- An address without a comma is read back, with the port and the body. -/
theorem parseUdpData_encodeUdpData {peerIp : Text} (noComma : ',' ∉ peerIp)
    (peerPort : UInt16) (body : Bytes) :
    parseUdpData (encodeUdpData peerIp peerPort body) =
      .ok (peerIp, peerPort, body) := by
  rw [encodeUdpData_eq, parseUdpData_udpBytes (comma_notMem_utf8 noComma)
    (comma_notMem_utf8 (comma_notMem_decimal _)), fromUtf8_utf8]
  dsimp only
  rw [fromUtf8_utf8]
  simp [parseNumber, Bind.bind, Except.bind, Pure.pure, Except.pure]

end KubectlSshuttle.Rushtle.Ssnet
