import KubectlSshuttle.Rushtle.SsnetPayloads

/-!
# What the payload readers accept

`parse_connect` is described by the fields of the trimmed text, for both of
its forms, and `parse_udp_data` by the first two commas of the payload.
-/

namespace KubectlSshuttle.Rushtle.Ssnet

open KubectlSshuttle.Lib.RustText

/-- A field is read exactly from the notations of a port number. -/
theorem parseNumber_eq_ok_iff {text : Text} {number : UInt16} :
    parseNumber text = .ok number ↔ IsDecimal text number.toNat := by
  rw [← parseU16_eq_some_iff, parseNumber]
  cases parseU16 text <;> simp

theorem comma_notMem_of_isDecimal {text : Text} {number : Nat}
    (shape : IsDecimal text number) : ',' ∉ text := by
  rcases shape with ⟨digits, whole, -, allDigits, -⟩
  have noComma : ',' ∉ digits := fun member =>
    absurd (allDigits ',' member) (by decide)
  rcases whole with rfl | rfl
  · exact noComma
  · simp [noComma]

/-! ## `TCP_CONNECT` -/

/-- The text of a payload without the padding around it. -/
def connectTrimmed (text : Text) : Text :=
  trim (trimEndMatches (fun char => char.toNat = 0) text)

/-- The fields of a payload's text. -/
def connectFields (text : Text) : List Text :=
  splitn 3 ',' (connectTrimmed text)

/-- The fields that are read as numbers. -/
def numericFields : List Text → List Text
  | [family, _, port] => [family, port]
  | [_, port] => [port]
  | _ => []

/-- The payload of the form without a family. -/
def legacyConnect (host : Text) (port : UInt16) : Bytes :=
  utf8 (host ++ ',' :: decimal port.toNat)

/-- What may stand behind a payload: whitespace, and then NUL bytes. -/
def padding (blanks : Text) (nuls : Nat) : Bytes :=
  utf8 blanks ++ List.replicate nuls 0

/-- A payload is accepted for its fields. -/
theorem exists_parseConnect_iff (payload : Bytes) :
    (∃ target, parseConnect payload = .ok target) ↔
      ∃ text, fromUtf8 payload = some text ∧
        2 ≤ (connectFields text).length ∧
        ∀ field ∈ numericFields (connectFields text),
          ∃ number : UInt16, IsDecimal field number.toNat := by
  simp only [← parseNumber_eq_ok_iff]
  rw [parseConnect]
  cases decoded : fromUtf8 payload with
  | none => simp
  | some text =>
      simp only [Option.some.injEq, exists_eq_left']
      rw [← connectTrimmed, ← connectFields]
      split
      · next family host port shape =>
          rw [shape]
          cases first : parseNumber family <;>
            cases last : parseNumber port <;>
            simp [numericFields, first, last, Bind.bind, Except.bind,
              Pure.pure, Except.pure]
      · next host port shape =>
          rw [shape]
          cases last : parseNumber port <;>
            simp [numericFields, last, Bind.bind, Except.bind, Pure.pure,
              Except.pure]
      · next threeFields twoFields =>
          have atMost := length_splitn_le 3 ',' (connectTrimmed text)
          rw [← connectFields] at atMost
          rcases shape : connectFields text with
            _ | ⟨first, _ | ⟨second, _ | ⟨third, _ | ⟨fourth, rest⟩⟩⟩⟩
          · simp
          · simp
          · exact (twoFields first second shape).elim
          · exact (threeFields first second third shape).elim
          · simp only [shape, List.length_cons] at atMost
            omega

/-- Only the text between the padding matters. -/
theorem parseConnect_congr {left right : Text}
    (same : connectTrimmed left = connectTrimmed right) :
    parseConnect (utf8 left) = parseConnect (utf8 right) := by
  simp only [connectTrimmed] at same
  simp only [parseConnect, fromUtf8_utf8]
  rw [same]

theorem utf8_replicate_nul (nuls : Nat) :
    utf8 (List.replicate nuls '\x00') = List.replicate nuls 0 := by
  have nul : String.utf8EncodeChar '\x00' = [0] := by decide
  induction nuls with
  | zero => rfl
  | succ nuls induction =>
      rw [List.replicate_succ, utf8_cons, induction, nul,
        List.replicate_succ]
      rfl

/-- Padding behind a text that ends with a digit is taken off. -/
theorem connectTrimmed_padded (initial : Text) {last : Char}
    (digit : last.isDigit = true) {blanks : Text}
    (white : ∀ char ∈ blanks, isWhitespace char = true) (nuls : Nat) :
    connectTrimmed (initial ++ [last] ++ blanks ++
        List.replicate nuls '\x00') =
      connectTrimmed (initial ++ [last]) := by
  have padded : trimEndMatches (fun char => char.toNat = 0)
      (initial ++ [last] ++ blanks ++ List.replicate nuls '\x00') =
        initial ++ [last] ++ blanks := by
    have nulsRemoved : ∀ char ∈ List.replicate nuls '\x00',
        decide (char.toNat = 0) = true := by
      intro char member
      rw [List.eq_of_mem_replicate member]
      rfl
    rw [trimEndMatches, rdropWhile_append_of_forall nulsRemoved]
    rcases List.eq_nil_or_concat blanks with rfl | ⟨front, back, rfl⟩
    · rw [List.append_nil]
      exact trimEndMatches_nul_concat initial (.inr digit)
    · rw [List.concat_eq_append] at white ⊢
      rw [← List.append_assoc]
      exact trimEndMatches_nul_concat _ (.inl (white back (by simp)))
  rw [connectTrimmed, connectTrimmed, padded,
    trimEndMatches_nul_concat initial (.inr digit)]
  exact trim_append ⟨last, by simp, isWhitespace_of_isDigit digit⟩ white

/-- Padding behind a port changes nothing. -/
theorem parseConnect_padded (front : Text) (port : UInt16) {blanks : Text}
    (white : ∀ char ∈ blanks, isWhitespace char = true) (nuls : Nat) :
    parseConnect (utf8 (front ++ decimal port.toNat) ++
        padding blanks nuls) =
      parseConnect (utf8 (front ++ decimal port.toNat)) := by
  rcases decimal_eq_concat port.toNat with ⟨initial, last, back, digit⟩
  have whole : utf8 (front ++ decimal port.toNat) ++ padding blanks nuls =
      utf8 (front ++ initial ++ [last] ++ blanks ++
        List.replicate nuls '\x00') := by
    simp only [back, padding, utf8_append, utf8_replicate_nul,
      List.append_assoc]
  rw [whole, parseConnect_congr (connectTrimmed_padded _ digit white nuls),
    back, List.append_assoc]

/-- The form without a family is read back too. -/
theorem parseConnect_legacyConnect {host : Text} (noComma : ',' ∉ host)
    (ink : ∀ first, host.head? = some first → isWhitespace first = false)
    (port : UInt16) :
    parseConnect (legacyConnect host port) = .ok ⟨none, host, port⟩ := by
  rcases decimal_eq_concat port.toNat with ⟨initial, last, back, digit⟩
  have kept : connectTrimmed (host ++ ',' :: decimal port.toNat) =
      host ++ ',' :: decimal port.toNat := by
    have ends : host ++ ',' :: decimal port.toNat =
        host ++ ',' :: initial ++ [last] := by
      simp [back]
    cases host with
    | nil => exact trim_trimEndMatches_nul rfl ends (by decide) digit
    | cons first rest =>
        exact trim_trimEndMatches_nul rfl ends (ink first rfl) digit
  have parts : splitn 3 ',' (host ++ ',' :: decimal port.toNat) =
      [host, decimal port.toNat] := by
    rw [splitn_append noComma, splitn_of_notMem (comma_notMem_decimal _)]
  rw [connectTrimmed] at kept
  rw [parseConnect, legacyConnect, fromUtf8_utf8]
  dsimp only
  rw [kept, parts]
  simp [parseNumber, Bind.bind, Except.bind, Pure.pure, Except.pure]

/-- A comma in the host makes the last field no number. -/
theorem comma_notMem_of_parseConnect {family : UInt16} {host : Text}
    {port : UInt16} {target : ConnectTarget}
    (read : parseConnect (encodeConnect family host port) = .ok target) :
    ',' ∉ host := by
  intro present
  rcases List.eq_append_cons_of_mem present with ⟨left, right, rfl, absent⟩
  have trimmed := trim_connectText family (left ++ ',' :: right) port
  have shape : connectText family (left ++ ',' :: right) port =
      decimal family.toNat ++ ',' ::
        (left ++ ',' :: (right ++ ',' :: decimal port.toNat)) := by
    simp [connectText]
  have parts : connectFields (connectText family (left ++ ',' :: right) port)
      = [decimal family.toNat, left, right ++ ',' :: decimal port.toNat] := by
    rw [connectFields, connectTrimmed, trimmed, shape,
      splitn_append (comma_notMem_decimal _), splitn_append absent, splitn]
  rcases (exists_parseConnect_iff _).mp ⟨target, read⟩ with
    ⟨text, decoded, -, numbers⟩
  rw [encodeConnect_eq, fromUtf8_utf8] at decoded
  cases decoded
  rw [parts] at numbers
  rcases numbers (right ++ ',' :: decimal port.toNat)
    (by simp [numericFields]) with ⟨number, written⟩
  exact comma_notMem_of_isDecimal written (by simp)

/-- How `TCP_CONNECT` payloads are written and read. -/
structure ConnectPayloads : Prop where
  accepted : ∀ family host port,
    (∃ target, parseConnect (encodeConnect family host port) = .ok target) ↔
      ',' ∉ host
  roundTrip : ∀ family host port, ',' ∉ host →
    parseConnect (encodeConnect family host port) =
      .ok ⟨some family, host, port⟩
  legacy : ∀ host port, ',' ∉ host →
    (∀ first, host.head? = some first → isWhitespace first = false) →
      parseConnect (legacyConnect host port) = .ok ⟨none, host, port⟩
  /-- padding behind either form changes nothing, an error included -/
  padded : ∀ family host port blanks nuls,
    (∀ char ∈ blanks, isWhitespace char = true) →
      parseConnect (encodeConnect family host port ++ padding blanks nuls) =
          parseConnect (encodeConnect family host port) ∧
        parseConnect (legacyConnect host port ++ padding blanks nuls) =
          parseConnect (legacyConnect host port)
  /-- what is no text, has one field or a field that is no number is refused -/
  recognized : ∀ payload,
    (∃ target, parseConnect payload = .ok target) ↔
      ∃ text, fromUtf8 payload = some text ∧
        2 ≤ (connectFields text).length ∧
        ∀ field ∈ numericFields (connectFields text),
          ∃ number : UInt16, IsDecimal field number.toNat

theorem connectPayloads : ConnectPayloads := by
  refine ⟨fun family host port => ⟨?_, ?_⟩, ?_, ?_, ?_,
    exists_parseConnect_iff⟩
  · rintro ⟨target, read⟩
    exact comma_notMem_of_parseConnect read
  · intro noComma
    exact ⟨_, parseConnect_encodeConnect family noComma port⟩
  · exact fun family host port noComma =>
      parseConnect_encodeConnect family noComma port
  · exact fun host port noComma ink =>
      parseConnect_legacyConnect noComma ink port
  · intro family host port blanks nuls white
    refine ⟨?_, ?_⟩
    · have shape : connectText family host port =
          (decimal family.toNat ++ ',' :: host ++ [',']) ++
            decimal port.toNat := by
        simp [connectText]
      rw [encodeConnect_eq, shape]
      exact parseConnect_padded _ port white nuls
    · rw [legacyConnect, List.append_cons]
      exact parseConnect_padded _ port white nuls

/-! ## `UDP_DATA` -/

/-- Two commas cut a payload in three. -/
theorem two_le_count_comma_iff {payload : Bytes} :
    2 ≤ payload.count 0x2c ↔
      ∃ address field body, payload = udpBytes address field body ∧
        0x2c ∉ address ∧ 0x2c ∉ field := by
  constructor
  · intro twice
    have once : 0x2c ∈ payload := List.count_pos_iff.mp (by omega)
    rcases List.eq_append_cons_of_mem once with
      ⟨address, rest, rfl, addressFree⟩
    rw [List.count_append, List.count_eq_zero.mpr addressFree,
      List.count_cons_self] at twice
    have again : 0x2c ∈ rest := List.count_pos_iff.mp (by omega)
    rcases List.eq_append_cons_of_mem again with
      ⟨field, body, rfl, fieldFree⟩
    exact ⟨address, field, body, rfl, addressFree, fieldFree⟩
  · rintro ⟨address, field, body, rfl, -, -⟩
    simp only [udpBytes, List.count_append, List.count_cons_self]
    omega

/-- The scan counts the commas, up to the second. -/
theorem two_le_commas_iff (payload : Bytes) :
    2 ≤ (scanCommas 0 ⟨0, 0, 0⟩ payload).commas ↔
      2 ≤ payload.count 0x2c := by
  by_cases twice : 2 ≤ payload.count 0x2c
  · rcases two_le_count_comma_iff.mp twice with
      ⟨address, field, body, rfl, first, second⟩
    rw [scanCommas_udpBytes first second]
    simpa using twice
  · refine iff_of_false ?_ twice
    by_cases once : 0x2c ∈ payload
    · rcases List.eq_append_cons_of_mem once with
        ⟨left, right, rfl, leftFree⟩
      rw [List.count_append, List.count_cons_self] at twice
      have rightFree : 0x2c ∉ right := by
        rw [← List.count_eq_zero]
        omega
      rw [scanCommas_append leftFree]
      have tail (scan : CommaScan) (i : Nat) :
          scanCommas i scan right = scan := by
        simpa [scanCommas] using scanCommas_append rightFree i scan []
      simp [scanCommas, tail]
    · have whole := scanCommas_append once 0 ⟨0, 0, 0⟩ []
      rw [List.append_nil] at whole
      simp [whole, scanCommas]

/-- How `UDP_DATA` payloads are written and read. -/
structure UdpPayloads : Prop where
  roundTrip : ∀ peerIp peerPort body, ',' ∉ peerIp →
    parseUdpData (encodeUdpData peerIp peerPort body) =
      .ok (peerIp, peerPort, body)
  /-- the ends of the three slices are in order and within the payload -/
  inRange : ∀ payload,
    2 ≤ (scanCommas 0 ⟨0, 0, 0⟩ payload).commas →
      (scanCommas 0 ⟨0, 0, 0⟩ payload).idxIpEnd + 1 ≤
          (scanCommas 0 ⟨0, 0, 0⟩ payload).idxPortEnd ∧
        (scanCommas 0 ⟨0, 0, 0⟩ payload).idxPortEnd + 1 ≤ payload.length
  refused : ∀ payload, payload.count 0x2c < 2 →
    parseUdpData payload = .error .missingCommas
  /-- the slices end at the first two commas -/
  recognized : ∀ payload ip port body,
    parseUdpData payload = .ok (ip, port, body) ↔
      ∃ address field text, payload = udpBytes address field body ∧
        0x2c ∉ address ∧ 0x2c ∉ field ∧ fromUtf8 address = some ip ∧
        fromUtf8 field = some text ∧ IsDecimal text port.toNat

theorem udpPayloads : UdpPayloads := by
  have refused (payload : Bytes) (few : payload.count 0x2c < 2) :
      parseUdpData payload = .error .missingCommas := by
    have stopped := mt (two_le_commas_iff payload).mp (by omega)
    rw [parseUdpData, if_pos (by omega)]
  refine ⟨fun peerIp peerPort body noComma =>
    parseUdpData_encodeUdpData noComma peerPort body, ?_, refused, ?_⟩
  · intro payload enough
    rw [two_le_commas_iff, two_le_count_comma_iff] at enough
    rcases enough with ⟨address, field, body, rfl, first, second⟩
    rw [scanCommas_udpBytes first second]
    simp only [udpBytes, List.length_append, List.length_cons]
    omega
  · intro payload ip port body
    constructor
    · intro read
      have twice : 2 ≤ payload.count 0x2c := by
        by_contra few
        rw [refused payload (by omega)] at read
        cases read
      rcases two_le_count_comma_iff.mp twice with
        ⟨address, field, rest, rfl, first, second⟩
      rw [parseUdpData_udpBytes first second] at read
      cases decoded : fromUtf8 address with
      | none => simp [decoded] at read
      | some found =>
          cases number : fromUtf8 field with
          | none => simp [decoded, number] at read
          | some text =>
              simp only [decoded, number] at read
              cases parsed : parseNumber text with
              | error error => simp [parsed, Bind.bind, Except.bind] at read
              | ok value =>
                  simp only [parsed, Bind.bind, Except.bind, Pure.pure,
                    Except.pure, Except.ok.injEq, Prod.mk.injEq] at read
                  rcases read with ⟨rfl, rfl, rfl⟩
                  exact ⟨address, field, text, rfl, first, second, decoded,
                    number, parseNumber_eq_ok_iff.mp parsed⟩
    · rintro ⟨address, field, text, rfl, first, second, decoded, number,
        written⟩
      rw [parseUdpData_udpBytes first second, decoded, number]
      dsimp only
      rw [parseNumber_eq_ok_iff.mpr written]
      rfl

end KubectlSshuttle.Rushtle.Ssnet
