import KubectlSshuttle.Lib.RustText
import KubectlSshuttle.Lib.Address

/-!
# The ssnet wire protocol

The codec that both ends of the tunnel share: an eight-byte header (`SS`, the
channel, the command and the payload length, each a big-endian `u16`) followed
by the payload, the synchronization header that a server writes first, and the
textual payloads of `TCP_CONNECT`, `UDP_DATA` and `HOST_LIST`.
-/

namespace KubectlSshuttle.Rushtle.Ssnet

open KubectlSshuttle.Lib.RustText

/-! ## Constants -/

/-- The length of a frame's header. -/
def hdrLen : Nat := 8

/-- `MAGIC`, the two letters `SS`. -/
def magic : Bytes := [0x53, 0x53]

/-- The length field has sixteen bits. -/
def maxPayload : Nat := 65535

/-- `CHUNK`: how much one read of a TCP socket may bring. -/
def chunk : Nat := 768

/-- `SSHUTTLE0001`. -/
def syncLiteral : Bytes :=
  [0x53, 0x53, 0x48, 0x55, 0x54, 0x54, 0x4c, 0x45, 0x30, 0x30, 0x30, 0x31]

/-- What precedes the first frame of the server. -/
def syncHeader : Bytes := 0 :: 0 :: syncLiteral

/-- The number that stands for IPv4 on the wire. -/
def afInet : UInt16 := 2

/-- The number that stands for IPv6 on the wire. -/
def afInet6 : UInt16 := 10

def cmdExit : UInt16 := 0x4200
def cmdPing : UInt16 := 0x4201
def cmdPong : UInt16 := 0x4202
def cmdTcpConnect : UInt16 := 0x4203
def cmdTcpStopSending : UInt16 := 0x4204
def cmdTcpEof : UInt16 := 0x4205
def cmdTcpData : UInt16 := 0x4206
def cmdRoutes : UInt16 := 0x4207
def cmdHostReq : UInt16 := 0x4208
def cmdHostList : UInt16 := 0x4209
def cmdDnsReq : UInt16 := 0x420a
def cmdDnsResponse : UInt16 := 0x420b
def cmdUdpOpen : UInt16 := 0x420c
def cmdUdpData : UInt16 := 0x420d
def cmdUdpClose : UInt16 := 0x420e

/-- The commands that a frame loop tells apart. -/
inductive Command where
  | exit
  | ping
  | pong
  | tcpConnect
  | tcpStopSending
  | tcpEof
  | tcpData
  | routes
  | hostReq
  | hostList
  | dnsReq
  | dnsResponse
  | udpOpen
  | udpData
  | udpClose
  | unknown
deriving DecidableEq, Repr

/-- The command that a code of the wire stands for. -/
def Command.ofCode (code : UInt16) : Command :=
  if code = cmdExit then .exit
  else if code = cmdPing then .ping
  else if code = cmdPong then .pong
  else if code = cmdTcpConnect then .tcpConnect
  else if code = cmdTcpStopSending then .tcpStopSending
  else if code = cmdTcpEof then .tcpEof
  else if code = cmdTcpData then .tcpData
  else if code = cmdRoutes then .routes
  else if code = cmdHostReq then .hostReq
  else if code = cmdHostList then .hostList
  else if code = cmdDnsReq then .dnsReq
  else if code = cmdDnsResponse then .dnsResponse
  else if code = cmdUdpOpen then .udpOpen
  else if code = cmdUdpData then .udpData
  else if code = cmdUdpClose then .udpClose
  else .unknown

/-- One message of the protocol. -/
structure Frame where
  channel : UInt16
  cmd : UInt16
  data : Bytes
deriving DecidableEq, Repr

/-- The command of a frame. -/
def Frame.command (frame : Frame) : Command :=
  Command.ofCode frame.cmd

/-- What the functions of this module fail with. -/
inductive IoError where
  | unexpectedEof
  | other
deriving DecidableEq, Repr

/-- What reading and writing fail with. -/
inductive Error where
  | io (error : IoError)
  | badMagic (first second : UInt8)
  | payloadTooLong (size : Nat)
  | syncMismatch (found : Bytes)
  | notUtf8
  | badNumber (text : Text)
  | badConnect (text : Text)
  | missingCommas
deriving DecidableEq, Repr

/-! ## Readers -/

/--
A source of bytes.  `readExact` either delivers the number of bytes asked for
or fails, as `AsyncReadExt::read_exact` does.
-/
class AsyncRead (Reader : Type) where
  readExact : Nat → Reader → Except IoError (Bytes × Reader)

/-- A stream whose remaining bytes are all at hand. -/
instance : AsyncRead Bytes where
  readExact count stream :=
    if count ≤ stream.length then
      .ok (stream.take count, stream.drop count)
    else
      .error .unexpectedEof

/--
What one read of a pipe or socket brings: never nothing, since an empty read
is the end of the stream.
-/
structure Piece where
  bytes : Bytes
  nonempty : bytes ≠ []

/-- Fill a buffer of the given size from the pieces as they arrive. -/
def readPieces : Nat → List Piece → Except IoError (Bytes × List Piece)
  | 0, pieces => .ok ([], pieces)
  | _ + 1, [] => .error .unexpectedEof
  | count + 1, piece :: rest =>
      if short : piece.bytes.length ≤ count + 1 then
        match readPieces (count + 1 - piece.bytes.length) rest with
        | .ok (more, left) => .ok (piece.bytes ++ more, left)
        | .error error => .error error
      else
        .ok
          (piece.bytes.take (count + 1),
            ⟨piece.bytes.drop (count + 1), by
              simp only [ne_eq, List.drop_eq_nil_iff]
              omega⟩ :: rest)

/-- A stream that arrives in pieces. -/
instance : AsyncRead (List Piece) where
  readExact := readPieces

/-! ## Frames -/

/-- `u16::to_be_bytes`. -/
def toBeBytes (number : UInt16) : Bytes :=
  [UInt8.ofNat (number.toNat / 256), UInt8.ofNat (number.toNat % 256)]

/-- `u16::from_be_bytes`. -/
def fromBeBytes (high low : UInt8) : UInt16 :=
  UInt16.ofNat (high.toNat * 256 + low.toNat)

/-- What `read_frame` returns, with the reader behind it. -/
inductive FrameRead (Reader : Type) where
  | frame (frame : Frame) (rest : Reader)
  | closed
  | failed (error : Error)
deriving DecidableEq

/-- `read_frame`; `closed` stands for `Ok(None)`. -/
def readFrame {Reader : Type} [AsyncRead Reader] (reader : Reader) :
    FrameRead Reader :=
  match AsyncRead.readExact hdrLen reader with
  | .error .unexpectedEof => .closed
  | .error error => .failed (.io error)
  | .ok (hdr, rest) =>
      if hdr.take 2 ≠ magic then
        .failed (.badMagic (hdr.getD 0 0) (hdr.getD 1 0))
      else
        let channel := fromBeBytes (hdr.getD 2 0) (hdr.getD 3 0)
        let cmd := fromBeBytes (hdr.getD 4 0) (hdr.getD 5 0)
        let datalen := (fromBeBytes (hdr.getD 6 0) (hdr.getD 7 0)).toNat
        if datalen > 0 then
          match AsyncRead.readExact datalen rest with
          | .error error => .failed (.io error)
          | .ok (data, left) => .frame ⟨channel, cmd, data⟩ left
        else
          .frame ⟨channel, cmd, []⟩ rest

/-- The eight bytes in front of a payload. -/
def frameHeader (frame : Frame) : Bytes :=
  magic ++ toBeBytes frame.channel ++ toBeBytes frame.cmd ++
    toBeBytes (UInt16.ofNat frame.data.length)

/-- The bytes that `write_frame` puts on the wire for a frame it accepts. -/
def frameBytes (frame : Frame) : Bytes :=
  frameHeader frame ++ frame.data

/--
`write_frame` on a sink that never fails: what the sink holds afterwards, and
the result.
-/
def writeFrame (sink : Bytes) (frame : Frame) : Bytes × Except Error Unit :=
  if frame.data.length > maxPayload then
    (sink, .error (.payloadTooLong frame.data.length))
  else
    let sink := sink ++ frameHeader frame
    if frame.data ≠ [] then
      (sink ++ frame.data, .ok ())
    else
      (sink, .ok ())

/-! ## The synchronization header -/

/-- Skip to behind the next zero byte. -/
def skipToNul : Bytes → Except Error Bytes
  | [] => .error (.io .unexpectedEof)
  | byte :: rest => if byte = 0 then .ok rest else skipToNul rest

/-- `read_sync_header`: what is left of the stream behind the header. -/
def readSyncHeader (stream : Bytes) : Except Error Bytes := do
  let rest ← skipToNul stream
  let rest ← skipToNul rest
  match AsyncRead.readExact syncLiteral.length rest with
  | .error error => .error (.io error)
  | .ok (found, left) =>
      if found = syncLiteral then
        .ok left
      else
        .error (.syncMismatch found)

/-! ## The `TCP_CONNECT` payload -/

/-- What a `TCP_CONNECT` asks for. -/
structure ConnectTarget where
  family : Option UInt16
  host : Text
  port : UInt16
deriving DecidableEq, Repr

/-- A numeric field of a payload. -/
def parseNumber (text : Text) : Except Error UInt16 :=
  match parseU16 text with
  | some number => .ok number
  | none => .error (.badNumber text)

/-- `parse_connect`: both the form with a family and the older one without. -/
def parseConnect (payload : Bytes) : Except Error ConnectTarget :=
  match fromUtf8 payload with
  | none => .error .notUtf8
  | some text =>
      let text := trim (trimEndMatches (fun char => char.toNat = 0) text)
      match splitn 3 ',' text with
      | [family, host, port] => do
          let family ← parseNumber family
          let port ← parseNumber port
          return ⟨some family, host, port⟩
      | [host, port] => do
          let port ← parseNumber port
          return ⟨none, host, port⟩
      | _ => .error (.badConnect text)

/-- The payload of a `TCP_CONNECT`. -/
def encodeConnect (family : UInt16) (host : Text) (port : UInt16) : Bytes :=
  utf8 (decimal family.toNat ++ ',' :: host ++ ',' :: decimal port.toNat)

/-! ## The `UDP_DATA` payload -/

/-- The positions of the first two commas, found by one scan. -/
structure CommaScan where
  commas : Nat
  idxIpEnd : Nat
  idxPortEnd : Nat

/-- The loop of `parse_udp_data`, from position `i` on. -/
def scanCommas (i : Nat) (scan : CommaScan) : Bytes → CommaScan
  | [] => scan
  | byte :: rest =>
      if byte = 0x2c then
        if scan.commas + 1 = 1 then
          scanCommas (i + 1)
            { scan with commas := scan.commas + 1, idxIpEnd := i } rest
        else if scan.commas + 1 = 2 then
          { scan with commas := scan.commas + 1, idxPortEnd := i }
        else
          scanCommas (i + 1) { scan with commas := scan.commas + 1 } rest
      else
        scanCommas (i + 1) scan rest

/-- `parse_udp_data`: the peer's address, its port and the body. -/
def parseUdpData (payload : Bytes) : Except Error (Text × UInt16 × Bytes) :=
  let scan := scanCommas 0 ⟨0, 0, 0⟩ payload
  if scan.commas < 2 then
    .error .missingCommas
  else
    match fromUtf8 (payload.take scan.idxIpEnd) with
    | none => .error .notUtf8
    | some ip =>
        let field :=
          (payload.take scan.idxPortEnd).drop (scan.idxIpEnd + 1)
        match fromUtf8 field with
        | none => .error .notUtf8
        | some field => do
            let port ← parseNumber field
            return (ip, port, payload.drop (scan.idxPortEnd + 1))

/-- The payload of a `UDP_DATA`. -/
def encodeUdpData (peerIp : Text) (peerPort : UInt16) (body : Bytes) : Bytes :=
  utf8 (peerIp ++ ',' :: decimal peerPort.toNat ++ [',']) ++ body

/-! ## The `HOST_LIST` payload -/

/-- The loop of `encode_host_list`; `first` is true before the first entry. -/
def appendHosts (out : Bytes) (first : Bool) : List (Text × Text) → Bytes
  | [] => out
  | (name, ip) :: rest =>
      let out := if first then out else out ++ [0x0a]
      appendHosts (out ++ utf8 name ++ [0x2c] ++ utf8 ip) false rest

/-- The payload of a `HOST_LIST`. -/
def encodeHostList (entries : List (Text × Text)) : Bytes :=
  appendHosts [] true entries

end KubectlSshuttle.Rushtle.Ssnet
