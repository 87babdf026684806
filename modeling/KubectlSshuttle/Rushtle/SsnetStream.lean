import KubectlSshuttle.Lib.SelfDelimiting
import KubectlSshuttle.Rushtle.Ssnet

/-!
# Frames on a byte stream

The frame codec as a self-delimiting code: what `read_frame` returns on a
concatenation of written frames, on a prefix of one, and on any stream at all,
independently of the pieces in which the bytes arrive.
-/

namespace KubectlSshuttle.Rushtle.Ssnet

open KubectlSshuttle.Lib
open KubectlSshuttle.Lib.RustText

/-! ## Header fields -/

@[simp]
theorem length_toBeBytes (number : UInt16) :
    (toBeBytes number).length = 2 := rfl

@[simp]
theorem fromBeBytes_toBeBytes (number : UInt16) :
    fromBeBytes (UInt8.ofNat (number.toNat / 256))
        (UInt8.ofNat (number.toNat % 256)) = number := by
  have small := number.toNat_lt
  apply UInt16.toNat_inj.mp
  simp only [fromBeBytes, UInt8.toNat_ofNat', UInt16.toNat_ofNat']
  omega

theorem toBeBytes_fromBeBytes (high low : UInt8) :
    toBeBytes (fromBeBytes high low) = [high, low] := by
  have highSmall := high.toNat_lt
  have lowSmall := low.toNat_lt
  simp only [toBeBytes, fromBeBytes, List.cons.injEq, and_true]
  constructor <;>
    · apply UInt8.toNat_inj.mp
      simp only [UInt8.toNat_ofNat', UInt16.toNat_ofNat']
      omega

@[simp]
theorem length_frameHeader (frame : Frame) :
    (frameHeader frame).length = hdrLen := rfl

theorem frameBytes_ne_nil (frame : Frame) : frameBytes frame ≠ [] := by
  simp [frameBytes, frameHeader, magic]

/-! ## Reading a whole stream of bytes -/

theorem readExact_append {part rest : Bytes} {count : Nat}
    (size : part.length = count) :
    AsyncRead.readExact count (part ++ rest) = .ok (part, rest) := by
  subst size
  simp [AsyncRead.readExact]

theorem readExact_ok {stream part rest : Bytes} {count : Nat}
    (read : AsyncRead.readExact count stream = .ok (part, rest)) :
    part.length = count ∧ stream = part ++ rest := by
  simp only [AsyncRead.readExact] at read
  split at read
  · next enough =>
      simp only [Except.ok.injEq, Prod.mk.injEq] at read
      rcases read with ⟨rfl, rfl⟩
      exact ⟨List.length_take_of_le enough, by simp⟩
  · cases read

theorem readExact_short {stream : Bytes} {count : Nat}
    (short : stream.length < count) :
    AsyncRead.readExact count stream = .error .unexpectedEof := by
  simp [AsyncRead.readExact, Nat.not_le.mpr short]

/-! The fields that `read_frame` takes out of the header of a written frame. -/

theorem frameHeader_magic (frame : Frame) :
    (frameHeader frame).take 2 = magic := rfl

theorem frameHeader_channel (frame : Frame) :
    fromBeBytes ((frameHeader frame).getD 2 0)
        ((frameHeader frame).getD 3 0) = frame.channel :=
  fromBeBytes_toBeBytes frame.channel

theorem frameHeader_cmd (frame : Frame) :
    fromBeBytes ((frameHeader frame).getD 4 0)
        ((frameHeader frame).getD 5 0) = frame.cmd :=
  fromBeBytes_toBeBytes frame.cmd

theorem frameHeader_datalen {frame : Frame}
    (fits : frame.data.length ≤ maxPayload) :
    (fromBeBytes ((frameHeader frame).getD 6 0)
        ((frameHeader frame).getD 7 0)).toNat = frame.data.length := by
  have field :
      fromBeBytes ((frameHeader frame).getD 6 0)
          ((frameHeader frame).getD 7 0) =
        UInt16.ofNat frame.data.length :=
    fromBeBytes_toBeBytes (UInt16.ofNat frame.data.length)
  rw [field, UInt16.toNat_ofNat']
  exact Nat.mod_eq_of_lt (Nat.lt_succ_of_le fits)

/-- A written frame is read back, whatever follows it. -/
theorem readFrame_frameBytes (frame : Frame) (rest : Bytes)
    (fits : frame.data.length ≤ maxPayload) :
    readFrame (frameBytes frame ++ rest) = .frame frame rest := by
  have header : AsyncRead.readExact hdrLen (frameBytes frame ++ rest) =
      .ok (frameHeader frame, frame.data ++ rest) := by
    rw [frameBytes, List.append_assoc]
    exact readExact_append (length_frameHeader frame)
  have payload : AsyncRead.readExact frame.data.length
      (frame.data ++ rest) = .ok (frame.data, rest) :=
    readExact_append rfl
  simp only [readFrame, header, frameHeader_magic, frameHeader_channel,
    frameHeader_cmd, frameHeader_datalen fits, ne_eq, not_true_eq_false,
    if_false]
  split
  · simp only [payload]
  · next nothing =>
      have empty : frame.data = [] := by
        simpa using nothing
      rcases frame with ⟨channel, cmd, data⟩
      simp only at empty
      simp [empty]

theorem eight_bytes {hdr : Bytes} (size : hdr.length = hdrLen) :
    ∃ m0 m1 c0 c1 k0 k1 l0 l1, hdr = [m0, m1, c0, c1, k0, k1, l0, l1] := by
  rcases hdr with _ | ⟨m0, _ | ⟨m1, _ | ⟨c0, _ | ⟨c1, _ | ⟨k0, _ | ⟨k1,
    _ | ⟨l0, _ | ⟨l1, _ | ⟨extra, rest⟩⟩⟩⟩⟩⟩⟩⟩⟩
  case cons.cons.cons.cons.cons.cons.cons.cons.nil =>
    exact ⟨m0, m1, c0, c1, k0, k1, l0, l1, rfl⟩
  all_goals simp [hdrLen] at size

/-- A header of eight bytes is the header of the frame read from its fields. -/
theorem eq_frameHeader {hdr data : Bytes} (size : hdr.length = hdrLen)
    (starts : hdr.take 2 = magic)
    (datalen : data.length =
      (fromBeBytes (hdr.getD 6 0) (hdr.getD 7 0)).toNat) :
    hdr = frameHeader
      ⟨fromBeBytes (hdr.getD 2 0) (hdr.getD 3 0),
        fromBeBytes (hdr.getD 4 0) (hdr.getD 5 0), data⟩ := by
  rcases eight_bytes size with ⟨m0, m1, c0, c1, k0, k1, l0, l1, rfl⟩
  simp only [List.getD_cons_zero, List.getD_cons_succ] at datalen ⊢
  simp only [frameHeader, datalen, UInt16.ofNat_toNat,
    toBeBytes_fromBeBytes, ← starts]
  rfl

/-- What `read_frame` returns is what stood at the front of the stream. -/
theorem readFrame_sound {stream rest : Bytes} {frame : Frame}
    (read : readFrame stream = .frame frame rest) :
    frame.data.length ≤ maxPayload ∧
      stream = frameBytes frame ++ rest := by
  unfold readFrame at read
  split at read
  · cases read
  · cases read
  · next hdr left header =>
      rcases readExact_ok header with ⟨size, shape⟩
      split at read
      · cases read
      · next starts =>
          have starts : hdr.take 2 = magic := not_not.mp starts
          dsimp only at read
          split at read
          · split at read
            · cases read
            · next data others payload =>
                rcases readExact_ok payload with ⟨dataSize, leftShape⟩
                simp only [FrameRead.frame.injEq] at read
                rcases read with ⟨rfl, rfl⟩
                refine ⟨?_, ?_⟩
                · have := UInt16.toNat_lt
                    (fromBeBytes (hdr.getD 6 0) (hdr.getD 7 0))
                  simp only [maxPayload, dataSize]
                  omega
                · rw [shape, leftShape, frameBytes, List.append_assoc,
                    ← eq_frameHeader size starts dataSize]
          · next nothing =>
              simp only [FrameRead.frame.injEq] at read
              rcases read with ⟨rfl, rfl⟩
              have datalen : ([] : Bytes).length =
                  (fromBeBytes (hdr.getD 6 0) (hdr.getD 7 0)).toNat := by
                rw [List.length_nil]
                omega
              refine ⟨Nat.zero_le _, ?_⟩
              rw [shape, frameBytes, List.append_nil,
                ← eq_frameHeader size starts datalen]

/-- The frames of the wire, as a self-delimiting code. -/
def frameCode : SelfDelimiting UInt8 Frame where
  encode := frameBytes
  decode stream :=
    match readFrame stream with
    | .frame frame rest => some (frame, rest)
    | _ => none
  Valid frame := frame.data.length ≤ maxPayload
  encode_ne_nil := frameBytes_ne_nil
  decode_encode := by
    intro frame rest fits
    rw [readFrame_frameBytes frame rest fits]
  decode_sound := by
    intro stream frame rest decoded
    split at decoded
    · next read =>
        simp only [Option.some.injEq, Prod.mk.injEq] at decoded
        rcases decoded with ⟨rfl, rfl⟩
        exact readFrame_sound read
    · cases decoded

@[simp]
theorem frameCode_encode (frame : Frame) :
    frameCode.encode frame = frameBytes frame := rfl

/-- The bytes of a list of frames. -/
abbrev framesBytes (frames : List Frame) : Bytes :=
  frameCode.encodeAll frames

theorem readFrame_short {stream : Bytes} (short : stream.length < hdrLen) :
    readFrame stream = .closed := by
  simp only [readFrame, readExact_short short]

/-- A frame whose header has arrived but whose payload is cut is an error. -/
theorem readFrame_cut {frame : Frame} {cut missing : Bytes}
    (fits : frame.data.length ≤ maxPayload) (nonempty : missing ≠ [])
    (whole : cut ++ missing = frameBytes frame)
    (headerDone : hdrLen ≤ cut.length) :
    readFrame cut = .failed (.io .unexpectedEof) := by
  obtain ⟨arrived, rfl, dataShape⟩ :
      ∃ arrived, cut = frameHeader frame ++ arrived ∧
        arrived ++ missing = frame.data := by
    rw [frameBytes] at whole
    rcases List.append_eq_append_iff.mp whole with
      ⟨more, headerShape, _⟩ | ⟨arrived, cutShape, dataShape⟩
    · have size := congrArg List.length headerShape
      rw [length_frameHeader, List.length_append] at size
      have nothing : more = [] :=
        List.length_eq_zero_iff.mp (by omega)
      subst nothing
      rw [List.append_nil] at headerShape
      refine ⟨[], by simpa using headerShape.symm, ?_⟩
      rw [headerShape] at whole
      simpa using List.append_cancel_left whole
    · exact ⟨arrived, cutShape, dataShape.symm⟩
  have header : AsyncRead.readExact hdrLen (frameHeader frame ++ arrived) =
      .ok (frameHeader frame, arrived) :=
    readExact_append (length_frameHeader frame)
  have short : arrived.length < frame.data.length := by
    have positive := List.length_pos_of_ne_nil nonempty
    rw [← dataShape, List.length_append]
    omega
  have positive : frame.data.length > 0 := by omega
  simp only [readFrame, header, frameHeader_magic, frameHeader_channel,
    frameHeader_cmd, frameHeader_datalen fits, ne_eq, not_true_eq_false,
    if_false, positive, if_true, readExact_short short]

/-! ## Writing and reading lists of frames -/

/-- Write frames until one is refused. -/
def writeFrames (sink : Bytes) : List Frame → Bytes × Except Error Unit
  | [] => (sink, .ok ())
  | frame :: rest =>
      match writeFrame sink frame with
      | (sink, .ok ()) => writeFrames sink rest
      | (sink, .error error) => (sink, .error error)

theorem writeFrame_fits {frame : Frame}
    (fits : frame.data.length ≤ maxPayload) (sink : Bytes) :
    writeFrame sink frame = (sink ++ frameBytes frame, .ok ()) := by
  simp only [writeFrame, gt_iff_lt, Nat.not_lt.mpr fits, if_false, frameBytes]
  split
  · simp
  · next empty =>
      have empty : frame.data = [] := not_not.mp empty
      simp [empty]

/-- A payload that is too long is refused before any byte is written. -/
theorem writeFrame_tooLong {frame : Frame}
    (long : maxPayload < frame.data.length) (sink : Bytes) :
    writeFrame sink frame =
      (sink, .error (.payloadTooLong frame.data.length)) := by
  simp only [writeFrame, gt_iff_lt, long, if_true]

theorem writeFrames_fit {frames : List Frame}
    (fits : ∀ frame ∈ frames, frame.data.length ≤ maxPayload)
    (sink : Bytes) :
    writeFrames sink frames = (sink ++ framesBytes frames, .ok ()) := by
  induction frames generalizing sink with
  | nil => simp [writeFrames]
  | cons frame rest induction =>
      rw [writeFrames, writeFrame_fits (fits frame List.mem_cons_self)]
      dsimp only
      rw [induction
        (fun other member => fits other (List.mem_cons_of_mem _ member))]
      simp

/-- How repeated reading ends; `more` when no more reads are allowed. -/
inductive StreamEnd where
  | closed
  | failed (error : Error)
  | more
deriving DecidableEq

/-- Apply `read_frame` again and again, at most `reads` times. -/
def readFrames {Reader : Type} [AsyncRead Reader] :
    Nat → Reader → List Frame × StreamEnd
  | 0, _ => ([], .more)
  | reads + 1, reader =>
      match readFrame reader with
      | .frame frame rest =>
          (frame :: (readFrames reads rest).1, (readFrames reads rest).2)
      | .closed => ([], .closed)
      | .failed error => ([], .failed error)

theorem readFrames_framesBytes_append {frames : List Frame}
    (fits : ∀ frame ∈ frames, frame.data.length ≤ maxPayload)
    (reads : Nat) (rest : Bytes) :
    readFrames (frames.length + reads) (framesBytes frames ++ rest) =
      (frames ++ (readFrames reads rest).1, (readFrames reads rest).2) := by
  induction frames with
  | nil => simp
  | cons frame others induction =>
      have count : (frame :: others).length + reads =
          others.length + reads + 1 := by
        simp only [List.length_cons]
        omega
      have stream : framesBytes (frame :: others) ++ rest =
          frameBytes frame ++ (framesBytes others ++ rest) := by
        simp
      rw [count, stream, readFrames,
        readFrame_frameBytes _ _ (fits frame List.mem_cons_self)]
      dsimp only
      rw [induction
        (fun other member => fits other (List.mem_cons_of_mem _ member))]
      simp

/-! ## Streams that arrive in pieces -/

/-- All bytes that the pieces bring. -/
def contents (pieces : List Piece) : Bytes :=
  pieces.flatMap Piece.bytes

@[simp]
theorem contents_cons (piece : Piece) (rest : List Piece) :
    contents (piece :: rest) = piece.bytes ++ contents rest := by
  simp [contents]

/-- Filling a buffer depends on the bytes only, not on the pieces. -/
theorem readPieces_contents (count : Nat) (pieces : List Piece) :
    (readPieces count pieces).map (fun (part, left) => (part, contents left)) =
      AsyncRead.readExact count (contents pieces) := by
  induction pieces generalizing count with
  | nil =>
      cases count with
      | zero => rfl
      | succ count => rfl
  | cons piece rest induction =>
      cases count with
      | zero => simp [readPieces, AsyncRead.readExact, Except.map]
      | succ count =>
          rw [readPieces, contents_cons]
          split
          · next short =>
              have inner := induction (count + 1 - piece.bytes.length)
              cases read : readPieces (count + 1 - piece.bytes.length) rest with
              | error error =>
                  rw [read] at inner
                  simp only [Except.map, AsyncRead.readExact] at inner ⊢
                  split at inner
                  · cases inner
                  · next missing =>
                      rw [if_neg (by
                        rw [List.length_append]
                        omega)]
                      exact inner
              | ok result =>
                  rw [read] at inner
                  simp only [Except.map, AsyncRead.readExact] at inner ⊢
                  split at inner
                  · next enough =>
                      rw [if_pos (by
                        rw [List.length_append]
                        omega)]
                      simp only [Except.ok.injEq, Prod.mk.injEq] at inner ⊢
                      rw [inner.1, inner.2, List.take_append,
                        List.drop_append, List.take_of_length_le short,
                        List.drop_of_length_le short]
                      exact ⟨rfl, rfl⟩
                  · cases inner
          · next long =>
              have enough : count + 1 ≤ piece.bytes.length := by omega
              simp only [Except.map, AsyncRead.readExact, contents_cons]
              rw [if_pos (by
                  rw [List.length_append]
                  omega),
                List.take_append_of_le_length enough,
                List.drop_append_of_le_length enough]

/-- The reader behind the frame is replaced. -/
def FrameRead.map {First Second : Type} (change : First → Second) :
    FrameRead First → FrameRead Second
  | .frame value rest => .frame value (change rest)
  | .closed => .closed
  | .failed error => .failed error

/-- `read_frame` depends on the bytes only, not on the pieces. -/
theorem readFrame_contents (pieces : List Piece) :
    (readFrame pieces).map contents = readFrame (contents pieces) := by
  have header := readPieces_contents hdrLen pieces
  simp only [readFrame, ← header]
  cases read : AsyncRead.readExact hdrLen pieces with
  | error error =>
      have same : readPieces hdrLen pieces = .error error := read
      rw [same]
      cases error <;> rfl
  | ok result =>
      rcases result with ⟨hdr, rest⟩
      have same : readPieces hdrLen pieces = .ok (hdr, rest) := read
      rw [same]
      simp only [Except.map]
      split
      · rfl
      · split
        · have payload := readPieces_contents
            (fromBeBytes (hdr.getD 6 0) (hdr.getD 7 0)).toNat rest
          rw [← payload]
          cases readData : AsyncRead.readExact
              (fromBeBytes (hdr.getD 6 0) (hdr.getD 7 0)).toNat rest with
          | error error =>
              have sameData : readPieces
                  (fromBeBytes (hdr.getD 6 0) (hdr.getD 7 0)).toNat rest =
                    .error error := readData
              rw [sameData]
              rfl
          | ok data =>
              have sameData : readPieces
                  (fromBeBytes (hdr.getD 6 0) (hdr.getD 7 0)).toNat rest =
                    .ok data := readData
              rw [sameData]
              rfl
        · rfl

theorem readFrames_contents (reads : Nat) (pieces : List Piece) :
    readFrames reads pieces = readFrames reads (contents pieces) := by
  induction reads generalizing pieces with
  | zero => rfl
  | succ reads induction =>
      rw [readFrames, readFrames, ← readFrame_contents]
      cases readFrame pieces with
      | frame frame rest => simp only [FrameRead.map, induction rest]
      | closed => rfl
      | failed error => rfl

/-! ## The stream theorem -/

/--
What is left of `rest` when a stream of frames is cut: nothing, or a strict
prefix of the bytes of its first frame.
-/
def CutOf (cut : Bytes) (rest : List Frame) : Prop :=
  (cut = [] ∧ rest = []) ∨
    ∃ next others missing, rest = next :: others ∧ missing ≠ [] ∧
      cut ++ missing = frameBytes next

/-- Reading a stream cut at any byte. -/
theorem readFrames_cut {whole rest : List Frame} {cut : Bytes}
    (wholeFits : ∀ frame ∈ whole, frame.data.length ≤ maxPayload)
    (restFits : ∀ frame ∈ rest, frame.data.length ≤ maxPayload)
    (isCut : CutOf cut rest) {reads : Nat} (enough : whole.length < reads) :
    readFrames reads (framesBytes whole ++ cut) =
      (whole,
        if cut.length < hdrLen then .closed
        else .failed (.io .unexpectedEof)) := by
  rcases Nat.exists_eq_add_of_lt enough with ⟨more, rfl⟩
  rw [Nat.add_assoc, readFrames_framesBytes_append wholeFits, readFrames]
  by_cases short : cut.length < hdrLen
  · rw [readFrame_short short, if_pos short]
    simp
  · rcases isCut with ⟨rfl, rfl⟩ | ⟨next, others, missing, rfl, some, shape⟩
    · simp [hdrLen] at short
    · rw [readFrame_cut (restFits next List.mem_cons_self) some shape
          (Nat.le_of_not_lt short), if_neg short]
      simp

/--
The codec is lossless on streams: what `write_frame` wrote is read back frame
by frame in whatever pieces it arrives; a stream cut anywhere yields exactly
the frames that lie wholly before the cut; whatever `read_frame` accepts is
what `write_frame` would have written; and a payload above the limit is
refused with the sink untouched.
-/
theorem stream_lossless (frames : List Frame)
    (fits : ∀ frame ∈ frames, frame.data.length ≤ maxPayload) :
    (writeFrames [] frames).2 = .ok () ∧
      (∀ (pieces : List Piece) (reads : Nat),
        contents pieces = (writeFrames [] frames).1 →
          frames.length < reads →
            readFrames reads pieces = (frames, .closed)) ∧
      (∀ (part : Bytes) (pieces : List Piece) (reads : Nat),
        part <+: (writeFrames [] frames).1 → contents pieces = part →
          frames.length < reads →
            ∃ whole rest cut, frames = whole ++ rest ∧
              part = (writeFrames [] whole).1 ++ cut ∧ CutOf cut rest ∧
              readFrames reads pieces =
                (whole,
                  if cut.length < hdrLen then .closed
                  else .failed (.io .unexpectedEof))) ∧
      (∀ (pieces left : List Piece) (frame : Frame),
        readFrame pieces = .frame frame left →
          (writeFrame [] frame).2 = .ok () ∧
            contents pieces = (writeFrame [] frame).1 ++ contents left) ∧
      (∀ (sink : Bytes) (frame : Frame),
        maxPayload < frame.data.length →
          writeFrame sink frame =
            (sink, .error (.payloadTooLong frame.data.length))) := by
  rw [writeFrames_fit fits, List.nil_append]
  refine ⟨rfl, ?_, ?_, ?_, ?_⟩
  · intro pieces reads same enough
    rw [readFrames_contents, same]
    have ending : CutOf [] [] := Or.inl ⟨rfl, rfl⟩
    have read := readFrames_cut fits (by simp) ending enough
    rw [List.append_nil] at read
    rw [read]
    simp [hdrLen]
  · intro part pieces reads shorter same enough
    rcases frameCode.cut_of_isPrefix shorter with
      ⟨whole, rest, cut, rfl, shape, isCut⟩
    have wholeFits : ∀ frame ∈ whole, frame.data.length ≤ maxPayload :=
      fun frame member => fits frame (List.mem_append_left _ member)
    have restFits : ∀ frame ∈ rest, frame.data.length ≤ maxPayload :=
      fun frame member => fits frame (List.mem_append_right _ member)
    have wholeEnough : whole.length < reads := by
      rw [List.length_append] at enough
      omega
    refine ⟨whole, rest, cut, rfl, ?_, isCut, ?_⟩
    · rw [writeFrames_fit wholeFits, List.nil_append]
      exact shape
    · rw [readFrames_contents, same, shape]
      exact readFrames_cut wholeFits restFits isCut wholeEnough
  · intro pieces left frame read
    have flat := readFrame_contents pieces
    rw [read] at flat
    rcases readFrame_sound flat.symm with ⟨frameFits, shape⟩
    rw [writeFrame_fits frameFits, List.nil_append]
    exact ⟨rfl, shape⟩
  · intro sink frame long
    exact writeFrame_tooLong long sink

/-- The two frames that open a server's output. -/
theorem stream_lossless_opening :
    readFrames 3
        [Piece.mk
          (writeFrames []
            [⟨0, cmdPing, utf8 "chicken".toList⟩, ⟨0, cmdRoutes, []⟩]).1
          (by decide)] =
      ([⟨0, cmdPing, utf8 "chicken".toList⟩, ⟨0, cmdRoutes, []⟩],
        .closed) :=
  (stream_lossless
    [⟨0, cmdPing, utf8 "chicken".toList⟩, ⟨0, cmdRoutes, []⟩]
    (by decide)).2.1 _ 3 (by simp [contents]) (by decide)

end KubectlSshuttle.Rushtle.Ssnet
