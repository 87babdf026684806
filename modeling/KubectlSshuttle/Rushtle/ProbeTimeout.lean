import KubectlSshuttle.Rushtle.Probe

/-!
# What a probe's timeout leaves on the pipe

The timer of a probe drops the `read_frame` that is waiting when it fires.
What this call has already taken off the pipe, part of a header or a header
and part of a payload, is lost with it, and the next `read_frame` starts in
the middle of a frame.
-/

namespace KubectlSshuttle.Rushtle.Probe

open KubectlSshuttle.Lib
open KubectlSshuttle.Lib.RustText
open KubectlSshuttle.Rushtle.Ssnet

/-! ## The read loop on bytes -/

theorem length_of_readFrame {pieces rest : List Piece} {frame : Frame}
    (read : readFrame pieces = .frame frame rest) :
    (contents rest).length < (contents pieces).length := by
  have flat := readFrame_contents pieces
  rw [read] at flat
  have split := (readFrame_sound flat.symm).2
  have positive := List.length_pos_of_ne_nil (frameBytes_ne_nil frame)
  rw [split, List.length_append]
  omega

/-- What a `read_frame` that rejects a header leaves. -/
def behindHeader (pieces : List Piece) : List Piece :=
  match readPieces hdrLen pieces with
  | .ok (_, rest) => rest
  | .error _ => []

/--
The read loop of a probe whose timer fires behind the pieces `before`, and
what it leaves of the stream.  A `read_frame` that needs more bytes takes all
there are and is dropped by the timer.
-/
def collectTimed (payloads : List Bytes) (tally : Tally)
    (before after : List Piece) : Except ProbeError Unit × List Piece :=
  if tally.got < payloads.length then
    match _read : readFrame before with
    | .frame frame rest =>
        match tally.count payloads frame with
        | .ok tally => collectTimed payloads tally rest after
        | .error error => (.error error, rest ++ after)
    | .closed | .failed (.io .unexpectedEof) =>
        (.error (.timeout tally.lost payloads.length), after)
    | .failed error =>
        (.error (.reading error), behindHeader before ++ after)
  else (.ok (), before ++ after)
termination_by (contents before).length
decreasing_by exact length_of_readFrame _read

/-- `probe_once` on bytes, after a burst that could be written. -/
def probeTimed (payloads : List Bytes) (before after : List Piece) :
    Except ProbeError Unit × List Piece :=
  collectTimed payloads (.start payloads) before after

section Steps

variable {payloads : List Bytes} {tally : Tally} {before after : List Piece}

theorem collectTimed_frame (open_ : tally.got < payloads.length)
    {frame : Frame} {rest : List Piece} {next : Tally}
    (read : readFrame before = .frame frame rest)
    (counted : tally.count payloads frame = .ok next) :
    collectTimed payloads tally before after =
      collectTimed payloads next rest after := by
  rw [collectTimed, if_pos open_]
  split <;> simp_all

/-- A `read_frame` that lacks bytes waits for the timer. -/
theorem collectTimed_waiting (open_ : tally.got < payloads.length)
    (waiting : readFrame before = .closed ∨
      readFrame before = .failed (.io .unexpectedEof)) :
    collectTimed payloads tally before after =
      (.error (.timeout tally.lost payloads.length), after) := by
  rw [collectTimed, if_pos open_]
  rcases waiting with read | read <;> split <;> simp_all

end Steps

/-! ## The frames behind the bytes -/

/-- `read_frame` on pieces, by what it does on their bytes. -/
theorem readFrame_pieces {pieces : List Piece} {frame : Frame}
    {left : Bytes} (read : readFrame (contents pieces) = .frame frame left) :
    ∃ rest, readFrame pieces = .frame frame rest ∧ contents rest = left := by
  have flat := readFrame_contents pieces
  rw [read] at flat
  cases found : readFrame pieces with
  | frame other rest =>
      rw [found] at flat
      rcases FrameRead.frame.inj flat with ⟨rfl, same⟩
      exact ⟨rest, rfl, same⟩
  | closed =>
      rw [found] at flat
      cases flat
  | failed error =>
      rw [found] at flat
      cases flat

/-- A cut frame keeps `read_frame` waiting. -/
theorem readFrame_waiting {pieces : List Piece} {rest : List Frame}
    (fits : ∀ frame ∈ rest, frame.data.length ≤ maxPayload)
    (isCut : CutOf (contents pieces) rest) :
    readFrame pieces = .closed ∨
      readFrame pieces = .failed (.io .unexpectedEof) := by
  have flat := readFrame_contents pieces
  have waiting : readFrame (contents pieces) = .closed ∨
      readFrame (contents pieces) = .failed (.io .unexpectedEof) := by
    by_cases short : (contents pieces).length < hdrLen
    · exact .inl (readFrame_short short)
    · rcases isCut with ⟨empty, _⟩ | ⟨next, others, missing, rfl, some, shape⟩
      · simp [empty, hdrLen] at short
      · exact .inr (readFrame_cut (fits next List.mem_cons_self) some shape
          (Nat.le_of_not_lt short))
  cases found : readFrame pieces with
  | frame frame left =>
      rw [← flat, found] at waiting
      rcases waiting with never | never <;> cases never
  | closed => exact .inl rfl
  | failed error =>
      rw [← flat, found] at waiting
      rcases waiting with never | same
      · cases never
      · exact .inr (by rw [FrameRead.failed.inj same])

/--
On bytes, the read loop ends as on the frames that they make up, with the
timer behind them.  The induction is on these frames.
-/
theorem collect_of_collectTimed {payloads : List Bytes} {tally : Tally}
    {whole rest : List Frame} {before after : List Piece} {cut : Bytes}
    (wholeFits : ∀ frame ∈ whole, frame.data.length ≤ maxPayload)
    (restFits : ∀ frame ∈ rest, frame.data.length ≤ maxPayload)
    (isCut : CutOf cut rest)
    (arrived : contents before = framesBytes whole ++ cut) :
    ∃ left, collect id payloads tally
        (whole.map ProbeEvent.frame ++ [.elapsed]) =
      some ((collectTimed payloads tally before after).1, left) := by
  induction whole generalizing tally before with
  | nil =>
      by_cases open_ : tally.got < payloads.length
      · have same : contents before = cut := by simpa using arrived
        rw [collectTimed_waiting open_
          (readFrame_waiting restFits (by rwa [same]))]
        exact ⟨[], by simp [collect, open_]⟩
      · rw [collectTimed, if_neg open_]
        exact ⟨[.elapsed], by simp [collect, open_]⟩
  | cons frame others induction =>
      by_cases open_ : tally.got < payloads.length
      · have bytes : readFrame (contents before) =
            .frame frame (framesBytes others ++ cut) := by
          have split : contents before =
              frameBytes frame ++ (framesBytes others ++ cut) := by
            rw [arrived, ← List.append_assoc]
            exact congrArg (· ++ cut) (frameCode.encodeAll_cons frame others)
          rw [split]
          exact readFrame_frameBytes frame _
            (wholeFits frame List.mem_cons_self)
        rcases readFrame_pieces bytes with ⟨pieces, read, left⟩
        cases counted : tally.count payloads frame with
        | error error =>
            rw [collectTimed, if_pos open_]
            refine ⟨others.map ProbeEvent.frame ++ [.elapsed], ?_⟩
            split <;> simp_all [collect]
        | ok next =>
            have othersFit : ∀ other ∈ others,
                other.data.length ≤ maxPayload := fun other member =>
              wholeFits other (List.mem_cons_of_mem _ member)
            rcases @induction next _ othersFit left with ⟨events, collected⟩
            refine ⟨events, ?_⟩
            rw [collectTimed_frame open_ read counted, ← collected,
              List.map_cons, List.cons_append, collect, if_pos open_]
            dsimp only [id]
            rw [counted]
      · rw [collectTimed, if_neg open_]
        exact ⟨(frame :: others).map ProbeEvent.frame ++ [.elapsed],
          by simp [collect, open_]⟩

/-! ## What is left -/

/-- A frame can only fail a probe by its payload. -/
theorem Tally.count_error {payloads : List Bytes} {tally : Tally}
    {frame : Frame} {error : ProbeError}
    (rejected : tally.count payloads frame = .error error) :
    ∃ index received expected,
      error = .mismatch index received expected := by
  unfold Tally.count at rejected
  split at rejected
  · split at rejected
    · cases rejected
    · split at rejected
      · exact ⟨_, _, _, (Except.error.inj rejected).symm⟩
      · split at rejected <;> cases rejected
  · cases rejected

/-- Everything that arrives before the timer fires is gone. -/
theorem left_of_timeout {payloads : List Bytes} {tally : Tally}
    {before after left : List Piece} {lost : List Nat} {total : Nat}
    (timedOut : collectTimed payloads tally before after =
      (.error (.timeout lost total), left)) : left = after := by
  fun_induction collectTimed payloads tally before after with
  | case1 tally before open_ frame rest read next counted induction =>
      exact induction timedOut
  | case2 tally before open_ frame rest read error rejected =>
      rcases Tally.count_error rejected with ⟨index, received, expected, rfl⟩
      cases timedOut
  | case3 => exact (Prod.mk.inj timedOut).2.symm
  | case4 => exact (Prod.mk.inj timedOut).2.symm
  | case5 => cases timedOut
  | case6 => cases timedOut

/-- The stream goes on with the first byte of a frame. -/
def OnBoundary (frames : List Frame) (left : List Piece) : Prop :=
  ∃ read remaining, frames = read ++ remaining ∧
    contents left = framesBytes remaining ∧
    ∀ reads, remaining.length < reads →
      readFrames reads left = (remaining, .closed)

/--
A probe that times out on a stream of frames leaves it on the boundary of a
frame, so that the frames behind are decoded, exactly if the bytes that
arrived before its timer fired are whole frames.
-/
theorem timeout_onBoundary_iff {frames : List Frame}
    (fits : ∀ frame ∈ frames, frame.data.length ≤ maxPayload)
    {payloads : List Bytes} {before after left : List Piece}
    (stream : contents before ++ contents after = framesBytes frames)
    {lost : List Nat} {total : Nat}
    (timedOut : probeTimed payloads before after =
      (.error (.timeout lost total), left)) :
    OnBoundary frames left ↔
      ∃ whole, whole <+: frames ∧ contents before = framesBytes whole := by
  rcases left_of_timeout timedOut with rfl
  have both (first second : List Frame) : framesBytes (first ++ second) =
      framesBytes first ++ framesBytes second :=
    frameCode.encodeAll_append first second
  constructor
  · rintro ⟨read, remaining, rfl, rest, _⟩
    rw [rest, both] at stream
    exact ⟨read, List.prefix_append read remaining,
      List.append_cancel_right stream⟩
  · rintro ⟨read, ⟨remaining, rfl⟩, arrived⟩
    rw [arrived, both] at stream
    have rest : contents left = framesBytes remaining :=
      List.append_cancel_left stream
    have remainingFits : ∀ frame ∈ remaining,
        frame.data.length ≤ maxPayload :=
      fun frame member => fits frame (List.mem_append_right _ member)
    refine ⟨read, remaining, rfl, rest, fun reads enough => ?_⟩
    rw [readFrames_contents, rest]
    have decoded := readFrames_cut remainingFits (by simp)
      (.inl ⟨rfl, rfl⟩ : CutOf [] []) enough
    simpa [hdrLen] using decoded

/-! ## A timer that fires between and within two frames -/

/-- What a server writes first. -/
def opening : List Frame :=
  [⟨0, cmdPing, utf8 "chicken".toList⟩, ⟨0, cmdRoutes, []⟩]

/-- The first frame of the server. -/
def chickenPiece : Piece where
  bytes := frameBytes ⟨0, cmdPing, utf8 "chicken".toList⟩
  nonempty := by decide

/-- Its second frame. -/
def routesPiece : Piece where
  bytes := frameBytes ⟨0, cmdRoutes, []⟩
  nonempty := by decide

/-- The timer fires between the two frames. -/
theorem timeout_onBoundary_between : OnBoundary opening [routesPiece] := by
  have read : readFrame [chickenPiece] =
      .frame ⟨0, cmdPing, utf8 "chicken".toList⟩ [] := by rfl
  have waiting : readFrame ([] : List Piece) = .closed := rfl
  have timedOut : probeTimed makeProbePayloads [chickenPiece]
      [routesPiece] = (.error (.timeout (List.range 16) 16),
        [routesPiece]) := by
    rw [probeTimed, collectTimed_frame (by decide) read rfl,
      collectTimed_waiting (by decide) (.inl waiting)]
    rfl
  have fits : ∀ frame ∈ opening, frame.data.length ≤ maxPayload := by decide
  exact (timeout_onBoundary_iff fits rfl timedOut).mpr
    ⟨[⟨0, cmdPing, utf8 "chicken".toList⟩], by decide, rfl⟩

/-- The first three bytes of a header. -/
def cutPiece : Piece where
  bytes := (framesBytes opening).take 3
  nonempty := by decide

/-- What is left of both once three bytes are lost. -/
def latePiece : Piece where
  bytes := (framesBytes opening).drop 3
  nonempty := by decide

/--
The timer fires behind three bytes of a header, and the next `read_frame`
takes the channel for the magic.
-/
theorem timeout_within_header :
    contents [cutPiece] ++ contents [latePiece] = framesBytes opening ∧
      probeTimed makeProbePayloads [cutPiece] [latePiece] =
        (.error (.timeout (List.range 16) 16), [latePiece]) ∧
      ¬ OnBoundary opening [latePiece] ∧
      readFrame [latePiece] = .failed (.badMagic 0 0x42) := by
  have misread : readFrame [latePiece] = .failed (.badMagic 0 0x42) := rfl
  have waiting : readFrame [cutPiece] = .closed := rfl
  refine ⟨rfl, ?_, ?_, misread⟩
  · rw [probeTimed, collectTimed_waiting (by decide) (.inl waiting)]
    rfl
  · rintro ⟨read, remaining, _, _, decoded⟩
    have next := decoded (remaining.length + 1) (Nat.lt_succ_self _)
    rw [readFrames, misread] at next
    cases next

end KubectlSshuttle.Rushtle.Probe
