import KubectlSshuttle.Rushtle.Client
import KubectlSshuttle.Rushtle.SsnetStream

/-!
# The link probe

`probe_once` writes a burst of `PING` frames and collects the answers until it
has one on every probe channel, or until something else ends it.
`ensure_link` switches the frame delay on after a first failure and probes a
second time, on the same pipe with the same burst.

What arrives is a list of events in the order in which the running probe sees
them; the expiry of its timer is one of them.  An arriving frame may carry
more than the probe can see of it, so that an analysis can say which `PING` it
answers.
-/

namespace KubectlSshuttle.Rushtle.Probe

open KubectlSshuttle.Lib.RustText
open KubectlSshuttle.Rushtle.Ssnet

/-! ## One probe -/

/-- What a probe fails with. -/
inductive ProbeError where
  /-- `sending probe PING #{i} (ch={ch})` -/
  | sending (index : Nat) (error : Error)
  /-- `probe PONG #{idx} payload mismatch` -/
  | mismatch (index received expected : Nat)
  /-- `EOF on remote stdout during probe` -/
  | eof
  | reading (error : Error)
  /-- `probe timeout after {PROBE_TIMEOUT:?}, lost {}/{} PONGs (idx {:?})` -/
  | timeout (lost : List Nat) (total : Nat)
deriving DecidableEq

/-- What a running probe sees. -/
inductive ProbeEvent (Arrived : Type) where
  | frame (arrived : Arrived)
  /-- `read_frame` returns the end of the stream -/
  | closed
  | failed (error : Error)
  /-- the timer of the probe fires -/
  | elapsed
deriving DecidableEq

/-- Which `PONG`s are there, and how many. -/
structure Tally where
  seen : List Bool
  got : Nat
deriving DecidableEq

/-- No PONG has been counted. -/
def Tally.start (payloads : List Bytes) : Tally where
  seen := List.replicate payloads.length false
  got := 0

/-- The indices that are not answered. -/
def Tally.lost (tally : Tally) : List Nat :=
  tally.seen.zipIdx.filterMap fun (seen, index) =>
    if seen then none else some index

/-- `f.channel.wrapping_sub(PROBE_CHANNEL_BASE)` -/
def probeIndex (frame : Frame) : Nat :=
  (frame.channel - UInt16.ofNat probeChannelBase).toNat

/-- What the probe makes of one frame. -/
def Tally.count (payloads : List Bytes) (tally : Tally) (frame : Frame) :
    Except ProbeError Tally :=
  if frame.command = .pong then
    match payloads[probeIndex frame]? with
    | none => .ok tally
    | some expected =>
        if frame.data ≠ expected then
          .error
            (.mismatch (probeIndex frame) frame.data.length expected.length)
        else if tally.seen[probeIndex frame]? = some false then
          .ok
            { seen := tally.seen.set (probeIndex frame) true
              got := tally.got + 1 }
        else .ok tally
  else .ok tally

section Collect

variable {Arrived : Type} (view : Arrived → Frame) (payloads : List Bytes)

/-- How a probe ends, with the events it leaves. -/
abbrev ProbeOutcome (Arrived : Type) :=
  Except ProbeError Unit × List (ProbeEvent Arrived)

/-- The read loop under its timer; `none` stands for a loop that still waits. -/
def collect (tally : Tally) :
    List (ProbeEvent Arrived) → Option (ProbeOutcome Arrived)
  | [] =>
      if tally.got < payloads.length then none else some (.ok (), [])
  | event :: rest =>
      if tally.got < payloads.length then
        match event with
        | .frame arrived =>
            match tally.count payloads (view arrived) with
            | .ok tally => collect tally rest
            | .error error => some (.error error, rest)
        | .closed => some (.error .eof, rest)
        | .failed error => some (.error (.reading error), rest)
        | .elapsed =>
            some (.error (.timeout tally.lost payloads.length), rest)
      else some (.ok (), event :: rest)

/--
`probe_once`; `unwritten` is the first `PING` that cannot be written, if there
is one.
-/
def probeOnce (unwritten : Option (Nat × Error))
    (events : List (ProbeEvent Arrived)) : Option (ProbeOutcome Arrived) :=
  match unwritten with
  | some (index, error) => some (.error (.sending index error), events)
  | none => collect view payloads (.start payloads) events

end Collect

/-! ## The set-up of the link -/

/-- `link probe still failing with FRAME_DELAY={fallback_us}us` -/
structure StillFailing where
  fallbackUs : Nat
  cause : ProbeError
deriving DecidableEq

/-- How the set-up ends, with the frame delay and the events it leaves. -/
structure LinkOutcome (Arrived : Type) where
  result : Except StillFailing Unit
  frameDelayUs : Nat
  left : List (ProbeEvent Arrived)
deriving DecidableEq

/-- `ensure_link`, from a frame delay. -/
def ensureLink {Arrived : Type} (view : Arrived → Frame)
    (fallbackUs frameDelayUs : Nat)
    (firstUnwritten secondUnwritten : Option (Nat × Error))
    (events : List (ProbeEvent Arrived)) : Option (LinkOutcome Arrived) :=
  if fallbackUs = 0 then some ⟨.ok (), frameDelayUs, events⟩
  else
    match probeOnce view makeProbePayloads firstUnwritten events with
    | none => none
    | some (.ok (), left) => some ⟨.ok (), frameDelayUs, left⟩
    | some (.error _, left) =>
        match probeOnce view makeProbePayloads secondUnwritten left with
        | none => none
        | some (.ok (), left) => some ⟨.ok (), fallbackUs, left⟩
        | some (.error cause, left) =>
            some ⟨.error ⟨fallbackUs, cause⟩, fallbackUs, left⟩

/-! ## What one frame does to the tally -/

/-- The tally belongs to the payloads, and its count to its marks. -/
structure Tally.Fits (payloads : List Bytes) (tally : Tally) : Prop where
  size : tally.seen.length = payloads.length
  counted : tally.got = tally.seen.count true

theorem Tally.fits_start (payloads : List Bytes) :
    (Tally.start payloads).Fits payloads where
  size := by simp [Tally.start]
  counted := by simp [Tally.start, List.count_replicate]

/-- The probe channel that a `PONG` is on. -/
def pongIndex (payloads : List Bytes) (frame : Frame) : Option Nat :=
  if frame.command = .pong ∧ probeIndex frame < payloads.length then
    some (probeIndex frame)
  else none

/-- A frame that passes is skipped, a repetition, or a new answer. -/
theorem Tally.count_cases {payloads : List Bytes} {tally next : Tally}
    {frame : Frame} (fits : tally.Fits payloads)
    (counted : tally.count payloads frame = .ok next) :
    (next = tally ∧ ∀ index, pongIndex payloads frame = some index →
        tally.seen[index]? = some true) ∨
      ∃ index, pongIndex payloads frame = some index ∧
        payloads[index]? = some frame.data ∧
        tally.seen[index]? = some false ∧
        next = ⟨tally.seen.set index true, tally.got + 1⟩ := by
  unfold Tally.count at counted
  split at counted
  · next pong =>
      split at counted
      · next absent =>
          rcases Except.ok.inj counted with rfl
          refine .inl ⟨rfl, fun index on => ?_⟩
          have outside := List.getElem?_eq_none_iff.mp absent
          have inside : ¬ probeIndex frame < payloads.length := by omega
          simp [pongIndex, inside] at on
      · next expected present =>
          have inside := (List.getElem?_eq_some_iff.mp present).1
          have on : pongIndex payloads frame = some (probeIndex frame) :=
            if_pos ⟨pong, inside⟩
          split at counted
          · cases counted
          · next same =>
              rw [not_ne_iff] at same
              split at counted
              · next unseen =>
                  rcases Except.ok.inj counted with rfl
                  exact .inr ⟨probeIndex frame, on,
                    by rw [present, same], unseen, rfl⟩
              · next seen =>
                  rcases Except.ok.inj counted with rfl
                  refine .inl ⟨rfl, fun index there => ?_⟩
                  rcases Option.some.inj (on.symm.trans there) with rfl
                  have bound : probeIndex frame < tally.seen.length := by
                    rw [fits.size]
                    exact inside
                  rw [List.getElem?_eq_getElem bound] at seen ⊢
                  simpa using seen
  · next other =>
      rcases Except.ok.inj counted with rfl
      exact .inl ⟨rfl, fun index on => by simp [pongIndex, other] at on⟩

theorem Tally.Fits.count {payloads : List Bytes} {tally next : Tally}
    {frame : Frame} (fits : tally.Fits payloads)
    (counted : tally.count payloads frame = .ok next) :
    next.Fits payloads := by
  rcases Tally.count_cases fits counted with
    ⟨rfl, _⟩ | ⟨index, _, _, unseen, rfl⟩
  · exact fits
  · rcases List.getElem?_eq_some_iff.mp unseen with ⟨bound, mark⟩
    constructor
    · simpa using fits.size
    · have marks := List.count_set (a := true) (b := true) bound
      simp [marks, mark, fits.counted]

/-- A full tally has every mark. -/
theorem Tally.Fits.seen_of_full {payloads : List Bytes} {tally : Tally}
    (fits : tally.Fits payloads) (full : ¬ tally.got < payloads.length)
    {index : Nat} : tally.seen[index]? ≠ some false := by
  intro unseen
  have all : tally.seen.count true = tally.seen.length := by
    apply Nat.le_antisymm List.count_le_length
    rw [← fits.counted, fits.size]
    omega
  have member := List.mem_of_getElem? unseen
  have := List.count_eq_length.mp all false member
  cases this

end KubectlSshuttle.Rushtle.Probe
