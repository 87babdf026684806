import KubectlSshuttle.Rushtle.Probe

/-!
# What a probe decides

A probe passes exactly if the frames that arrive have a front part in which
every `PING` is answered and no probe channel carries anything else.  The
invariant of the read loop ties its marks and its counter to the frames that
it has consumed.
-/

namespace KubectlSshuttle.Rushtle.Probe

open KubectlSshuttle.Lib.RustText
open KubectlSshuttle.Rushtle.Ssnet

/-! ## Frames on the probe channels -/

section Frames

variable (payloads : List Bytes)

/-- The frame is a `PONG` on the probe channel of that index. -/
structure OnProbe (index : Nat) (frame : Frame) : Prop where
  pong : frame.command = .pong
  channel : frame.channel.toNat = probeChannelBase + index

/-- It carries exactly the payload of that index. -/
structure Answers (index : Nat) (frame : Frame) : Prop where
  on : OnProbe index frame
  data : payloads[index]? = some frame.data

/-- A probe channel carries another payload than its own. -/
def Mismatches (frame : Frame) : Prop :=
  ∃ index expected, payloads[index]? = some expected ∧
    OnProbe index frame ∧ frame.data ≠ expected

/-- Every payload has come back. -/
def AllAnswered (frames : List Frame) : Prop :=
  ∀ index < payloads.length, ∃ frame ∈ frames, Answers payloads index frame

/-- Some front part answers every payload and mismatches none. -/
def Passes (frames : List Frame) : Prop :=
  ∃ front, front <+: frames ∧ AllAnswered payloads front ∧
    ∀ frame ∈ front, ¬ Mismatches payloads frame

/--
The frame is no `PONG`, is on a channel below or above the probe channels, or
has been there before.
-/
def Foreign (earlier : List Frame) (frame : Frame) : Prop :=
  frame.command ≠ .pong ∨ frame.channel.toNat < probeChannelBase ∨
    probeChannelBase + payloads.length ≤ frame.channel.toNat ∨
      frame ∈ earlier

end Frames

/-- What ends the frames that arrive. -/
inductive ProbeEnd where
  | closed
  | failed (error : Error)
  | elapsed

/-- The end as an event of the probe. -/
def ProbeEnd.event : ProbeEnd → ProbeEvent Frame
  | .closed => .closed
  | .failed error => .failed error
  | .elapsed => .elapsed

/-- The events of a probe that sees these frames. -/
def eventsOf (frames : List Frame) (ending : ProbeEnd) :
    List (ProbeEvent Frame) :=
  frames.map ProbeEvent.frame ++ [ending.event]

/-- What `probe_once` returns, when all `PING`s can be written. -/
def probeResult (payloads : List Bytes) (frames : List Frame)
    (ending : ProbeEnd) : Option (Except ProbeError Unit) :=
  (probeOnce id payloads none (eventsOf frames ending)).map Prod.fst

/-! ## Channels and indices -/

theorem probeIndex_eq_iff {index : Nat} (small : index < 256)
    {frame : Frame} :
    probeIndex frame = index ↔
      frame.channel.toNat = probeChannelBase + index := by
  have bound := frame.channel.toNat_lt
  have base : (UInt16.ofNat probeChannelBase).toNat = 65280 := rfl
  have same : probeChannelBase = 65280 := rfl
  rw [probeIndex, UInt16.toNat_sub, base, same]
  omega

section Count

variable {payloads : List Bytes} {frame : Frame}

theorem pongIndex_eq_some_iff (few : payloads.length ≤ 256) {index : Nat} :
    pongIndex payloads frame = some index ↔
      index < payloads.length ∧ OnProbe index frame := by
  rw [pongIndex, Option.ite_none_right_eq_some, Option.some.injEq]
  constructor
  · rintro ⟨⟨pong, within⟩, rfl⟩
    exact ⟨within, pong, (probeIndex_eq_iff (by omega)).mp rfl⟩
  · rintro ⟨within, on⟩
    have same := (probeIndex_eq_iff (by omega)).mpr on.channel
    exact ⟨⟨on.pong, same ▸ within⟩, same⟩

/-- A frame is rejected only for a mismatch. -/
theorem Tally.mismatches_of_count (few : payloads.length ≤ 256)
    {tally : Tally} {error : ProbeError}
    (counted : tally.count payloads frame = .error error) :
    Mismatches payloads frame ∧ ∃ index received expected,
      error = .mismatch index received expected := by
  rw [Tally.count] at counted
  split at counted
  · next pong =>
      split at counted
      · cases counted
      · next expected present =>
          split at counted
          · next differs =>
              have within := (List.getElem?_eq_some_iff.mp present).1
              rw [← Except.error.inj counted]
              refine ⟨⟨_, expected, present, ⟨pong, ?_⟩, differs⟩,
                _, _, _, rfl⟩
              exact (probeIndex_eq_iff (by omega)).mp rfl
          · split at counted <;> cases counted
  · cases counted

theorem Tally.count_of_mismatches (few : payloads.length ≤ 256)
    (mismatches : Mismatches payloads frame) (tally : Tally) :
    ∃ error, tally.count payloads frame = .error error := by
  rcases mismatches with ⟨index, expected, present, on, differs⟩
  have within := (List.getElem?_eq_some_iff.mp present).1
  have same := (probeIndex_eq_iff (by omega)).mpr on.channel
  rw [Tally.count, if_pos on.pong, same, present]
  exact ⟨_, if_pos differs⟩

end Count

/-! ## The invariant of the read loop -/

/-- What the tally says about the frames consumed. -/
structure Tally.After (payloads : List Bytes) (consumed : List Frame)
    (tally : Tally) : Prop where
  fits : tally.Fits payloads
  clean : ∀ frame ∈ consumed, ¬ Mismatches payloads frame
  marks : ∀ index, tally.seen[index]? = some true ↔
    ∃ frame ∈ consumed, Answers payloads index frame

section Loop

variable {payloads : List Bytes} {consumed : List Frame}
  {tally next : Tally} {frame : Frame}

theorem Tally.after_start (payloads : List Bytes) :
    (Tally.start payloads).After payloads [] where
  fits := Tally.fits_start payloads
  clean := by simp
  marks := by simp [Tally.start, List.getElem?_replicate]

/-- Every frame that passes is consumed. -/
theorem Tally.After.count (few : payloads.length ≤ 256)
    (after : tally.After payloads consumed)
    (counted : tally.count payloads frame = .ok next) :
    next.After payloads (consumed ++ [frame]) := by
  have fitting : ¬ Mismatches payloads frame := by
    intro mismatches
    rcases Tally.count_of_mismatches few mismatches tally with
      ⟨error, rejected⟩
    rw [counted] at rejected
    cases rejected
  refine ⟨after.fits.count counted, ?_, ?_⟩
  · intro other member
    rcases List.mem_append.mp member with old | new
    · exact after.clean other old
    · rw [List.mem_singleton.mp new]
      exact fitting
  · intro index
    have extend : (∃ other ∈ consumed ++ [frame],
        Answers payloads index other) ↔
          (∃ other ∈ consumed, Answers payloads index other) ∨
            Answers payloads index frame := by
      simp [or_and_right, exists_or]
    rw [extend, ← after.marks]
    rcases Tally.count_cases after.fits counted with
      ⟨rfl, known⟩ | ⟨here, on, data, unseen, rfl⟩
    · refine ⟨.inl, fun answered => answered.elim id fun answers => ?_⟩
      have within := (List.getElem?_eq_some_iff.mp answers.data).1
      exact known index
        ((pongIndex_eq_some_iff few).mpr ⟨within, answers.on⟩)
    · rw [pongIndex_eq_some_iff few] at on
      have bound := (List.getElem?_eq_some_iff.mp unseen).1
      by_cases same : index = here
      · subst same
        rw [List.getElem?_set_self bound]
        exact ⟨fun _ => .inr ⟨on.2, data⟩, fun _ => rfl⟩
      · rw [List.getElem?_set_ne (Ne.symm same)]
        refine ⟨.inl, fun answered => answered.elim id fun answers => ?_⟩
        have first := answers.on.channel
        have second := on.2.channel
        omega

theorem Tally.After.full_iff (after : tally.After payloads consumed) :
    ¬ tally.got < payloads.length ↔ AllAnswered payloads consumed := by
  have size := after.fits.size
  constructor
  · intro full index within
    rw [← after.marks]
    have bound : index < tally.seen.length := by omega
    rw [List.getElem?_eq_getElem bound]
    have unseen : tally.seen[index]? ≠ some false :=
      after.fits.seen_of_full full
    rw [List.getElem?_eq_getElem bound] at unseen
    simpa using unseen
  · intro all
    have marked : tally.seen.count true = tally.seen.length := by
      rw [List.count_eq_length]
      intro mark member
      rcases List.getElem_of_mem member with ⟨index, bound, rfl⟩
      have seen := (after.marks index).mpr (all index (by omega))
      rw [List.getElem?_eq_getElem bound] at seen
      exact (Option.some.inj seen).symm
    rw [after.fits.counted, marked]
    omega

/-- A frame without influence leaves the tally alone. -/
theorem Tally.After.count_foreign (few : payloads.length ≤ 256)
    (after : tally.After payloads consumed)
    (foreign : Foreign payloads consumed frame) :
    tally.count payloads frame = .ok tally := by
  have fitting : ¬ Mismatches payloads frame := by
    rintro ⟨index, expected, present, on, differs⟩
    have within := (List.getElem?_eq_some_iff.mp present).1
    have channel := on.channel
    rcases foreign with other | below | above | old
    · exact other on.pong
    · omega
    · omega
    · exact after.clean frame old ⟨index, expected, present, on, differs⟩
  cases counted : tally.count payloads frame with
  | error error =>
      exact (fitting (Tally.mismatches_of_count few counted).1).elim
  | ok next =>
      rcases Tally.count_cases after.fits counted with
        ⟨rfl, _⟩ | ⟨here, on, data, unseen, rfl⟩
      · rfl
      · rw [pongIndex_eq_some_iff few] at on
        have channel := on.2.channel
        rcases foreign with other | below | above | old
        · exact (other on.2.pong).elim
        · omega
        · omega
        · have seen := (after.marks here).mpr ⟨frame, old, on.2, data⟩
          rw [unseen] at seen
          cases seen

/-! ## The marks that a timeout reports -/

theorem Tally.mem_lost {index : Nat} :
    index ∈ tally.lost ↔ tally.seen[index]? = some false := by
  simp only [Tally.lost, List.mem_filterMap, Prod.exists,
    List.mem_zipIdx_iff_getElem?]
  constructor
  · rintro ⟨seen, place, found, picked⟩
    cases seen with
    | true => simp at picked
    | false =>
        rcases Option.some.inj picked with rfl
        simpa using found
  · intro unseen
    exact ⟨false, index, by simpa using unseen, rfl⟩

theorem Tally.pairwise_lost (tally : Tally) :
    tally.lost.Pairwise (· < ·) := by
  rw [Tally.lost, List.pairwise_filterMap]
  have ordered : (tally.seen.zipIdx.map Prod.snd).Pairwise (· < ·) := by
    rw [List.zipIdx_map_snd]
    exact List.pairwise_lt_range'
  refine (List.pairwise_map.mp ordered).imp ?_
  intro first second before left leftPicked right rightPicked
  rcases first with ⟨_ | _, firstPlace⟩ <;>
    rcases second with ⟨_ | _, secondPlace⟩ <;>
      simp at leftPicked rightPicked
  subst leftPicked rightPicked
  exact before

/-- The indices reported lost are those without an answer. -/
theorem Tally.After.mem_lost_iff (after : tally.After payloads consumed)
    {index : Nat} :
    index ∈ tally.lost ↔ index < payloads.length ∧
      ∀ frame ∈ consumed, ¬ Answers payloads index frame := by
  have size := after.fits.size
  have marks := after.marks index
  rw [Tally.mem_lost]
  by_cases within : index < payloads.length
  · have bound : index < tally.seen.length := by omega
    rw [List.getElem?_eq_getElem bound] at marks ⊢
    cases mark : tally.seen[index] with
    | true => simpa [mark, within] using marks
    | false => simpa [mark, within] using marks
  · have outside : tally.seen[index]? = none :=
      List.getElem?_eq_none (by omega)
    simp [outside, within]

/-! ## How the read loop ends -/

/-- The error that an end of the frames makes of an open probe. -/
def ProbeEnd.error (payloads : List Bytes) (tally : Tally) :
    ProbeEnd → ProbeError
  | .closed => .eof
  | .failed error => .reading error
  | .elapsed => .timeout tally.lost payloads.length

/-- Why the loop ends, after the frames consumed and those that follow. -/
inductive Verdict (payloads : List Bytes) (consumed frames : List Frame)
    (ending : ProbeEnd) : Except ProbeError Unit → Prop where
  | passed {front rest : List Frame} (split : frames = front ++ rest)
      (all : AllAnswered payloads (consumed ++ front))
      (clean : ∀ frame ∈ consumed ++ front, ¬ Mismatches payloads frame) :
      Verdict payloads consumed frames ending (.ok ())
  | mismatched {front rest : List Frame} {frame : Frame}
      {index received expected : Nat} (split : frames = front ++ frame :: rest)
      (missing : ¬ AllAnswered payloads (consumed ++ front))
      (mismatch : Mismatches payloads frame) :
      Verdict payloads consumed frames ending
        (.error (.mismatch index received expected))
  | ended {tally : Tally} (after : tally.After payloads (consumed ++ frames))
      (missing : ¬ AllAnswered payloads (consumed ++ frames)) :
      Verdict payloads consumed frames ending
        (.error (ending.error payloads tally))

/-- One more frame is consumed. -/
theorem Verdict.cons {frames : List Frame} {ending : ProbeEnd}
    {result : Except ProbeError Unit}
    (verdict :
      Verdict payloads (consumed ++ [frame]) frames ending result) :
    Verdict payloads consumed (frame :: frames) ending result := by
  have shift (front : List Frame) :
      consumed ++ [frame] ++ front = consumed ++ frame :: front := by simp
  cases verdict with
  | passed split all clean =>
      rw [shift] at all clean
      exact .passed (congrArg (frame :: ·) split) all clean
  | mismatched split missing mismatch =>
      rw [shift] at missing
      exact .mismatched (congrArg (frame :: ·) split) missing mismatch
  | ended after missing =>
      rw [shift] at after missing
      exact .ended after missing

/-- A loop that has every answer ends at once. -/
theorem collect_of_full (full : ¬ tally.got < payloads.length)
    (events : List (ProbeEvent Frame)) :
    collect id payloads tally events = some (.ok (), events) := by
  cases events with
  | nil => simp [collect, full]
  | cons event rest => simp [collect, full]

theorem Verdict.of_full (after : tally.After payloads consumed)
    (full : ¬ tally.got < payloads.length) (frames : List Frame)
    (ending : ProbeEnd) : Verdict payloads consumed frames ending (.ok ()) := by
  have all := after.full_iff.mp full
  have clean := after.clean
  rw [← List.append_nil consumed] at all clean
  exact .passed (List.nil_append frames).symm all clean

/--
The loop always ends, for one of these reasons.  The induction is on the
frames that are still to come; the tally keeps what it says about those that
are consumed.
-/
theorem verdict_of_collect (few : payloads.length ≤ 256)
    (after : tally.After payloads consumed) (frames : List Frame)
    (ending : ProbeEnd) :
    ∃ result left, collect id payloads tally (eventsOf frames ending) =
        some (result, left) ∧
      Verdict payloads consumed frames ending result := by
  induction frames generalizing consumed tally with
  | nil =>
      by_cases open_ : tally.got < payloads.length
      · have missing := after.full_iff.not.mp (not_not.mpr open_)
        refine ⟨.error (ending.error payloads tally), [], ?_, ?_⟩
        · cases ending <;>
            simp [eventsOf, ProbeEnd.event, collect, open_, ProbeEnd.error]
        · rw [← List.append_nil consumed] at after missing
          exact .ended after missing
      · exact ⟨.ok (), _, collect_of_full open_ _, .of_full after open_ _ _⟩
  | cons frame rest induction =>
      by_cases open_ : tally.got < payloads.length
      · have missing := after.full_iff.not.mp (not_not.mpr open_)
        simp only [eventsOf, List.map_cons, List.cons_append, collect, open_,
          if_true, id_eq]
        cases counted : tally.count payloads frame with
        | error error =>
            rcases Tally.mismatches_of_count few counted with
              ⟨mismatches, index, received, expected, rfl⟩
            have split : frame :: rest = [] ++ frame :: rest := rfl
            rw [← List.append_nil consumed] at missing
            exact ⟨_, _, rfl, .mismatched split missing mismatches⟩
        | ok next =>
            rcases induction (after.count few counted) with
              ⟨result, left, done, verdict⟩
            exact ⟨result, left, done, verdict.cons⟩
      · exact ⟨.ok (), _, collect_of_full open_ _, .of_full after open_ _ _⟩

/-- A foreign frame can be left out anywhere. -/
theorem collect_skip (few : payloads.length ≤ 256)
    (after : tally.After payloads consumed) (before : List Frame)
    (foreign : Foreign payloads (consumed ++ before) frame)
    (rest : List Frame) (ending : ProbeEnd) :
    (collect id payloads tally
        (eventsOf (before ++ frame :: rest) ending)).map Prod.fst =
      (collect id payloads tally
        (eventsOf (before ++ rest) ending)).map Prod.fst := by
  induction before generalizing consumed tally with
  | nil =>
      by_cases open_ : tally.got < payloads.length
      · rw [List.append_nil] at foreign
        have same := after.count_foreign few foreign
        simp [eventsOf, collect, open_, same]
      · rw [collect_of_full open_, collect_of_full open_]
        rfl
  | cons first before induction =>
      by_cases open_ : tally.got < payloads.length
      · simp only [eventsOf, List.cons_append, List.map_cons, collect, open_,
          if_true, id_eq]
        cases counted : tally.count payloads first with
        | error error => rfl
        | ok next =>
            apply induction (after.count few counted)
            simpa using foreign
      · rw [collect_of_full open_, collect_of_full open_]
        rfl

end Loop

/-! ## The decision -/

/-- What a single probe decides about the frames that arrive. -/
structure Decides (payloads : List Bytes) (frames : List Frame)
    (ending : ProbeEnd) : Prop where
  returns : ∃ result, probeResult payloads frames ending = some result
  ok_iff : probeResult payloads frames ending = some (.ok ()) ↔
    Passes payloads frames
  /-- foreign and repeated frames do not change the outcome -/
  unchanged : ∀ before frame rest, frames = before ++ frame :: rest →
    Foreign payloads before frame →
      probeResult payloads (before ++ rest) ending =
        probeResult payloads frames ending
  /-- a timeout reports exactly the payloads never answered, in order -/
  timedOut : ending = .elapsed → ¬ Passes payloads frames →
    (∀ frame ∈ frames, ¬ Mismatches payloads frame) →
      ∃ lost, probeResult payloads frames ending =
          some (.error (.timeout lost payloads.length)) ∧
        lost.Pairwise (· < ·) ∧
        ∀ index, index ∈ lost ↔ index < payloads.length ∧
          ∀ frame ∈ frames, ¬ Answers payloads index frame

theorem AllAnswered.mono {payloads : List Bytes} {front frames : List Frame}
    (all : AllAnswered payloads front) (within : front <+: frames) :
    AllAnswered payloads frames := by
  intro index small
  rcases all index small with ⟨frame, member, answers⟩
  exact ⟨frame, within.mem member, answers⟩

/-- A passing front part does not reach a mismatch that ends the loop. -/
theorem not_passes_of_mismatch {payloads : List Bytes}
    {front rest : List Frame} {frame : Frame}
    (missing : ¬ AllAnswered payloads front)
    (mismatch : Mismatches payloads frame) :
    ¬ Passes payloads (front ++ frame :: rest) := by
  rintro ⟨passing, within, all, clean⟩
  have read : front ++ [frame] <+: front ++ frame :: rest :=
    ⟨rest, by simp⟩
  have reached : frame ∈ passing := by
    rcases List.prefix_or_prefix_of_prefix within read with short | long
    · rcases List.prefix_concat_iff.mp short with rfl | shorter
      · simp
      · exact (missing (all.mono shorter)).elim
    · exact long.mem (by simp)
  exact clean frame reached mismatch

/--
A probe of at most 256 payloads returns `Ok` exactly if the frames pass, other
frames have no influence, and a timeout names what was never answered.
-/
theorem probe_decides {payloads : List Bytes}
    (few : payloads.length ≤ 256) (frames : List Frame) (ending : ProbeEnd) :
    Decides payloads frames ending := by
  have after := Tally.after_start payloads
  rcases verdict_of_collect few after frames ending with
    ⟨result, left, done, verdict⟩
  have returned : probeResult payloads frames ending = some result := by
    rw [probeResult, probeOnce, done]
    rfl
  refine ⟨⟨result, returned⟩, ?_, ?_, ?_⟩
  · rw [returned, Option.some.injEq]
    constructor
    · rintro rfl
      cases verdict with
      | passed split all clean =>
          exact ⟨_, split ▸ List.prefix_append _ _, all, clean⟩
    · rintro ⟨passing, within, all, clean⟩
      cases verdict with
      | passed split _ _ => rfl
      | mismatched split missing mismatch =>
          subst split
          exact (not_passes_of_mismatch missing mismatch
            ⟨passing, within, all, clean⟩).elim
      | ended _ missing => exact (missing (all.mono within)).elim
  · rintro before frame rest rfl foreign
    have skipped := collect_skip few after before
      (by simpa using foreign) rest ending
    exact skipped.symm
  · rintro rfl missing fitting
    cases verdict with
    | passed split all clean =>
        exact (missing ⟨_, split ▸ List.prefix_append _ _, all, clean⟩).elim
    | mismatched split _ mismatch =>
        exact (fitting _ (split ▸ by simp) mismatch).elim
    | @ended tally after _ =>
        exact ⟨tally.lost, returned, tally.pairwise_lost,
          fun index => after.mem_lost_iff⟩

/-- The answers to two `PING`s, with foreign frames between them. -/
def twoAnswers : List Frame :=
  [⟨0xFEFF, cmdPong, [9]⟩, ⟨0xFF01, cmdPong, [2]⟩,
    ⟨0xFF01, cmdPong, [2]⟩, ⟨0xFF02, cmdPong, [9]⟩,
    ⟨0xFF00, cmdPing, [9]⟩, ⟨0xFF00, cmdPong, [1]⟩]

theorem probe_decides_two :
    probeResult [[1], [2]] twoAnswers .closed = some (.ok ()) ∧
      Decides [[1], [2]] twoAnswers .closed :=
  ⟨by decide, probe_decides (by decide) _ _⟩

end KubectlSshuttle.Rushtle.Probe
