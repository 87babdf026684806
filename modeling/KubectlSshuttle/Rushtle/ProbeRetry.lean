import KubectlSshuttle.Rushtle.Probe

/-!
# Which burst a retried probe counts

The second probe writes the same payloads on the same channels as the first,
so that a `PONG` does not show which burst it answers.  Answers to the first
burst that are still unread when the first probe fails are therefore counted
for the second, in place of the answers to its own `PING`s.
-/

namespace KubectlSshuttle.Rushtle.Probe

open KubectlSshuttle.Lib.RustText
open KubectlSshuttle.Rushtle.Ssnet

/-! ## What a probe counts -/

section Counted

variable {Arrived : Type} (view : Arrived → Frame) (payloads : List Bytes)

/-- The arrivals that set a mark, from a tally on. -/
def countedFrom (tally : Tally) : List (ProbeEvent Arrived) → List Arrived
  | [] => []
  | .frame arrived :: rest =>
      match tally.count payloads (view arrived) with
      | .ok next =>
          if next.got = tally.got then countedFrom next rest
          else arrived :: countedFrom next rest
      | .error _ => []
  | _ :: _ => []

/-- The event is a `PONG` on the probe channel of that index. -/
def isOn (index : Nat) : ProbeEvent Arrived → Bool
  | .frame arrived => pongIndex payloads (view arrived) = some index
  | _ => false

variable {view payloads}

variable (view payloads) in
/--
Of what is read from a tally on, the first `PONG` on every unmarked channel is
counted, and nothing else.
-/
structure CountsFirst (tally : Tally) (read : List (ProbeEvent Arrived)) :
    Prop where
  answered : ∀ index, tally.seen[index]? = some false →
    ∃ arrived, read.find? (isOn view payloads index) =
        some (.frame arrived) ∧
      arrived ∈ countedFrom view payloads tally read
  first : ∀ arrived ∈ countedFrom view payloads tally read,
    ∃ index, tally.seen[index]? = some false ∧
      read.find? (isOn view payloads index) = some (.frame arrived)

theorem CountsFirst.of_full {tally : Tally} (fits : tally.Fits payloads)
    (full : ¬ tally.got < payloads.length) :
    CountsFirst view payloads tally [] where
  answered _ unseen := (fits.seen_of_full full unseen).elim
  first _ member := by simp [countedFrom] at member

section Frame

variable {tally : Tally} {arrived : Arrived}
  {read : List (ProbeEvent Arrived)}

/-- A frame that is skipped or repeats an answer. -/
theorem CountsFirst.skip (later : CountsFirst view payloads tally read)
    (counted : tally.count payloads (view arrived) = .ok tally)
    (marked : ∀ index, pongIndex payloads (view arrived) = some index →
      tally.seen[index]? = some true) :
    CountsFirst view payloads tally (.frame arrived :: read) := by
  have same : countedFrom view payloads tally (.frame arrived :: read) =
      countedFrom view payloads tally read := by
    rw [countedFrom, counted]
    simp
  have passed {index : Nat} (unseen : tally.seen[index]? = some false) :
      ¬ isOn view payloads index (.frame arrived) = true := by
    rw [isOn, decide_eq_true_eq]
    intro on
    rw [marked index on] at unseen
    cases unseen
  constructor
  · intro index unseen
    rw [same, List.find?_cons_of_neg (passed unseen)]
    exact later.answered index unseen
  · intro other member
    rw [same] at member
    rcases later.first other member with ⟨index, unseen, found⟩
    refine ⟨index, unseen, ?_⟩
    rw [List.find?_cons_of_neg (passed unseen)]
    exact found

/-- A frame that is the first answer on its channel. -/
theorem CountsFirst.mark {here : Nat}
    (later : CountsFirst view payloads
      ⟨tally.seen.set here true, tally.got + 1⟩ read)
    (counted : tally.count payloads (view arrived) =
      .ok ⟨tally.seen.set here true, tally.got + 1⟩)
    (on : pongIndex payloads (view arrived) = some here)
    (unseen : tally.seen[here]? = some false) :
    CountsFirst view payloads tally (.frame arrived :: read) := by
  have more : countedFrom view payloads tally (.frame arrived :: read) =
      arrived :: countedFrom view payloads
        ⟨tally.seen.set here true, tally.got + 1⟩ read := by
    rw [countedFrom, counted]
    simp
  have hit : isOn view payloads here (.frame arrived) = true := by
    rw [isOn, decide_eq_true_eq]
    exact on
  have passed {index : Nat} (apart : index ≠ here) :
      ¬ isOn view payloads index (.frame arrived) = true := by
    rw [isOn, decide_eq_true_eq, on]
    exact fun same => apart (Option.some.inj same).symm
  constructor
  · intro index still
    rw [more]
    by_cases same : index = here
    · subst same
      exact ⟨arrived, List.find?_cons_of_pos hit, List.mem_cons_self⟩
    · have unmarked : (tally.seen.set here true)[index]? = some false := by
        rw [List.getElem?_set_ne (Ne.symm same)]
        exact still
      rcases later.answered index unmarked with ⟨other, found, member⟩
      rw [List.find?_cons_of_neg (passed same)]
      exact ⟨other, found, List.mem_cons_of_mem _ member⟩
  · intro other member
    rw [more] at member
    rcases List.mem_cons.mp member with rfl | member
    · exact ⟨here, unseen, List.find?_cons_of_pos hit⟩
    · rcases later.first other member with ⟨index, unmarked, found⟩
      have apart : index ≠ here := by
        rintro rfl
        have bound := (List.getElem?_eq_some_iff.mp unseen).1
        simp [List.getElem?_set_self bound] at unmarked
      refine ⟨index, ?_, ?_⟩
      · simpa [List.getElem?_set_ne (Ne.symm apart)] using unmarked
      · rw [List.find?_cons_of_neg (passed apart)]
        exact found

end Frame

/--
A probe that succeeds has counted the first `PONG` on every channel.  The
induction is on the events; the tally keeps its fit.
-/
theorem countsFirst_of_collect {tally : Tally} (fits : tally.Fits payloads)
    {events rest : List (ProbeEvent Arrived)}
    (done : collect view payloads tally events = some (.ok (), rest)) :
    ∃ read, events = read ++ rest ∧
      CountsFirst view payloads tally read := by
  induction events generalizing tally with
  | nil =>
      simp only [collect] at done
      split at done
      · cases done
      · next full =>
          rcases Prod.mk.inj (Option.some.inj done) with ⟨_, rfl⟩
          exact ⟨[], rfl, .of_full fits full⟩
  | cons event events induction =>
      simp only [collect] at done
      split at done
      · cases event with
        | closed => cases done
        | failed error => cases done
        | elapsed => cases done
        | frame arrived =>
            dsimp only at done
            split at done
            · next next counted =>
                rcases induction (fits.count counted) done with
                  ⟨read, rfl, later⟩
                refine ⟨.frame arrived :: read, rfl, ?_⟩
                rcases Tally.count_cases fits counted with
                  ⟨rfl, marked⟩ | ⟨here, on, _, unseen, rfl⟩
                · exact later.skip counted marked
                · exact later.mark counted on unseen
            · cases done
      · next full =>
          rcases Prod.mk.inj (Option.some.inj done) with ⟨_, rfl⟩
          exact ⟨[], rfl, .of_full fits full⟩

end Counted

/-! ## Answers to the two bursts -/

/-- Which of the two probes sent a PING. -/
inductive Burst where
  | first
  | second
deriving DecidableEq

/-- What arrives from the server while the link is set up. -/
inductive Arrival where
  /-- the `PONG` for a `PING` of a burst, with the data that arrives -/
  | answer (burst : Burst) (index : Fin probeBurstFrames) (data : Bytes)
  | other (frame : Frame)
      (unprobed : pongIndex makeProbePayloads frame = none)
deriving DecidableEq

/-- What the probe sees of an arrival. -/
def Arrival.frame : Arrival → Frame
  | .answer _ index data =>
      ⟨UInt16.ofNat (probeChannelBase + index), cmdPong, data⟩
  | .other frame _ => frame

theorem pongIndex_answer (burst : Burst) (index : Fin probeBurstFrames)
    (data : Bytes) :
    pongIndex makeProbePayloads (Arrival.answer burst index data).frame =
      some index.val := by
  have channels : ∀ index : Fin probeBurstFrames,
      (UInt16.ofNat (probeChannelBase + index) -
        UInt16.ofNat probeChannelBase).toNat = index.val := by decide
  have size : makeProbePayloads.length = probeBurstFrames := by
    simp [makeProbePayloads]
  have found : probeIndex (Arrival.answer burst index data).frame =
      index.val := channels index
  rw [pongIndex, found, size]
  exact if_pos ⟨rfl, index.isLt⟩

/-- A `PONG` on a probe channel answers the `PING` on it. -/
theorem eq_answer_of_isOn {index : Fin probeBurstFrames} {arrival : Arrival}
    (on : isOn Arrival.frame makeProbePayloads index.val
      (.frame arrival) = true) :
    ∃ burst data, arrival = .answer burst index data := by
  rw [isOn, decide_eq_true_eq] at on
  cases arrival with
  | answer burst other data =>
      rw [pongIndex_answer] at on
      have same : other = index := Fin.ext (Option.some.inj on)
      exact ⟨burst, data, by rw [same]⟩
  | other frame unprobed =>
      have never : pongIndex makeProbePayloads frame = some index.val := on
      rw [unprobed] at never
      cases never

/--
Every `PING` of the second burst was answered, and no answer to the first
burst was counted.
-/
structure RetryTested (read : List (ProbeEvent Arrival)) : Prop where
  answered : ∀ index, ∃ data,
    .frame (.answer .second index data) ∈ read
  fresh : ∀ index data, .answer .first index data ∉
    countedFrom Arrival.frame makeProbePayloads (.start makeProbePayloads)
      read

/-- On every probe channel the first `PONG` answers the second burst. -/
def FirstAnswersSecond (left : List (ProbeEvent Arrival)) : Prop :=
  ∀ index : Fin probeBurstFrames, ∃ data,
    left.find? (isOn Arrival.frame makeProbePayloads index) =
      some (.frame (.answer .second index data))

theorem unseen_start (index : Fin probeBurstFrames) :
    (Tally.start makeProbePayloads).seen[index.val]? = some false := by
  simp [Tally.start, makeProbePayloads]

theorem retryTested_iff_of_countsFirst {read rest : List (ProbeEvent Arrival)}
    (counts : CountsFirst Arrival.frame makeProbePayloads
      (.start makeProbePayloads) read) :
    RetryTested read ↔ FirstAnswersSecond (read ++ rest) := by
  have first (index : Fin probeBurstFrames) :
      ∃ burst data,
        (read ++ rest).find? (isOn Arrival.frame makeProbePayloads index) =
          some (.frame (.answer burst index data)) ∧
        .frame (.answer burst index data) ∈ read ∧
        .answer burst index data ∈ countedFrom Arrival.frame
          makeProbePayloads (.start makeProbePayloads) read := by
    rcases counts.answered index (unseen_start index) with
      ⟨arrival, found, counted⟩
    rcases eq_answer_of_isOn (List.find?_some found) with
      ⟨burst, data, rfl⟩
    refine ⟨burst, data, ?_, List.mem_of_find?_eq_some found, counted⟩
    rw [List.find?_append, found]
    rfl
  constructor
  · intro tested index
    rcases first index with ⟨burst, data, found, _, counted⟩
    cases burst with
    | first => exact (tested.fresh index data counted).elim
    | second => exact ⟨data, found⟩
  · intro second
    constructor
    · intro index
      rcases first index with ⟨burst, data, found, member, _⟩
      rcases second index with ⟨other, found'⟩
      rw [found] at found'
      cases found'
      exact ⟨data, member⟩
    · intro index data counted
      rcases counts.first _ counted with ⟨position, _, found⟩
      have on := List.find?_some found
      rw [isOn, decide_eq_true_eq, pongIndex_answer] at on
      rcases Option.some.inj on with rfl
      rcases second index with ⟨other, found'⟩
      rw [List.find?_append, found] at found'
      cases found'

/--
When the set-up succeeds through its second probe, the second burst was tested
exactly if on every probe channel the first `PONG` behind the first probe
answers the second burst.
-/
theorem retryTested_iff {fallbackUs frameDelayUs : Nat}
    {firstUnwritten secondUnwritten : Option (Nat × Error)}
    {events left : List (ProbeEvent Arrival)} {error : ProbeError}
    {outcome : LinkOutcome Arrival} (enabled : fallbackUs ≠ 0)
    (failed : probeOnce Arrival.frame makeProbePayloads firstUnwritten
      events = some (.error error, left))
    (linked : ensureLink Arrival.frame fallbackUs frameDelayUs
      firstUnwritten secondUnwritten events = some outcome)
    (up : outcome.result = .ok ()) :
    ∃ read, left = read ++ outcome.left ∧
      (RetryTested read ↔ FirstAnswersSecond left) := by
  rw [ensureLink, if_neg enabled, failed] at linked
  dsimp only at linked
  split at linked
  · cases linked
  · next rest retried =>
      rcases Option.some.inj linked with rfl
      cases secondUnwritten with
      | some unwritten => cases retried
      | none =>
          rcases countsFirst_of_collect (Tally.fits_start _) retried with
            ⟨read, rfl, counts⟩
          exact ⟨read, rfl, retryTested_iff_of_countsFirst counts⟩
  · rcases Option.some.inj linked with rfl
    cases up

/-! ## Late answers to the first burst -/

/-- The answers to a whole burst, in order. -/
def answersTo (burst : Burst) : List (ProbeEvent Arrival) :=
  (List.finRange probeBurstFrames).map fun index =>
    .frame (.answer burst index (makeProbePayloads.getD index []))

theorem length_answersTo (burst : Burst) :
    (answersTo burst).length = probeBurstFrames := by
  simp [answersTo]

/-- An answer sets the mark of its index. -/
theorem Tally.count_answer (burst : Burst) (index : Fin probeBurstFrames)
    {tally : Tally} (unseen : tally.seen[index.val]? = some false) :
    tally.count makeProbePayloads (Arrival.frame (.answer burst index
        (makeProbePayloads.getD index []))) =
      .ok ⟨tally.seen.set index true, tally.got + 1⟩ := by
  have on := pongIndex_answer burst index (makeProbePayloads.getD index [])
  rw [pongIndex, Option.ite_none_right_eq_some, Option.some.injEq] at on
  rcases on with ⟨⟨pong, inside⟩, place⟩
  rw [place] at inside
  have expected : makeProbePayloads[index.val]? =
      some (makeProbePayloads.getD index []) := by
    rw [List.getD_eq_getElem?_getD, List.getElem?_eq_getElem inside]
    rfl
  rw [Tally.count, if_pos pong, place, expected]
  simp [Arrival.frame, unseen]

/-- With so many marks set, the answers that are left set all others. -/
theorem collect_answersTo (burst : Burst) {left marked : Nat}
    (all : marked + left = probeBurstFrames) :
    collect Arrival.frame makeProbePayloads
        ⟨List.replicate marked true ++ List.replicate left false, marked⟩
        ((answersTo burst).drop marked) = some (.ok (), []) := by
  have size : makeProbePayloads.length = probeBurstFrames := by
    simp [makeProbePayloads]
  induction left generalizing marked with
  | zero =>
      have full : ¬ marked < makeProbePayloads.length := by omega
      rw [List.drop_of_length_le (by rw [length_answersTo]; omega), collect,
        if_neg full]
  | succ left induction =>
      have inside : marked < probeBurstFrames := by omega
      have next : (answersTo burst).drop marked =
          .frame (.answer burst ⟨marked, inside⟩
            (makeProbePayloads.getD marked [])) ::
              (answersTo burst).drop (marked + 1) := by
        rw [List.drop_eq_getElem_cons (by rwa [length_answersTo])]
        simp [answersTo]
      have unseen : (List.replicate marked true ++
          List.replicate (left + 1) false)[marked]? = some false := by
        rw [List.getElem?_append_right (by simp)]
        simp
      have counted := @Tally.count_answer burst ⟨marked, inside⟩ ⟨_, marked⟩
        unseen
      have marks : (List.replicate marked true ++
          List.replicate (left + 1) false).set marked true =
            List.replicate (marked + 1) true ++ List.replicate left false := by
        rw [List.set_append_right _ _ (by simp), List.replicate_succ,
          List.replicate_succ', List.append_assoc]
        simp
      rw [marks] at counted
      rw [next, collect, if_pos (by rw [size]; exact inside)]
      rw [counted]
      exact induction (by omega)
/-- All the answers to a burst pass the probe. -/
theorem probeOnce_answersTo (burst : Burst) :
    probeOnce Arrival.frame makeProbePayloads none (answersTo burst) =
      some (.ok (), []) := by
  have all := collect_answersTo burst (Nat.zero_add probeBurstFrames)
  have size : makeProbePayloads.length = probeBurstFrames := by
    simp [makeProbePayloads]
  rw [List.replicate_zero, List.nil_append, List.drop_zero] at all
  rw [probeOnce, Tally.start, size]
  exact all

/-- The timer of the first probe fires before anything arrives. -/
theorem probeOnce_elapsed (events : List (ProbeEvent Arrival)) :
    probeOnce Arrival.frame makeProbePayloads none (.elapsed :: events) =
      some (.error (.timeout (List.range probeBurstFrames)
        probeBurstFrames), events) := by
  have size : makeProbePayloads.length = probeBurstFrames := by
    simp [makeProbePayloads]
  have lost : (Tally.start makeProbePayloads).lost =
      List.range probeBurstFrames := by
    rw [Tally.start, size]
    rfl
  rw [probeOnce, collect, if_pos (by rw [size]; decide), lost, size]

/-- A second probe that passes ends the set-up with the fallback delay. -/
theorem ensureLink_retried {fallbackUs frameDelayUs : Nat}
    {firstUnwritten secondUnwritten : Option (Nat × Error)}
    {events left rest : List (ProbeEvent Arrival)} {error : ProbeError}
    (enabled : fallbackUs ≠ 0)
    (failed : probeOnce Arrival.frame makeProbePayloads firstUnwritten
      events = some (.error error, left))
    (passed : probeOnce Arrival.frame makeProbePayloads secondUnwritten
      left = some (.ok (), rest)) :
    ensureLink Arrival.frame fallbackUs frameDelayUs firstUnwritten
      secondUnwritten events = some ⟨.ok (), fallbackUs, rest⟩ := by
  rw [ensureLink, if_neg enabled, failed]
  dsimp only
  rw [passed]

/-- Whichever burst the answers are to, the second probe succeeds. -/
theorem ensureLink_answersTo (burst : Burst) :
    ensureLink Arrival.frame 2000 0 none none (.elapsed :: answersTo burst) =
      some ⟨.ok (), 2000, []⟩ :=
  ensureLink_retried (by decide) (probeOnce_elapsed _)
    (probeOnce_answersTo burst)

/-- The first probe times out, then the second burst is answered. -/
theorem retryTested_answered : RetryTested (answersTo .second) := by
  rcases retryTested_iff (by decide) (probeOnce_elapsed (answersTo .second))
      (ensureLink_answersTo .second) rfl with
    ⟨read, whole, tested⟩
  have same : read = answersTo .second := by simpa using whole.symm
  rw [← same]
  refine tested.mpr ?_
  intro index
  refine ⟨makeProbePayloads.getD index [], ?_⟩
  have on : isOn Arrival.frame makeProbePayloads index ∘ (fun other =>
      .frame (.answer .second other (makeProbePayloads.getD other []))) =
        fun other => decide (other = index) := by
    funext other
    simp [isOn, pongIndex_answer, Fin.ext_iff]
  rw [answersTo, List.find?_map, on]
  cases found : (List.finRange probeBurstFrames).find?
      (fun other => decide (other = index)) with
  | none =>
      have absent := List.find?_eq_none.mp found index (List.mem_finRange index)
      simp at absent
  | some other =>
      have same : other = index := by simpa using List.find?_some found
      rw [same]
      rfl

/--
The first probe times out before anything arrives; the late answers to its
burst make the second probe succeed, and none to the second burst arrives.
-/
theorem late_answers_counted :
    probeOnce Arrival.frame makeProbePayloads none
        (.elapsed :: answersTo .first) =
      some (.error (.timeout (List.range probeBurstFrames)
        probeBurstFrames), answersTo .first) ∧
    ensureLink Arrival.frame 2000 0 none none
        (.elapsed :: answersTo .first) = some ⟨.ok (), 2000, []⟩ ∧
      ¬ RetryTested (answersTo .first) := by
  refine ⟨probeOnce_elapsed _, ensureLink_answersTo .first, ?_⟩
  intro tested
  rcases tested.answered ⟨0, by decide⟩ with ⟨data, member⟩
  simp [answersTo] at member

end KubectlSshuttle.Rushtle.Probe
