import KubectlSshuttle.Lib.Transition

/-!
# `runKubectlChunked`

With chunking, `ssh-proxy` stays alive beside kubectl.  A goroutine pumps the
input of sshuttle into the standard input of kubectl, at most a buffer at a
time and with a pause behind each buffer.  A second one, of `os/exec`, kills
kubectl once the context is cancelled, by a signal or by a failing pump.  The
main one waits for kubectl and ends the process.

The actions are the outcomes of what the goroutines wait for, in any order.
-/

namespace KubectlSshuttle.Cmd.ChunkPump

open KubectlSshuttle.Lib.Transition

/-! ## The state -/

/-- The error that a read returns, beside its bytes. -/
inductive ReadEnd where
  | more
  | eof
  | failed
deriving DecidableEq

/-- Where the pump stands. -/
inductive Pump where
  | reading
  /-- what the call of `Write` still has to write -/
  | writing (rest : List UInt8) (ended : ReadEnd)
  | sleeping (ended : ReadEnd)
  /-- the standard input of kubectl is closed -/
  | returned (unsent : List UInt8)
deriving DecidableEq

/-- The child process. -/
inductive Kubectl where
  | running
  /-- without a code if a signal ended it -/
  | exited (code : Option Nat)
deriving DecidableEq

/-- What the signal of `exec.CommandContext` does to it. -/
def Kubectl.kill : Kubectl → Kubectl
  | .running => .exited none
  | .exited code => .exited code

/-- How `ssh-proxy` ends. -/
inductive Outcome where
  /-- `return nil` -/
  | returned
  /-- `os.Exit(ee.ExitCode())` -/
  | exit (code : Int)
  /-- `context canceled` -/
  | canceled
deriving DecidableEq

/-- The pump, its child, and what has passed through it. -/
structure Pumping where
  pump : Pump
  kubectl : Kubectl
  cancelled : Bool
  /-- the second goroutine has sent its signal -/
  killSent : Bool
  outcome : Option Outcome
  /-- all that was read from sshuttle -/
  read : List UInt8
  /-- all that was written to kubectl -/
  sent : List UInt8
deriving DecidableEq

/-- The child has been started, and nothing has been read. -/
def Pumping.start : Pumping where
  pump := .reading
  kubectl := .running
  cancelled := false
  killSent := false
  outcome := none
  read := []
  sent := []

/-- What the goroutines, the child and its user can do. -/
inductive Event where
  | read (bytes : List UInt8) (ended : ReadEnd)
  | wrote (count : Nat)
  | writeFailed
  | slept
  /-- SIGINT or SIGTERM -/
  | signalled
  | exited (code : Option Nat)
  | kill
  | waited
deriving DecidableEq

/-! ## The steps -/

/-- The size of `buf`. -/
def bufferSize (chunkBytes : Int) : Nat :=
  if chunkBytes ≤ 0 then 768 else chunkBytes.toNat

/-- The end of the loop body. -/
def Pumping.judge (ended : ReadEnd) (state : Pumping) : Pumping :=
  match ended with
  | .more => { state with pump := .reading }
  | .eof => { state with pump := .returned [] }
  | .failed => { state with pump := .returned [], cancelled := true }

/-- What follows a complete write. -/
def Pumping.pause (delay : Int) (ended : ReadEnd) (state : Pumping) :
    Pumping :=
  if 0 < delay then { state with pump := .sleeping ended }
  else state.judge ended

/-- What `cmd.Wait` makes of the way kubectl ended. -/
def Pumping.waitOutcome (state : Pumping) : Option Outcome :=
  match state.kubectl with
  | .running => none
  | .exited none => some (.exit (-1))
  | .exited (some 0) =>
      some (if state.killSent then .canceled else .returned)
  | .exited (some code) => some (.exit code)

/--
One step; the process is judged with its main goroutine.  Behind the end of
kubectl, `Wait` also closes its standard input, which is left out: a write
that finds it closed fails like one that kubectl no longer reads.
-/
def step (chunkBytes delay : Int) (state : Pumping) (event : Event) :
    Option Pumping :=
  if state.outcome ≠ none then none
  else
    match event with
    | .read bytes ended =>
        if state.pump = .reading ∧ bytes.length ≤ bufferSize chunkBytes then
          let state := { state with read := state.read ++ bytes }
          some
            (if bytes = [] then state.judge ended
            else { state with pump := .writing bytes ended })
        else none
    | .wrote count =>
        match state.pump with
        | .writing rest ended =>
            if 0 < count ∧ count ≤ rest.length then
              let state := { state with sent := state.sent ++ rest.take count }
              some
                (if count = rest.length then state.pause delay ended
                else { state with pump := .writing (rest.drop count) ended })
            else none
        | _ => none
    | .writeFailed =>
        match state.pump with
        | .writing rest _ =>
            some { state with pump := .returned rest, cancelled := true }
        | _ => none
    | .slept =>
        match state.pump with
        | .sleeping ended => some (state.judge ended)
        | _ => none
    | .signalled => some { state with cancelled := true }
    | .exited code =>
        if state.kubectl = .running then
          some { state with kubectl := .exited code }
        else none
    | .kill =>
        if state.cancelled = true ∧ state.killSent = false then
          some
            { state with
              killSent := true
              kubectl := state.kubectl.kill }
        else none
    | .waited =>
        state.waitOutcome.map fun outcome =>
          { state with outcome := some outcome }

/-! ## What a step does -/

/-- The steps, by branch. -/
inductive Move (chunkBytes delay : Int) (state : Pumping) :
    Event → Pumping → Prop where
  | read {bytes : List UInt8} {ended : ReadEnd}
      (reading : state.pump = .reading)
      (small : bytes.length ≤ bufferSize chunkBytes) :
      Move chunkBytes delay state (.read bytes ended)
        { state with
          read := state.read ++ bytes
          pump := .writing bytes ended }
  | readNothing {ended : ReadEnd} (reading : state.pump = .reading) :
      Move chunkBytes delay state (.read [] ended) (state.judge ended)
  | wrotePart {rest : List UInt8} {ended : ReadEnd} {count : Nat}
      (writing : state.pump = .writing rest ended)
      (part : count < rest.length) :
      Move chunkBytes delay state (.wrote count)
        { state with
          sent := state.sent ++ rest.take count
          pump := .writing (rest.drop count) ended }
  | wroteAll {rest : List UInt8} {ended : ReadEnd}
      (writing : state.pump = .writing rest ended) :
      Move chunkBytes delay state (.wrote rest.length)
        ({ state with sent := state.sent ++ rest }.pause delay ended)
  | writeFailed {rest : List UInt8} {ended : ReadEnd}
      (writing : state.pump = .writing rest ended) :
      Move chunkBytes delay state .writeFailed
        { state with pump := .returned rest, cancelled := true }
  | slept {ended : ReadEnd} (sleeping : state.pump = .sleeping ended) :
      Move chunkBytes delay state .slept (state.judge ended)
  | signalled :
      Move chunkBytes delay state .signalled { state with cancelled := true }
  | exited {code : Option Nat} (running : state.kubectl = .running) :
      Move chunkBytes delay state (.exited code)
        { state with kubectl := .exited code }
  | kill (cancelled : state.cancelled = true)
      (unsent : state.killSent = false) :
      Move chunkBytes delay state .kill
        { state with killSent := true, kubectl := state.kubectl.kill }
  | waited {outcome : Outcome}
      (judged : state.waitOutcome = some outcome) :
      Move chunkBytes delay state .waited
        { state with outcome := some outcome }

section Steps

variable {chunkBytes delay : Int}

theorem move_of_step {state next : Pumping} {event : Event}
    (taken : step chunkBytes delay state event = some next) :
    state.outcome = none ∧ Move chunkBytes delay state event next := by
  unfold step at taken
  split at taken
  · cases taken
  next pending =>
  refine ⟨not_not.mp pending, ?_⟩
  cases event with
  | read bytes ended =>
      simp only at taken
      split at taken
      · next enabled =>
          cases taken
          split
          · next nothing =>
              rw [nothing, List.append_nil]
              exact .readNothing enabled.1
          · exact .read enabled.1 enabled.2
      · cases taken
  | wrote count =>
      simp only at taken
      split at taken
      · next rest ended writing =>
          split at taken
          · next enabled =>
              cases taken
              split
              · next whole =>
                  rw [whole, List.take_length]
                  exact .wroteAll writing
              · next part =>
                  exact .wrotePart writing
                    (Nat.lt_of_le_of_ne enabled.2 part)
          · cases taken
      · cases taken
  | writeFailed =>
      simp only at taken
      split at taken
      · next rest ended writing =>
          cases taken
          exact .writeFailed writing
      · cases taken
  | slept =>
      simp only at taken
      split at taken
      · next ended sleeping =>
          cases taken
          exact .slept sleeping
      · cases taken
  | signalled =>
      cases taken
      exact .signalled
  | exited code =>
      simp only at taken
      split at taken
      · next running =>
          cases taken
          exact .exited running
      · cases taken
  | kill =>
      simp only at taken
      split at taken
      · next enabled =>
          cases taken
          exact .kill enabled.1 enabled.2
      · cases taken
  | waited =>
      rcases Option.map_eq_some_iff.mp taken with ⟨outcome, judged, rfl⟩
      exact .waited judged

end Steps

/-! ## The stream -/

/-- What was read and is not written. -/
def Pump.unsent : Pump → List UInt8
  | .writing rest _ => rest
  | .returned unsent => unsent
  | _ => []

/-- The error to judge behind the write. -/
def Pump.ended : Pump → ReadEnd
  | .writing _ ended => ended
  | .sleeping ended => ended
  | _ => .more

/-- The end of the input of sshuttle was read. -/
def AtEof (trace : List Event) : Prop :=
  ∃ bytes, Event.read bytes .eof ∈ trace

/-- The pump loses nothing, and it closes for a reason. -/
structure Pumping.Streams (trace : List Event) (state : Pumping) : Prop where
  stream : state.sent ++ state.pump.unsent = state.read
  ended : state.pump.ended = .eof → AtEof trace
  closed : ∀ unsent, state.pump = .returned unsent →
    state.cancelled = true ∨ unsent = [] ∧ AtEof trace

section Streams

variable {chunkBytes delay : Int} {trace : List Event}
variable {state next : Pumping} {event : Event} {ended : ReadEnd}

theorem AtEof.append (atEof : AtEof trace) (event : Event) :
    AtEof (trace ++ [event]) := by
  rcases atEof with ⟨bytes, member⟩
  exact ⟨bytes, List.mem_append_left _ member⟩

/-- The judgement on a buffer that is written. -/
theorem Pumping.Streams.judge (whole : state.sent = state.read)
    (atEof : ended = .eof → AtEof trace) :
    (state.judge ended).Streams trace := by
  cases ended with
  | more =>
      exact ⟨by simp [Pumping.judge, Pump.unsent, whole],
        by simp [Pumping.judge, Pump.ended],
        by simp [Pumping.judge]⟩
  | eof =>
      exact ⟨by simp [Pumping.judge, Pump.unsent, whole],
        by simp [Pumping.judge, Pump.ended],
        by simpa [Pumping.judge] using .inr (atEof rfl)⟩
  | failed =>
      exact ⟨by simp [Pumping.judge, Pump.unsent, whole],
        by simp [Pumping.judge, Pump.ended],
        by simp [Pumping.judge]⟩

/-- Steps that leave the pump alone. -/
theorem Pumping.Streams.frame (streams : state.Streams trace)
    (pump : next.pump = state.pump) (sent : next.sent = state.sent)
    (read : next.read = state.read)
    (cancelled : state.cancelled = true → next.cancelled = true)
    (event : Event) :
    next.Streams (trace ++ [event]) := by
  refine ⟨?_, fun eof => ?_, fun unsent returned => ?_⟩
  · rw [pump, sent, read]
    exact streams.stream
  · rw [pump] at eof
    exact (streams.ended eof).append event
  · rw [pump] at returned
    exact (streams.closed unsent returned).imp cancelled
      fun ⟨nothing, atEof⟩ => ⟨nothing, atEof.append event⟩

theorem Pumping.Streams.move (streams : state.Streams trace)
    (move : Move chunkBytes delay state event next) :
    next.Streams (trace ++ [event]) := by
  have stream := streams.stream
  cases move with
  | @read bytes ended reading small =>
      rw [reading, Pump.unsent, List.append_nil] at stream
      · refine ⟨?_, ?_, by simp⟩
        · show state.sent ++ bytes = state.read ++ bytes
          rw [stream]
        · rintro rfl
          exact ⟨bytes, by simp⟩
      · simp
      · simp
  | @readNothing ended reading =>
      refine .judge ?_ ?_
      · simpa [reading, Pump.unsent] using stream
      · rintro rfl
        exact ⟨[], by simp⟩
  | @wrotePart rest ended count writing part =>
      rw [writing] at stream
      refine ⟨?_, fun eof => ?_, by simp⟩
      · show (state.sent ++ rest.take count) ++ rest.drop count = state.read
        rw [List.append_assoc, List.take_append_drop]
        exact stream
      · refine (streams.ended ?_).append _
        rw [writing]
        exact eof
  | @wroteAll rest ended writing =>
      have atEof (eof : ended = .eof) :
          AtEof (trace ++ [.wrote rest.length]) :=
        (streams.ended (by rw [writing]; exact eof)).append _
      rw [writing] at stream
      rw [Pumping.pause]
      split
      · exact ⟨by simpa [Pump.unsent] using stream, atEof, by simp⟩
      · exact .judge stream atEof
  | @writeFailed rest ended writing =>
      rw [writing] at stream
      exact ⟨stream, by simp [Pump.ended], by simp⟩
  | @slept ended sleeping =>
      refine .judge (by simpa [sleeping, Pump.unsent] using stream) ?_
      intro eof
      exact (streams.ended (by rw [sleeping]; exact eof)).append _
  | signalled =>
      exact streams.frame (by rfl) (by rfl) (by rfl) (by simp) _
  | exited running =>
      exact streams.frame (by rfl) (by rfl) (by rfl) (by exact id) _
  | kill cancelled unsent =>
      exact streams.frame (by rfl) (by rfl) (by rfl) (by exact id) _
  | waited judged =>
      exact streams.frame (by rfl) (by rfl) (by rfl) (by exact id) _

end Streams

/-! ## The end -/

/-- How kubectl ended, and what the main goroutine made of it. -/
structure Pumping.Ends (trace : List Event) (state : Pumping) : Prop where
  kill : state.killSent = true ↔ .kill ∈ trace
  killed : state.killSent = true →
    state.cancelled = true ∧ state.kubectl ≠ .running
  exited : ∀ code, state.kubectl = .exited code →
    .exited code ∈ trace ∨ code = none ∧ .kill ∈ trace
  outcome : ∀ outcome, state.outcome = some outcome →
    state.waitOutcome = some outcome

/-- The events that lead to an outcome. -/
def Explains (trace : List Event) : Outcome → Prop
  | .returned => .exited (some 0) ∈ trace ∧ .kill ∉ trace
  | .canceled => .exited (some 0) ∈ trace ∧ .kill ∈ trace
  | .exit code =>
      (∃ status, status ≠ 0 ∧ code = .ofNat status ∧
        .exited (some status) ∈ trace) ∨
      code = -1 ∧ (.exited none ∈ trace ∨ .kill ∈ trace)

section Ends

variable {chunkBytes delay : Int} {trace : List Event}
variable {state next : Pumping} {event : Event}

/-- Steps of the pump leave kubectl alone. -/
theorem Pumping.Ends.frame (ends : state.Ends trace)
    (kubectl : next.kubectl = state.kubectl)
    (killSent : next.killSent = state.killSent)
    (outcome : next.outcome = none)
    (cancelled : state.cancelled = true → next.cancelled = true)
    (other : event ≠ .kill) :
    next.Ends (trace ++ [event]) := by
  have same : Event.kill ∈ trace ++ [event] ↔ .kill ∈ trace := by
    simpa using fun here => (other here.symm).elim
  refine ⟨?_, fun sent => ?_, fun code exited => ?_, by simp [outcome]⟩
  · rw [same, killSent]
    exact ends.kill
  · rw [killSent] at sent
    rw [kubectl]
    exact ⟨cancelled (ends.killed sent).1, (ends.killed sent).2⟩
  · rw [kubectl] at exited
    rw [same]
    exact (ends.exited code exited).imp_left (List.mem_append_left _)

/-- The judgement concerns the pump, and it cancels at most. -/
theorem Pumping.judge_frame (state : Pumping) (ended : ReadEnd) :
    (state.judge ended).kubectl = state.kubectl ∧
      (state.judge ended).killSent = state.killSent ∧
      (state.judge ended).outcome = state.outcome ∧
      (state.cancelled = true → (state.judge ended).cancelled = true) := by
  cases ended <;> simp [Pumping.judge]

theorem Pumping.pause_frame (delay : Int) (state : Pumping)
    (ended : ReadEnd) :
    (state.pause delay ended).kubectl = state.kubectl ∧
      (state.pause delay ended).killSent = state.killSent ∧
      (state.pause delay ended).outcome = state.outcome ∧
      (state.cancelled = true →
        (state.pause delay ended).cancelled = true) := by
  rw [Pumping.pause]
  split
  · exact ⟨rfl, rfl, rfl, id⟩
  · exact state.judge_frame ended

theorem Pumping.Ends.move (ends : state.Ends trace)
    (pending : state.outcome = none)
    (move : Move chunkBytes delay state event next) :
    next.Ends (trace ++ [event]) := by
  cases move with
  | read reading small => exact ends.frame rfl rfl pending id (by simp)
  | @readNothing ended reading =>
      rcases state.judge_frame ended with ⟨kubectl, sent, outcome, cancelled⟩
      exact ends.frame kubectl sent (outcome.trans pending) cancelled
        (by simp)
  | wrotePart writing part => exact ends.frame rfl rfl pending id (by simp)
  | @wroteAll rest ended writing =>
      rcases Pumping.pause_frame delay
          { state with sent := state.sent ++ rest } ended with
        ⟨kubectl, sent, outcome, cancelled⟩
      exact ends.frame kubectl sent (outcome.trans pending) cancelled
        (by simp)
  | writeFailed writing =>
      exact ends.frame (by rfl) (by rfl) pending (by simp) (by simp)
  | @slept ended sleeping =>
      rcases state.judge_frame ended with ⟨kubectl, sent, outcome, cancelled⟩
      exact ends.frame kubectl sent (outcome.trans pending) cancelled
        (by simp)
  | signalled =>
      exact ends.frame (by rfl) (by rfl) pending (by simp) (by simp)
  | @exited code running =>
      refine ⟨?_, fun sent => ?_, fun other exited => ?_, ?_⟩
      · simpa using ends.kill
      · exact ((ends.killed sent).2 running).elim
      · cases exited
        exact .inl (by simp)
      · simp [pending]
  | kill cancelled unsent =>
      refine ⟨by simp, fun _ => ⟨cancelled, ?_⟩, fun code exited => ?_, ?_⟩
      · cases state.kubectl <;> simp [Kubectl.kill]
      · cases current : state.kubectl with
        | running =>
            simp only [current, Kubectl.kill, Kubectl.exited.injEq] at exited
            exact .inr ⟨exited.symm, by simp⟩
        | exited other =>
            simp only [current, Kubectl.kill, Kubectl.exited.injEq] at exited
            rcases exited with rfl
            exact (ends.exited other current).imp (List.mem_append_left _)
              fun ⟨none_, member⟩ => ⟨none_, List.mem_append_left _ member⟩
      · simp [pending]
  | @waited outcome judged =>
      refine ⟨by simpa using ends.kill, ends.killed, fun code exited => ?_,
        ?_⟩
      · exact (ends.exited code exited).imp (List.mem_append_left _)
          fun ⟨none_, member⟩ => ⟨none_, List.mem_append_left _ member⟩
      · rintro other chosen
        cases chosen
        exact judged

/-- What `cmd.Wait` returns is explained by the run. -/
theorem Pumping.Ends.explains (ends : state.Ends trace) {outcome : Outcome}
    (judged : state.outcome = some outcome) : Explains trace outcome := by
  have waited := ends.outcome outcome judged
  rw [Pumping.waitOutcome] at waited
  split at waited
  · cases waited
  · next exited =>
      cases waited
      exact .inr ⟨rfl, (ends.exited none exited).imp_right And.right⟩
  · next exited =>
      have own := (ends.exited (some 0) exited).resolve_right (by simp)
      cases sent : state.killSent with
      | false =>
          rw [sent] at waited
          cases waited
          exact ⟨own, fun kill => by simp [ends.kill.mpr kill] at sent⟩
      | true =>
          rw [sent] at waited
          cases waited
          exact ⟨own, ends.kill.mp sent⟩
  · next status nonzero exited =>
      cases waited
      have own := (ends.exited (some status) exited).resolve_right (by simp)
      exact .inl ⟨status, nonzero, rfl, own⟩

/-- A process that ended is waited for. -/
theorem step_waited (ended : state.kubectl ≠ .running)
    (pending : state.outcome = none) :
    ∃ outcome, step chunkBytes delay state .waited =
      some { state with outcome := some outcome } := by
  have judged : ∃ outcome, state.waitOutcome = some outcome := by
    rw [Pumping.waitOutcome]
    split
    · next running => exact (ended running).elim
    · exact ⟨_, rfl⟩
    · exact ⟨_, rfl⟩
    · exact ⟨_, rfl⟩
  rcases judged with ⟨outcome, judged⟩
  refine ⟨outcome, ?_⟩
  unfold step
  rw [if_neg (by simp [pending])]
  simp [judged]

/-- Once cancelled, the process ends without the pump and without kubectl. -/
theorem Pumping.Ends.settles (ends : state.Ends trace)
    (cancelled : state.cancelled = true) (pending : state.outcome = none) :
    ∃ own finish, own <:+ [Event.kill, .waited] ∧
      Run (step chunkBytes delay) state own finish ∧
      finish.outcome.isSome = true := by
  cases sent : state.killSent with
  | true =>
      rcases step_waited (ends.killed sent).2 pending with ⟨outcome, taken⟩
      exact ⟨[.waited], _, List.suffix_cons _ _, .single taken, rfl⟩
  | false =>
      have killed : step chunkBytes delay state .kill =
          some { state with
            killSent := true
            kubectl := state.kubectl.kill } := by
        unfold step
        rw [if_neg (by simp [pending])]
        simp [cancelled, sent]
      have ended : state.kubectl.kill ≠ .running := by
        cases state.kubectl <;> simp [Kubectl.kill]
      rcases @step_waited chunkBytes delay { state with
            killSent := true
            kubectl := state.kubectl.kill } ended pending with
        ⟨outcome, taken⟩
      exact ⟨[.kill, .waited], _, List.suffix_refl _,
        (Run.single killed).extend taken, rfl⟩

end Ends

/-! ## The rate -/

/-- What may be written before the next pause. -/
def Pump.room (chunkBytes : Int) : Pump → Nat
  | .reading => bufferSize chunkBytes
  | .writing rest _ => rest.length
  | _ => 0

section Rate

variable {chunkBytes delay : Int} {trace : List Event}
variable {state next finish : Pumping} {event : Event}

theorem judge_room (chunkBytes : Int) (ended : ReadEnd) (state : Pumping) :
    (state.judge ended).pump.room chunkBytes ≤ bufferSize chunkBytes := by
  cases ended <;> simp [Pumping.judge, Pump.room]

theorem Move.room_le (move : Move chunkBytes delay state event next)
    (low : state.pump.room chunkBytes ≤ bufferSize chunkBytes) :
    next.pump.room chunkBytes ≤ bufferSize chunkBytes := by
  cases move with
  | read reading small => exact small
  | readNothing reading => exact judge_room _ _ _
  | wrotePart writing part =>
      rw [writing] at low
      simp only [Pump.room, List.length_drop] at low ⊢
      omega
  | wroteAll writing =>
      rw [Pumping.pause]
      split
      · exact Nat.zero_le _
      · exact judge_room _ _ _
  | writeFailed writing => exact Nat.zero_le _
  | slept sleeping => exact judge_room _ _ _
  | signalled => exact low
  | exited running => exact low
  | kill cancelled unsent => exact low
  | waited judged => exact low

/-- Without a pause, what is written uses up the room. -/
theorem Move.spends (move : Move chunkBytes delay state event next)
    (paced : 0 < delay) (awake : event ≠ .slept) :
    next.sent.length + next.pump.room chunkBytes ≤
      state.sent.length + state.pump.room chunkBytes := by
  cases move with
  | read reading small =>
      rw [reading]
      exact Nat.add_le_add_left small _
  | @readNothing ended reading =>
      rw [reading]
      have same : (state.judge ended).sent = state.sent := by
        cases ended <;> rfl
      rw [same]
      exact Nat.add_le_add_left (judge_room _ _ _) _
  | wrotePart writing part =>
      rw [writing]
      simp only [Pump.room, List.length_append, List.length_take,
        List.length_drop]
      omega
  | wroteAll writing =>
      rw [writing, Pumping.pause, if_pos paced]
      simp [Pump.room]
  | writeFailed writing =>
      rw [writing]
      simp [Pump.room]
  | slept sleeping => exact (awake rfl).elim
  | signalled => exact Nat.le_refl _
  | exited running => exact Nat.le_refl _
  | kill cancelled unsent => exact Nat.le_refl _
  | waited judged => exact Nat.le_refl _

/-- Between two pauses at most one buffer is written. -/
theorem sent_le_of_run (paced : 0 < delay)
    (low : state.pump.room chunkBytes ≤ bufferSize chunkBytes)
    (run : Run (step chunkBytes delay) state trace finish)
    (awake : .slept ∉ trace) :
    finish.sent.length ≤ state.sent.length + bufferSize chunkBytes := by
  have spent : Event.slept ∉ trace →
      finish.sent.length + finish.pump.room chunkBytes ≤
        state.sent.length + state.pump.room chunkBytes := by
    refine run.invariant (motive := fun trace finish =>
      Event.slept ∉ trace →
        finish.sent.length + finish.pump.room chunkBytes ≤
          state.sent.length + state.pump.room chunkBytes)
      (fun _ => Nat.le_refl _) ?_
    intro trace middle event next _ spends taken awake
    simp only [List.mem_append, List.mem_singleton, not_or] at awake
    exact Nat.le_trans ((move_of_step taken).2.spends paced
      fun same => awake.2 same.symm) (spends awake.1)
  have := spent awake
  omega

end Rate

/-! ## Every run -/

/-- What holds behind a run. -/
structure Pumping.Keeps (chunkBytes delay : Int) (trace : List Event)
    (state : Pumping) : Prop where
  /-- kubectl gets what sshuttle writes, in order, and nothing else -/
  sent : state.sent ++ state.pump.unsent = state.read
  /-- its input ends only where all of it was written, or is given up -/
  closed : ∀ unsent, state.pump = .returned unsent →
    state.cancelled = true ∨ state.sent = state.read ∧ AtEof trace
  /-- a pause separates one buffer from the next -/
  paced : 0 < delay → ∀ before between middle, trace = before ++ between →
    Run (step chunkBytes delay) .start before middle →
      .slept ∉ between →
        state.sent.length ≤ middle.sent.length + bufferSize chunkBytes
  /-- a pump that gives up does not leave the process waiting -/
  settles : state.cancelled = true → state.outcome = none →
    ∃ own finish, own <:+ [Event.kill, .waited] ∧
      Run (step chunkBytes delay) state own finish ∧
      finish.outcome.isSome = true
  outcome : ∀ outcome, state.outcome = some outcome → Explains trace outcome

section Runs

variable {chunkBytes delay : Int} {trace : List Event} {finish : Pumping}

theorem invariants_of_run
    (run : Run (step chunkBytes delay) .start trace finish) :
    finish.Streams trace ∧ finish.Ends trace ∧
      finish.pump.room chunkBytes ≤ bufferSize chunkBytes := by
  refine run.invariant (motive := fun trace state =>
    state.Streams trace ∧ state.Ends trace ∧
      state.pump.room chunkBytes ≤ bufferSize chunkBytes)
    ⟨⟨rfl, by simp [Pumping.start, Pump.ended],
      by simp [Pumping.start]⟩, ⟨by simp [Pumping.start],
      by simp [Pumping.start], by simp [Pumping.start],
      by simp [Pumping.start]⟩, Nat.le_refl _⟩ ?_
  rintro trace state event next _ ⟨streams, ends, low⟩ taken
  rcases move_of_step taken with ⟨pending, move⟩
  exact ⟨streams.move move, ends.move pending move, move.room_le low⟩

/-- The pump keeps the stream, the pace and the way out. -/
theorem pump_keeps
    (run : Run (step chunkBytes delay) .start trace finish) :
    finish.Keeps chunkBytes delay trace := by
  rcases invariants_of_run run with ⟨streams, ends, low⟩
  refine
    { sent := streams.stream
      closed := fun unsent returned => ?_
      paced := ?_
      settles := ends.settles
      outcome := fun outcome judged => ends.explains judged }
  · refine (streams.closed unsent returned).imp_right ?_
    rintro ⟨rfl, atEof⟩
    have stream := streams.stream
    rw [returned] at stream
    exact ⟨by simpa [Pump.unsent] using stream, atEof⟩
  · rintro paced before between middle rfl reached awake
    rcases run.take with ⟨state, first, second⟩
    rcases reached.deterministic first with rfl
    exact sent_le_of_run paced (invariants_of_run reached).2.2 second awake

end Runs

/-- A conversation of three bytes, and the end of the input. -/
def threeBytes : List Event :=
  [.read [1, 2, 3] .more, .wrote 2, .wrote 1, .slept, .read [] .eof,
    .exited (some 0), .waited]

theorem pump_keeps_threeBytes :
    ∃ finish, Run (step 3 2000) .start threeBytes finish ∧
      finish.sent = [1, 2, 3] ∧ finish.outcome = some .returned ∧
      finish.Keeps 3 2000 threeBytes := by
  have run : ∃ finish, execute (step 3 2000) .start threeBytes =
      some finish ∧ finish.sent = [1, 2, 3] ∧
        finish.outcome = some .returned := ⟨_, rfl, rfl, rfl⟩
  rcases run with ⟨finish, executed, sent, outcome⟩
  have run := run_of_execute executed
  exact ⟨finish, run, sent, outcome, pump_keeps run⟩

end KubectlSshuttle.Cmd.ChunkPump
