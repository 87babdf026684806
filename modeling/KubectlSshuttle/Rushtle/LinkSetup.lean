import KubectlSshuttle.Lib.Transition
import KubectlSshuttle.Rushtle.Probe

/-!
# The frame delay during the set-up of the link

`link_setup` spawns the remote command, reads the synchronization header and
calls `ensure_link`; when that fails on a dead pipe, it spawns the command a
second time.  The frame delay is one global that the environment sets first
and that both functions overwrite with the fallback.

The set-up is a program whose actions are the outcomes of its waits: of
spawning, of the header, and of each probe.
-/

namespace KubectlSshuttle.Rushtle.LinkSetup

open KubectlSshuttle.Lib.RustText
open KubectlSshuttle.Lib.Transition
open KubectlSshuttle.Rushtle.Ssnet
open KubectlSshuttle.Rushtle.Probe

/-! ## The initial delay -/

/-- `init_frame_delay_from_env`, with the value of `RUSHTLE_FRAME_DELAY_US`. -/
def initFrameDelayFromEnv (value : Option Text) : Nat :=
  (value.bind (parseUnsigned (2 ^ 64))).getD 0

/-! ## Error texts -/

section Texts

variable (cause : Error → Text)

/-- `{:?}` of a list of indices. -/
def indexList (indices : List Nat) : Text :=
  "[".toList ++ ", ".toList.intercalate (indices.map decimal) ++ "]".toList

/-- `{e:#}` of what `probe_once` fails with. -/
def probeErrorText : ProbeError → Text
  | .sending index error =>
      "sending probe PING #".toList ++ decimal index ++ " (ch=".toList ++
        decimal (probeChannelBase + index) ++ "): ".toList ++ cause error
  | .mismatch index received expected =>
      "probe PONG #".toList ++ decimal index ++
        " payload mismatch (".toList ++ decimal received ++
        " bytes received, ".toList ++ decimal expected ++
        " expected)".toList
  | .eof => "EOF on remote stdout during probe".toList
  | .reading error => cause error
  | .timeout lost total =>
      "probe timeout after 3s, lost ".toList ++ decimal lost.length ++
        "/".toList ++ decimal total ++ " PONGs (idx ".toList ++
        indexList lost ++ ")".toList

/-- What both error contexts advise, behind the frame delay. -/
def advice (fallbackUs : Nat) : Text :=
  " with FRAME_DELAY=".toList ++ decimal fallbackUs ++
    "us — apiserver layer drops frames even with chunking. ".toList ++
    "Try a larger --probe-fallback-us, or fall back to ".toList ++
    "--rushtle-server.".toList

/-- What `ensure_link` fails with. -/
def linkErrorText (fallbackUs : Nat) (error : ProbeError) : Text :=
  "link probe still failing".toList ++ advice fallbackUs ++ ": ".toList ++
    probeErrorText cause error

/-- The context that `link_setup` adds behind the respawn. -/
def respawnErrorText (fallbackUs : Nat) (error : ProbeError) : Text :=
  "probe still failing after respawn".toList ++ advice fallbackUs ++
    ": ".toList ++ linkErrorText cause fallbackUs error

/-- The text of a failed spawn. -/
def spawnErrorText (remoteCmd : Text) (error : Error) : Text :=
  "spawn remote: ".toList ++ remoteCmd ++ ": ".toList ++ cause error

/-- The text of a failed synchronization. -/
def syncErrorText (respawned : Bool) (error : Error) : Text :=
  "waiting for server sync header".toList ++
    (if respawned then " (respawn)".toList else []) ++ ": ".toList ++
    cause error

/-- `is_dead_pipe_err` -/
def isDeadPipeErr (message : Text) : Bool :=
  ["Broken pipe", "os error 32", "EOF on remote stdout", "UnexpectedEof",
    "unexpected end of file"].any fun pattern =>
      contains pattern.toList message

end Texts

/-! ## The program -/

/-- Where the set-up stands; `respawned` behind the respawn. -/
inductive Stage where
  | spawning (respawned : Bool)
  | syncing (respawned : Bool)
  /-- in `ensure_link`; `retried` in its second probe -/
  | probing (respawned retried : Bool)
  | finished (result : Except Text Unit)
deriving DecidableEq

/-- Where the set-up stands, and the delay in force. -/
structure Setup where
  stage : Stage
  frameDelayUs : Nat
deriving DecidableEq

/-- What the set-up waits for. -/
inductive Event where
  | spawned (result : Except Error Unit)
  | synced (result : Except Error Unit)
  | probed (result : Except ProbeError Unit)
deriving DecidableEq

/-- The delay comes from the environment. -/
def Setup.start (value : Option Text) : Setup where
  stage := .spawning false
  frameDelayUs := initFrameDelayFromEnv value

/-- The set-up returns. -/
def Setup.finish (result : Except Text Unit) (setup : Setup) : Setup :=
  { setup with stage := .finished result }

/-- `ensure_link` up to its first probe. -/
def Setup.ensure (fallbackUs : Nat) (respawned : Bool) (setup : Setup) :
    Setup :=
  if fallbackUs = 0 then setup.finish (.ok ())
  else { setup with stage := .probing respawned false }

section Program

variable (cause : Error → Text) (remoteCmd : Text) (fallbackUs : Nat)

/-- What `link_setup` makes of an error of `ensure_link`. -/
def Setup.linkFailed (respawned : Bool) (error : ProbeError)
    (setup : Setup) : Setup :=
  if respawned then
    setup.finish (.error (respawnErrorText cause fallbackUs error))
  else if isDeadPipeErr (linkErrorText cause fallbackUs error) ∧
      0 < fallbackUs then
    { stage := .spawning true, frameDelayUs := fallbackUs }
  else setup.finish (.error (linkErrorText cause fallbackUs error))

/-- One step of `link_setup`. -/
def step (setup : Setup) (event : Event) : Option Setup :=
  match setup.stage, event with
  | .spawning respawned, .spawned (.ok ()) =>
      some { setup with stage := .syncing respawned }
  | .spawning _, .spawned (.error error) =>
      some (setup.finish (.error (spawnErrorText cause remoteCmd error)))
  | .syncing respawned, .synced (.ok ()) =>
      some (setup.ensure fallbackUs respawned)
  | .syncing respawned, .synced (.error error) =>
      some (setup.finish (.error (syncErrorText cause respawned error)))
  | .probing _ _, .probed (.ok ()) => some (setup.finish (.ok ()))
  | .probing respawned false, .probed (.error _) =>
      -- `set_frame_delay_us`, then the retry on the same pipe
      some
        { stage := .probing respawned true
          frameDelayUs := fallbackUs }
  | .probing respawned true, .probed (.error error) =>
      some (setup.linkFailed cause fallbackUs respawned error)
  | _, _ => none

end Program

/-! ## What a step does to the delay -/

/-- The event is a probe that fails. -/
def Event.fails : Event → Bool
  | .probed (.error _) => true
  | _ => false

/-- A probe has failed, and so the fallback has been engaged. -/
def engaged (trace : List Event) : Bool :=
  trace.any Event.fails

/-- The frame delay that the probes so far lead to. -/
def delayAfter (initialUs fallbackUs : Nat) (trace : List Event) : Nat :=
  if engaged trace then fallbackUs else initialUs

/-- A retry is running only where a probe has failed. -/
structure Setup.Follows (initialUs fallbackUs : Nat) (trace : List Event)
    (setup : Setup) : Prop where
  delay : setup.frameDelayUs = delayAfter initialUs fallbackUs trace
  retried : ∀ respawned, setup.stage = .probing respawned true →
    engaged trace = true

section Runs

variable {cause : Error → Text} {remoteCmd : Text} {fallbackUs : Nat}

theorem engaged_concat (trace : List Event) (event : Event) :
    engaged (trace ++ [event]) = (engaged trace || event.fails) := by
  simp [engaged]

theorem engaged_of_isPrefix {before trace : List Event}
    (within : before <+: trace) (failed : engaged before = true) :
    engaged trace = true := by
  rcases List.any_eq_true.mp failed with ⟨event, member, fails⟩
  exact List.any_eq_true.mpr ⟨event, within.mem member, fails⟩

/-- Only a failing probe moves the delay, and only to the fallback. -/
theorem step_cases {setup next : Setup} {event : Event}
    (taken : step cause remoteCmd fallbackUs setup event = some next) :
    (event.fails = false ∧ next.frameDelayUs = setup.frameDelayUs ∧
        ∀ respawned, next.stage ≠ .probing respawned true) ∨
      (event.fails = true ∧ next.frameDelayUs = fallbackUs) ∨
      ∃ respawned, event.fails = true ∧
        setup.stage = .probing respawned true ∧
        next.frameDelayUs = setup.frameDelayUs ∧
        ∀ respawned, next.stage ≠ .probing respawned true := by
  unfold step at taken
  split at taken
  case h_1 respawned _ =>
    rcases Option.some.inj taken with rfl
    exact .inl ⟨rfl, rfl, by simp⟩
  case h_2 error _ =>
    rcases Option.some.inj taken with rfl
    exact .inl ⟨rfl, rfl, by simp [Setup.finish]⟩
  case h_3 respawned _ =>
    rcases Option.some.inj taken with rfl
    refine .inl ⟨rfl, ?_⟩
    rw [Setup.ensure]
    split <;> exact ⟨rfl, by simp [Setup.finish]⟩
  case h_4 respawned error _ =>
    rcases Option.some.inj taken with rfl
    exact .inl ⟨rfl, rfl, by simp [Setup.finish]⟩
  case h_5 _ =>
    rcases Option.some.inj taken with rfl
    exact .inl ⟨rfl, rfl, by simp [Setup.finish]⟩
  case h_6 respawned error _ =>
    rcases Option.some.inj taken with rfl
    exact .inr (.inl ⟨rfl, rfl⟩)
  case h_7 respawned error retrying =>
    rcases Option.some.inj taken with rfl
    rw [Setup.linkFailed]
    split
    · exact .inr (.inr ⟨respawned, rfl, retrying, rfl, by
        simp [Setup.finish]⟩)
    · split
      · exact .inr (.inl ⟨rfl, rfl⟩)
      · exact .inr (.inr ⟨respawned, rfl, retrying, rfl, by
          simp [Setup.finish]⟩)
  case h_8 => cases taken

/-- Along every run, the delay is the one that its probes lead to. -/
theorem follows_of_run {value : Option Text} {trace : List Event}
    {finish : Setup}
    (run : Run (step cause remoteCmd fallbackUs) (.start value) trace
      finish) :
    finish.Follows (initFrameDelayFromEnv value) fallbackUs trace := by
  refine run.invariant ⟨rfl, by simp [Setup.start]⟩ ?_
  intro trace setup event next _ follows taken
  have delay := follows.delay
  rcases step_cases taken with
    ⟨quiet, same, left⟩ | ⟨fails, moved⟩ |
      ⟨respawned, fails, retrying, same, left⟩
  · refine ⟨?_, fun respawned at_ => (left respawned at_).elim⟩
    rw [same, delay, delayAfter, delayAfter, engaged_concat, quiet,
      Bool.or_false]
  · have failed : engaged (trace ++ [event]) = true := by
      rw [engaged_concat, fails, Bool.or_true]
    refine ⟨?_, fun _ _ => failed⟩
    rw [moved, delayAfter, if_pos failed]
  · have failed := follows.retried respawned retrying
    refine ⟨?_, fun respawned at_ => (left respawned at_).elim⟩
    rw [same, delay, delayAfter, delayAfter, engaged_concat, failed,
      Bool.true_or]

end Runs

/-! ## `ensure_link` as part of the set-up -/

section Ensure

variable {cause : Error → Text} {remoteCmd : Text} {fallbackUs : Nat}

/--
The set-up follows every run of `ensure_link` that ends, to the same frame
delay; the link is up where `ensure_link` succeeds.
-/
theorem run_of_ensureLink {Arrived : Type} {view : Arrived → Frame}
    {setup : Setup} {firstUnwritten secondUnwritten : Option (Nat × Error)}
    {events : List (ProbeEvent Arrived)} {outcome : LinkOutcome Arrived}
    (respawned : Bool)
    (linked : ensureLink view fallbackUs setup.frameDelayUs firstUnwritten
      secondUnwritten events = some outcome) :
    ∃ trace finish, Run (step cause remoteCmd fallbackUs)
        (setup.ensure fallbackUs respawned) trace finish ∧
      finish.frameDelayUs = outcome.frameDelayUs ∧
      (outcome.result = .ok () → finish.stage = .finished (.ok ())) := by
  rw [ensureLink] at linked
  rw [Setup.ensure]
  split at linked
  · next disabled =>
      rcases Option.some.inj linked with rfl
      rw [if_pos disabled]
      exact ⟨[], _, .start, rfl, fun _ => rfl⟩
  · next probes =>
      rw [if_neg probes]
      split at linked
      · cases linked
      · next left first =>
          rcases Option.some.inj linked with rfl
          exact ⟨[.probed (.ok ())], _, .single rfl, rfl, fun _ => rfl⟩
      · next error left first =>
          -- the retry runs with the fallback
          have retry : Run (step cause remoteCmd fallbackUs)
              { setup with stage := .probing respawned false }
              [.probed (.error error)]
              { stage := .probing respawned true
                frameDelayUs := fallbackUs } := .single rfl
          split at linked
          · cases linked
          · next left second =>
              rcases Option.some.inj linked with rfl
              exact ⟨[_, .probed (.ok ())], _, retry.extend rfl,
                rfl, fun _ => rfl⟩
          · next cause left second =>
              rcases Option.some.inj linked with rfl
              refine ⟨[_, .probed (.error cause)], _, retry.extend rfl,
                ?_, by simp⟩
              rw [Setup.linkFailed]
              split
              · rfl
              · split <;> rfl

end Ensure

/-! ## The link is not made faster -/

/-- The delay is not below the initial one, nor below an engaged fallback. -/
structure Setup.NotFaster (initialUs fallbackUs : Nat) (trace : List Event)
    (setup : Setup) : Prop where
  initial : initialUs ≤ setup.frameDelayUs
  fallback : engaged trace = true → fallbackUs ≤ setup.frameDelayUs

section Speed

variable {cause : Error → Text} {remoteCmd : Text} {fallbackUs : Nat}

/--
Every state of the run keeps the delay up exactly if the initial delay is at
most the fallback, or no probe of the run fails.
-/
theorem notFaster_iff {value : Option Text} {trace : List Event}
    {finish : Setup}
    (run : Run (step cause remoteCmd fallbackUs) (.start value) trace
      finish) :
    (∀ before setup, before <+: trace →
      Run (step cause remoteCmd fallbackUs) (.start value) before setup →
        setup.NotFaster (initFrameDelayFromEnv value) fallbackUs before) ↔
      initFrameDelayFromEnv value ≤ fallbackUs ∨ engaged trace = false := by
  constructor
  · intro notFaster
    have kept := (notFaster trace finish (List.prefix_refl trace) run).initial
    rw [(follows_of_run run).delay, delayAfter] at kept
    cases failed : engaged trace with
    | false => exact .inr rfl
    | true => exact .inl (by simpa [failed] using kept)
  · intro slow before setup within reached
    have delay := (follows_of_run reached).delay
    rw [delayAfter] at delay
    cases failed : engaged before with
    | false =>
        rw [failed, if_neg Bool.false_ne_true] at delay
        exact ⟨delay.ge, by simp [failed]⟩
    | true =>
        rw [failed, if_pos rfl] at delay
        have low := slow.resolve_right
          (by simp [engaged_of_isPrefix within failed])
        exact ⟨delay ▸ low, fun _ => delay.ge⟩

end Speed

/-- A pinned delay of 5 ms, and a first probe that loses an answer. -/
def pinnedTrace : List Event :=
  [.spawned (.ok ()), .synced (.ok ()), .probed (.error (.timeout [3] 16))]

theorem notFaster_iff_pinned :
    ∃ finish, Run (step (fun _ => []) [] 2000)
        (.start (some "5000".toList)) pinnedTrace finish ∧
      ((∀ before setup, before <+: pinnedTrace →
        Run (step (fun _ => []) [] 2000) (.start (some "5000".toList))
          before setup →
            setup.NotFaster (initFrameDelayFromEnv (some "5000".toList))
              2000 before) ↔
        initFrameDelayFromEnv (some "5000".toList) ≤ 2000 ∨
          engaged pinnedTrace = false) := by
  have run : Run (step (fun _ => []) [] 2000)
      (.start (some "5000".toList)) pinnedTrace
      ⟨.probing false true, 2000⟩ := run_of_execute (by decide)
  exact ⟨_, run, notFaster_iff run⟩

/-- The pinned delay is lowered. -/
theorem pinned_delay_lowered :
    ∃ finish, Run (step (fun _ => []) [] 2000)
        (.start (some "5000".toList)) pinnedTrace finish ∧
      initFrameDelayFromEnv (some "5000".toList) = 5000 ∧
      finish.frameDelayUs = 2000 ∧
      ¬ finish.NotFaster 5000 2000 pinnedTrace := by
  refine ⟨⟨.probing false true, 2000⟩, run_of_execute (by decide),
    by decide, rfl, fun kept => ?_⟩
  exact absurd kept.initial (by decide)

end KubectlSshuttle.Rushtle.LinkSetup
