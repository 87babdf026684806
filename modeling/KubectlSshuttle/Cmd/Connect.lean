import KubectlSshuttle.Cmd.SshProxy
import KubectlSshuttle.Rushtle.LinkSetup

/-!
# `connect`, and the frame delay that it pins

`connect` replaces itself by sshuttle or by the local rushtle client.  With
`--chunk-bytes` the client is to space its frames from the first one on: the
delay goes into the environment, and behind `--probe-fallback-us` as well,
where the set-up of the link takes it from once a probe fails.
-/

namespace KubectlSshuttle.Cmd.Connect

open KubectlSshuttle.Lib.RustText
open KubectlSshuttle.Lib.Environ
open KubectlSshuttle.Lib.Shell
open KubectlSshuttle.Lib.Transition
open KubectlSshuttle.Cmd.KubectlExec
open KubectlSshuttle.Cmd.Plugin
open KubectlSshuttle.Cmd.SshProxy
open KubectlSshuttle.Rushtle.LinkSetup

/-! ## What `connect` starts -/

/-- What `connect` finds on the machine that it runs on. -/
structure Host where
  environ : List Text
  /-- the rollout check succeeds -/
  ready : Bool
  /-- `os.Executable()` -/
  self : Option Text
  /-- the file `rushtle` next to the executable, behind its links -/
  sibling : Option Text
  lookPath : Text → Option Text

/-- The arguments of `syscall.Exec`. -/
structure Exec where
  path : Text
  argv : List Text
  environ : List Text
deriving DecidableEq

/-- What `connect` fails at. -/
inductive ConnectError where
  | notReady (message : Text)
  /-- `resolving self binary: ...` -/
  | noSelf
  /-- `sshuttle not found in PATH ...` -/
  | noSshuttle
  /-- `rushtle binary not found ...` -/
  | noRushtle
deriving DecidableEq

section Commands

variable (flags : Flags) (host : Host)

/-- `runSshuttle` -/
def runSshuttle (args : List Text) (pythonBin : Text) :
    Except ConnectError Exec :=
  match host.self with
  | none => .error .noSelf
  | some self =>
      match host.lookPath "sshuttle".toList with
      | none => .error .noSshuttle
      | some path =>
          .ok
            { path
              argv := sshuttleArgs self pythonBin args
              environ := sshuttleEnviron flags host.environ }

/-- `resolveRushtleBin` -/
def resolveRushtleBin : Except ConnectError Text :=
  if flags.rushtleBin ≠ [] then .ok flags.rushtleBin
  else if getenv host.environ "RUSHTLE_BIN".toList ≠ [] then
    .ok (getenv host.environ "RUSHTLE_BIN".toList)
  else
    match host.sibling with
    | some candidate => .ok candidate
    | none =>
        match host.lookPath "rushtle".toList with
        | some path => .ok path
        | none => .error .noRushtle

/-- The variable that sets the frame delay of the client. -/
def envFrameDelay : Text := "RUSHTLE_FRAME_DELAY_US".toList

/-- The option that sets the frame delay of the fallback. -/
def probeFallbackFlag : Text := "--probe-fallback-us".toList

/-- The command that the client runs for the server in the pod. -/
def remoteCmd : Text :=
  kubectlExecRushtleServer flags.context flags.namespaceName
    (effectiveName flags host.environ)

/-- The command line of the client that `runRushtle` executes. -/
def rushtleArgs (args : List Text) : List Text :=
  ["rushtle".toList, "client".toList, "--cmd".toList,
    remoteCmd flags host, probeFallbackFlag, itoa flags.chunkDelayUs] ++ args

/-- With chunking, the frame delay is appended to the environment. -/
def rushtleEnviron : List Text :=
  host.environ ++
    if 0 < flags.chunkBytes then
      [entry envFrameDelay (itoa flags.chunkDelayUs)]
    else []

/-- `runRushtle` -/
def runRushtle (args : List Text) : Except ConnectError Exec :=
  match resolveRushtleBin flags host with
  | .error error => .error error
  | .ok path =>
      .ok
        { path
          argv := rushtleArgs flags host args
          environ := rushtleEnviron flags host }

/-- `connect` -/
def connect (args : List Text) : Except ConnectError Exec :=
  if host.ready = false then
    .error (.notReady (notReady flags host.environ))
  else if flags.rushtle then runRushtle flags host args
  else if flags.rushtleServer then
    runSshuttle flags host args "/usr/local/bin/rushtle".toList
  else runSshuttle flags host args "python3".toList

end Commands

/-! ## What the client makes of it -/

/--
The parser of the client's command line, which is a library's: of an argument
vector that it accepts, the value of `--probe-fallback-us`.
-/
abbrev Parser := List Text → Option Nat

/--
An option is given at most once, and its value is the argument behind it; for
`probe_fallback_us` that is a `u64`.  The parser refuses any other vector.
-/
def Parser.ReadsFallback (parser : Parser) : Prop :=
  ∀ program cmd value args fallbackUs,
    parser ([program, "client".toList, "--cmd".toList, cmd,
        probeFallbackFlag, value] ++ args) = some fallbackUs →
      parseUnsigned (2 ^ 64) value = some fallbackUs

/-- The value that `init_frame_delay_from_env` finds. -/
def frameDelayVariable (environ : List Text) : Option Text :=
  lookup environ envFrameDelay

/-- The delay is the same in every state of every set-up of the link. -/
def Pins (exec : Exec) (fallbackUs frameDelayUs : Nat) : Prop :=
  ∀ cause cmd trace setup,
    Run (step cause cmd fallbackUs)
        (.start (frameDelayVariable exec.environ)) trace setup →
      setup.frameDelayUs = frameDelayUs

section Pinned

variable {flags : Flags} {host : Host} {args : List Text} {exec : Exec}
  {parser : Parser} {fallbackUs : Nat}

/-- In rushtle mode a call that starts is that of `runRushtle`. -/
theorem exec_of_connect (rushtle : flags.rushtle = true)
    (started : connect flags host args = .ok exec) :
    exec.argv = rushtleArgs flags host args ∧
      exec.environ = rushtleEnviron flags host := by
  rw [connect] at started
  split at started
  · cases started
  · rw [runRushtle] at started
    split at started
    · cases started
    · cases started
      exact ⟨rfl, rfl⟩

theorem itoa_toNat {number : Int} (nonneg : 0 ≤ number) :
    itoa number = decimal number.toNat := by
  cases number with
  | ofNat number => rfl
  | negSucc number => exact absurd nonneg (by simp)

/-- What the option says is what the flag says. -/
theorem fallbackUs_eq (reads : parser.ReadsFallback)
    (nonneg : 0 ≤ flags.chunkDelayUs) (isInt : IsInt flags.chunkDelayUs)
    (accepted : parser (rushtleArgs flags host args) = some fallbackUs) :
    fallbackUs = flags.chunkDelayUs.toNat := by
  have small : flags.chunkDelayUs.toNat < 2 ^ 64 := by
    have := isInt.2
    rw [maxInt] at this
    omega
  have value := reads _ _ _ _ _ accepted
  rw [itoa_toNat nonneg, parseUnsigned_decimal small] at value
  exact (Option.some.inj value).symm

/-- The variable is what stood there before, and the flag otherwise. -/
theorem initial_rushtleEnviron (chunking : 0 < flags.chunkBytes)
    (nonneg : 0 ≤ flags.chunkDelayUs) (isInt : IsInt flags.chunkDelayUs)
    (host : Host) :
    initFrameDelayFromEnv (frameDelayVariable (rushtleEnviron flags host)) =
        flags.chunkDelayUs.toNat ↔
      Reads host.environ envFrameDelay (initFrameDelayFromEnv ∘ some)
        flags.chunkDelayUs.toNat := by
  have small : flags.chunkDelayUs.toNat < 2 ^ 64 := by
    have := isInt.2
    rw [maxInt] at this
    omega
  have given : initFrameDelayFromEnv (some (itoa flags.chunkDelayUs)) =
      flags.chunkDelayUs.toNat := by
    rw [initFrameDelayFromEnv, Option.bind_some, itoa_toNat nonneg,
      parseUnsigned_decimal small]
    rfl
  rw [frameDelayVariable, rushtleEnviron, if_pos chunking, lookup_append,
    lookup_entry_cons (by decide), if_pos rfl]
  cases earlier : lookup host.environ envFrameDelay with
  | none => simp [Reads, earlier, given]
  | some mentioned => simp [Reads, earlier]

/--
With `--chunk-bytes`, a client that accepts its arguments keeps to the delay
of the flag in every state of every set-up, whichever probes fail, exactly if
no earlier mention of the variable reads as another delay.
-/
theorem pins_iff (reads : parser.ReadsFallback)
    (started : connect flags host args = .ok exec)
    (accepted : parser exec.argv = some fallbackUs)
    (rushtle : flags.rushtle = true) (chunking : 0 < flags.chunkBytes)
    (nonneg : 0 ≤ flags.chunkDelayUs) (isInt : IsInt flags.chunkDelayUs) :
    Pins exec fallbackUs flags.chunkDelayUs.toNat ↔
      Reads host.environ envFrameDelay (initFrameDelayFromEnv ∘ some)
        flags.chunkDelayUs.toNat := by
  rcases exec_of_connect rushtle started with ⟨argv, environ⟩
  rw [argv] at accepted
  rw [← initial_rushtleEnviron chunking nonneg isInt host, ← environ,
    fallbackUs_eq reads nonneg isInt accepted]
  constructor
  · intro pinned
    exact pinned (fun _ => []) [] [] _ .start
  · intro initial cause cmd trace setup run
    -- the fallback is no other delay
    rw [(follows_of_run run).delay, delayAfter, initial, ite_self]

end Pinned

/-- A machine with a sibling binary and with these variables. -/
def hostWith (environ : List Text) : Host where
  environ
  ready := true
  self := some "/k/kubectl-sshuttle".toList
  sibling := some "/k/rushtle".toList
  lookPath := fun _ => none

/-- Flags for chunks every 5 ms. -/
def chunkingFlags : Flags :=
  { Flags.default with rushtle := true, chunkBytes := 768,
                       chunkDelayUs := 5000 }

/-- A parser of the two options in front of one network. -/
def oneNetwork : Parser
  | [_, client, cmd, _, option, value, _] =>
      if client = "client".toList ∧ cmd = "--cmd".toList ∧
          option = probeFallbackFlag then
        parseUnsigned (2 ^ 64) value
      else none
  | _ => none

theorem oneNetwork_readsFallback : oneNetwork.ReadsFallback := by
  intro program cmd value args fallbackUs accepted
  match args with
  | [] => cases accepted
  | _ :: _ :: _ => cases accepted
  | [network] =>
      simpa [oneNetwork] using accepted

/-- A variable from an earlier session takes the place of the flag. -/
theorem pins_leftover :
    (∃ exec, connect chunkingFlags (hostWith ["USER=ann".toList])
        ["10.0.0.0/8".toList] = .ok exec ∧ Pins exec 5000 5000) ∧
      ∃ exec, connect chunkingFlags
          (hostWith ["RUSHTLE_FRAME_DELAY_US=1".toList])
          ["10.0.0.0/8".toList] = .ok exec ∧ ¬ Pins exec 5000 5000 := by
  constructor
  · refine ⟨_, rfl, (@pins_iff chunkingFlags
      (hostWith ["USER=ann".toList]) _ _ oneNetwork 5000
      oneNetwork_readsFallback rfl (by decide) rfl (by decide) (by decide)
      (by decide)).mpr ?_⟩
    intro earlier mentioned
    exact absurd mentioned (by rw [show lookup _ _ = none by decide]; simp)
  · refine ⟨_, rfl, fun pinned => ?_⟩
    have reads := (@pins_iff chunkingFlags
      (hostWith ["RUSHTLE_FRAME_DELAY_US=1".toList]) _ _ oneNetwork 5000
      oneNetwork_readsFallback rfl (by decide) rfl (by decide) (by decide)
      (by decide)).mp pinned
    exact absurd (reads "1".toList (by decide)) (by decide)

end KubectlSshuttle.Cmd.Connect
