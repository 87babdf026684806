import KubectlSshuttle.Lib.Environ
import KubectlSshuttle.Proxy.Deployment

/-!
# The flags of the plugin, and the name of its deployment

All subcommands address a deployment by the name that `effectiveName` makes
of the flags and of the environment.  Without `--name` the name tells the
user and the kind of the transport, and nothing else: two calls address the
same deployment exactly if they are of the same user and of the same kind.
-/

namespace KubectlSshuttle.Cmd.Plugin

open KubectlSshuttle.Lib.RustText
open KubectlSshuttle.Lib.Environ
open KubectlSshuttle.Proxy.Deployment

/-! ## Flags -/

/-- `Config`, before the default of its name. -/
structure Flags where
  context : Text
  namespaceName : Text
  /-- `none` unless `Changed("name")` -/
  name : Option Text
  image : Text
  timeout : Text
  rushtle : Bool
  rushtleServer : Bool
  rushtleImage : Text
  rushtleBin : Text
  chunkBytes : Int
  chunkDelayUs : Int

/-- The defaults of the flags. -/
def Flags.default : Flags where
  context := []
  namespaceName := "default".toList
  name := none
  image := "xjjo/sshuttle".toList
  timeout := "120s".toList
  rushtle := false
  rushtleServer := false
  rushtleImage := "xjjo/rushtle".toList
  rushtleBin := []
  chunkBytes := 0
  chunkDelayUs := 2000

/-- `PersistentPreRunE` -/
def persistentPreRun (flags : Flags) : Except Text Unit :=
  if flags.rushtle ∧ flags.rushtleServer then
    .error
      "--rushtle and --rushtle-server are mutually exclusive".toList
  else .ok ()

/-- `cfg.Rushtle || cfg.RushtleServer` -/
def Flags.useRushtle (flags : Flags) : Bool :=
  flags.rushtle || flags.rushtleServer

/-! ## Names -/

/-- The user that the name is made of, empty if there is none. -/
def user (environ : List Text) : Text :=
  if getenv environ "SUDO_USER".toList ≠ [] then
    getenv environ "SUDO_USER".toList
  else getenv environ "USER".toList

/-- `userPrefix` -/
def userPrefix (environ : List Text) : Text :=
  if user environ ≠ [] then user environ ++ "-".toList else []

/-- `defaultDeployName` -/
def defaultDeployName (environ : List Text) : Text :=
  userPrefix environ ++ "sshuttle-proxy".toList

/-- `effectiveName` -/
def effectiveName (flags : Flags) (environ : List Text) : Text :=
  match flags.name with
  | some name => name
  | none =>
      if flags.useRushtle then
        userPrefix environ ++ "rushtle-proxy".toList
      else defaultDeployName environ

/-- `modeFlagPrefix` -/
def modeFlagPrefix (flags : Flags) : Text :=
  if flags.rushtle then "--rushtle ".toList
  else if flags.rushtleServer then "--rushtle-server ".toList
  else []

/-! ## Calls of kubectl -/

/-- `kubectlArgs` -/
def kubectlArgs (flags : Flags) (extra : List Text) : List Text :=
  (if flags.context ≠ [] then ["--context".toList, flags.context]
    else []) ++
    ["-n".toList, flags.namespaceName] ++ extra

/-- What `create` hands to `proxy.DeploymentYAML`. -/
def createConfig (flags : Flags) (environ : List Text) :
    DeploymentConfig where
  name := effectiveName flags environ
  namespaceName := flags.namespaceName
  image := if flags.useRushtle then flags.rushtleImage else flags.image
  rushtle := flags.useRushtle

/-- `kubectl apply`, which reads the manifest from its standard input. -/
def applyArgs (flags : Flags) : List Text :=
  kubectlArgs flags ["apply".toList, "-f".toList, "-".toList]

/-- `create` waits longer than `connect`. -/
def rolloutArgs (flags : Flags) (environ : List Text) (timeout : Text) :
    List Text :=
  kubectlArgs flags
    ["rollout".toList, "status".toList,
      "deploy/".toList ++ effectiveName flags environ,
      "--timeout=".toList ++ timeout]

/-- `kubectl delete` of the deployment in use. -/
def deleteArgs (flags : Flags) (environ : List Text) : List Text :=
  kubectlArgs flags
    ["delete".toList, "deploy".toList, effectiveName flags environ]

/-- `kubectl get pods`, by the label of the deployment in use. -/
def statusArgs (flags : Flags) (environ : List Text) : List Text :=
  kubectlArgs flags
    ["get".toList, "pods".toList, "-l".toList,
      "app=".toList ++ effectiveName flags environ, "-o".toList,
      "wide".toList]

/-- What `connect` says when the rollout check fails. -/
def notReady (flags : Flags) (environ : List Text) : Text :=
  "proxy deploy/".toList ++ effectiveName flags environ ++
    " is not ready — run 'kubectl sshuttle ".toList ++
    modeFlagPrefix flags ++ "create' first".toList

/-! ## What a name tells -/

section Names

variable {first second : List Text}

/-- The hyphen ends the user. -/
theorem userPrefix_inj :
    userPrefix first = userPrefix second ↔ user first = user second := by
  have ends (name : Text) : name ++ "-".toList ≠ [] := by simp
  constructor
  · intro same
    rw [userPrefix, userPrefix] at same
    split at same
    · split at same
      · exact List.append_cancel_right same
      · exact (ends _ same).elim
    · next none =>
        split at same
        · exact (ends _ same.symm).elim
        · next none' => rw [not_not.mp none, not_not.mp none']
  · intro same
    rw [userPrefix, userPrefix, same]

/-- Whatever stands in front, the names of the two kinds differ. -/
theorem kinds_apart (front back : Text) :
    front ++ "sshuttle-proxy".toList ≠ back ++ "rushtle-proxy".toList := by
  intro same
  have tails := congrArg (fun text => (text.reverse.take 13)) same
  simp only [List.reverse_append] at tails
  rw [List.take_append_of_le_length (by decide),
    List.take_append_of_le_length (by decide)] at tails
  exact absurd tails (by decide)

/-- Without `--name` the name tells the user and the kind. -/
theorem effectiveName_inj {one other : Flags} (given : one.name = none)
    (givenToo : other.name = none) :
    effectiveName one first = effectiveName other second ↔
      user first = user second ∧ one.useRushtle = other.useRushtle := by
  rw [effectiveName, effectiveName, given, givenToo, ← userPrefix_inj]
  dsimp only [defaultDeployName]
  cases one.useRushtle with
  | false =>
      cases other.useRushtle with
      | false => simp
      | true => simpa using kinds_apart _ _
  | true =>
      cases other.useRushtle with
      | false => simpa using (kinds_apart _ _).symm
      | true => simp

end Names

end KubectlSshuttle.Cmd.Plugin
