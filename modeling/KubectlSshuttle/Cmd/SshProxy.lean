import KubectlSshuttle.Cmd.KubectlExec
import KubectlSshuttle.Cmd.Plugin

/-!
# From `connect` to `ssh-proxy`

`connect` replaces itself by sshuttle, and sshuttle starts the plugin once more
as its `--ssh-cmd`.  The flags reach that second process as variables that
`connect` appends to its environment.  As the first mention of a variable
counts, a variable that was there before hides the flag.
-/

namespace KubectlSshuttle.Cmd.SshProxy

open KubectlSshuttle.Lib.RustText
open KubectlSshuttle.Lib.Environ
open KubectlSshuttle.Lib.Shell
open KubectlSshuttle.Cmd.KubectlExec
open KubectlSshuttle.Cmd.Plugin

/-! ## The variables -/

/-- Always set by `connect`, empty without `--context`. -/
def envContext : Text := "KUBECTL_SSHUTTLE_CONTEXT".toList

/-- The namespace of the deployment. -/
def envNamespace : Text := "KUBECTL_SSHUTTLE_NAMESPACE".toList

/-- The name of the deployment. -/
def envName : Text := "KUBECTL_SSHUTTLE_NAME".toList

/-- Only set if `--chunk-bytes` is positive. -/
def envChunk : Text := "KUBECTL_SSHUTTLE_CHUNK_BYTES".toList

/-- Set together with the former. -/
def envChunkDelayUs : Text := "KUBECTL_SSHUTTLE_CHUNK_DELAY_US".toList

/-- The entries that `runSshuttle` appends to its environment. -/
def appended (flags : Flags) (environ : List Text) : List Text :=
  [entry envContext flags.context,
    entry envNamespace flags.namespaceName,
    entry envName (effectiveName flags environ)] ++
    if 0 < flags.chunkBytes then
      [entry envChunk (itoa flags.chunkBytes),
        entry envChunkDelayUs (itoa flags.chunkDelayUs)]
    else []

/-- The environment that `runSshuttle` starts sshuttle in. -/
def sshuttleEnviron (flags : Flags) (environ : List Text) : List Text :=
  environ ++ appended flags environ

/-- What `runSshuttle` starts, behind `sshuttle`. -/
def sshuttleArgs (self pythonBin : Text) (args : List Text) : List Text :=
  ["sshuttle".toList, "--ssh-cmd".toList, self ++ " ssh-proxy".toList,
    "-r".toList, "ignored".toList, "--python=".toList ++ pythonBin] ++ args

/-! ## The second process -/

/-- `ParseSSHArgs`: what stands behind the first `--` that is not the last. -/
def parseSSHArgs : List Text → Option (List Text)
  | [] => none
  | arg :: rest =>
      if arg = "--".toList ∧ rest ≠ [] then some rest
      else parseSSHArgs rest

/-- How kubectl is run. -/
inductive Plan where
  /-- `syscall.Exec` -/
  | replace (path : Text) (argv : List Text)
  /-- `runKubectlChunked`, with its delay in nanoseconds -/
  | chunked (path : Text) (args : List Text) (chunkBytes delay : Int)
deriving DecidableEq

/-- What `ssh-proxy` fails at. -/
inductive ProxyError where
  /-- `ssh-proxy: KUBECTL_SSHUTTLE_NAME not set ...` -/
  | nameUnset
  /-- `ssh-proxy: no '--' separator found in args: ...` -/
  | noSeparator (args : List Text)
  /-- `kubectl not found in PATH` -/
  | noKubectl
deriving DecidableEq

/-- What `ssh-proxy` takes from its environment. -/
structure Settings where
  context : Text
  namespaceName : Text
  name : Text
  chunkBytes : Int
  chunkDelayUs : Int
deriving DecidableEq

/-- The settings, from the environment. -/
def settings (environ : List Text) : Settings where
  context := getenv environ envContext
  namespaceName := getenv environ envNamespace
  name := getenv environ envName
  chunkBytes := atoi (getenv environ envChunk)
  chunkDelayUs := atoi (getenv environ envChunkDelayUs)

/-- The command of the remote side, in a shell as with SSH. -/
def shellCmd (remoteCmd : List Text) : List Text :=
  ["sh".toList, "-c".toList, join remoteCmd]

/-- Either kubectl replaces the process, or the pump feeds it. -/
def Settings.plan (settings : Settings) (path : Text)
    (remoteCmd : List Text) : Plan :=
  let execArgs := buildKubectlExecArgs settings.context
    settings.namespaceName settings.name (shellCmd remoteCmd)
  if 0 < settings.chunkBytes then
    .chunked path execArgs settings.chunkBytes
      (microseconds settings.chunkDelayUs)
  else .replace path ("kubectl".toList :: execArgs)

/-- `ssh-proxy`; the path is that of `exec.LookPath("kubectl")`. -/
def sshProxy (environ : List Text) (kubectlPath : Option Text)
    (args : List Text) : Except ProxyError Plan :=
  if (settings environ).name = [] then .error .nameUnset
  else
    match parseSSHArgs args with
    | none => .error (.noSeparator args)
    | some remoteCmd =>
        match kubectlPath with
        | none => .error .noKubectl
        | some path => .ok ((settings environ).plan path remoteCmd)

/-- The call that the flags of `connect` ask for. -/
def asked (flags : Flags) (environ : List Text) : Settings where
  context := flags.context
  namespaceName := flags.namespaceName
  name := effectiveName flags environ
  chunkBytes := flags.chunkBytes
  chunkDelayUs := flags.chunkDelayUs

/-! ## What is parsed -/

/-- The remote command stands behind the first separator. -/
theorem parseSSHArgs_eq_some_iff {args remoteCmd : List Text} :
    parseSSHArgs args = some remoteCmd ↔
      ∃ front, args = front ++ "--".toList :: remoteCmd ∧
        remoteCmd ≠ [] ∧ "--".toList ∉ front := by
  induction args with
  | nil => simp [parseSSHArgs]
  | cons arg rest induction =>
      rw [parseSSHArgs]
      by_cases here : arg = "--".toList ∧ rest ≠ []
      · rw [if_pos here, Option.some.injEq]
        constructor
        · rintro rfl
          exact ⟨[], by rw [here.1]; rfl, here.2, List.not_mem_nil⟩
        · rintro ⟨front, split, _, absent⟩
          cases front with
          | nil => exact (List.cons.inj split).2
          | cons first others =>
              have same := (List.cons.inj split).1
              exact (absent (by rw [← same, here.1]; simp)).elim
      · rw [if_neg here, induction]
        constructor
        · rintro ⟨front, split, some_, absent⟩
          have other : "--".toList ≠ arg := by
            rintro same
            refine here ⟨same.symm, ?_⟩
            rw [split]
            simp
          refine ⟨arg :: front, by rw [split]; rfl, some_, ?_⟩
          simp only [List.mem_cons, not_or]
          exact ⟨other, absent⟩
        · rintro ⟨front, split, some_, absent⟩
          cases front with
          | nil =>
              rcases List.cons.inj split with ⟨same, rfl⟩
              exact (here ⟨same, some_⟩).elim
          | cons first others =>
              rcases List.cons.inj split with ⟨_, rfl⟩
              exact ⟨others, rfl, some_,
                fun member => absent (List.mem_cons_of_mem _ member)⟩

/-- An option with a value, and none without one. -/
theorem option_inj {flag value other : Text} {rest rest' : List Text}
    (apart : rest.head? ≠ some flag) (apart' : rest'.head? ≠ some flag)
    (same : (if value ≠ [] then [flag, value] else []) ++ rest =
      (if other ≠ [] then [flag, other] else []) ++ rest') :
    value = other ∧ rest = rest' := by
  split at same
  · split at same
    · rcases List.cons.inj same with ⟨_, tail⟩
      exact List.cons.inj tail
    · exact (apart' (by rw [← show _ = rest' from same]; rfl)).elim
  · next none =>
      split at same
      · exact (apart (by rw [show rest = _ from same]; rfl)).elim
      · next none' =>
          exact ⟨(not_not.mp none).trans (not_not.mp none').symm, same⟩

/-- The names can be read off the call of kubectl. -/
theorem buildKubectlExecArgs_inj
    {context namespaceName name context' namespaceName' name' : Text}
    {remoteCmd : List Text}
    (same : buildKubectlExecArgs context namespaceName name remoteCmd =
      buildKubectlExecArgs context' namespaceName' name' remoteCmd) :
    context = context' ∧ namespaceName = namespaceName' ∧ name = name' := by
  simp only [buildKubectlExecArgs, List.append_assoc] at same
  have noOption {value : Text} {rest : List Text} :
      (["exec".toList, "-i".toList, value] ++ rest).head? ≠
        some "-n".toList := by
    exact fun head => absurd (Option.some.inj head) (by decide)
  have noContext {value name : Text} {rest : List Text} :
      ((if value ≠ [] then ["-n".toList, value] else []) ++
        (["exec".toList, "-i".toList, name] ++ rest)).head? ≠
          some "--context".toList := by
    split <;> exact fun head => absurd (Option.some.inj head) (by decide)
  rcases option_inj noContext noContext same with ⟨sameContext, later⟩
  rcases option_inj noOption noOption later with ⟨sameNamespace, last⟩
  refine ⟨sameContext, sameNamespace, ?_⟩
  simp only [List.cons_append, List.cons.injEq, true_and] at last
  exact List.append_cancel_left last.1

/-! ## What arrives -/

/-- An earlier mention of the variable, if any, reads as the same. -/
def Reads {α : Type} (environ : List Text) (key : Text) (read : Text → α)
    (value : α) : Prop :=
  ∀ earlier, lookup environ key = some earlier → read earlier = value

/-- No variable was there before with another meaning. -/
structure Undisturbed (flags : Flags) (environ : List Text) : Prop where
  context : Reads environ envContext id flags.context
  namespaceName : Reads environ envNamespace id flags.namespaceName
  name : Reads environ envName id (effectiveName flags environ)
  chunked : 0 < flags.chunkBytes →
    Reads environ envChunk atoi flags.chunkBytes ∧
      Reads environ envChunkDelayUs (microseconds ∘ atoi)
        (microseconds flags.chunkDelayUs)
  plain : flags.chunkBytes ≤ 0 →
    ∀ earlier, lookup environ envChunk = some earlier → atoi earlier ≤ 0

/-- sshuttle leaves the variables of the plugin as it found them. -/
def HandedOn (flags : Flags) (environ handed : List Text) : Prop :=
  ∀ key ∈ [envContext, envNamespace, envName, envChunk, envChunkDelayUs],
    lookup handed key = lookup (sshuttleEnviron flags environ) key

section Arrival

variable {flags : Flags} {environ handed : List Text}

theorem lookup_appended (flags : Flags) (environ : List Text) (key : Text) :
    lookup (appended flags environ) key =
      if envContext = key then some flags.context
      else if envNamespace = key then some flags.namespaceName
      else if envName = key then some (effectiveName flags environ)
      else if 0 < flags.chunkBytes then
        if envChunk = key then some (itoa flags.chunkBytes)
        else if envChunkDelayUs = key then some (itoa flags.chunkDelayUs)
        else none
      else none := by
  have context : '=' ∉ envContext := by decide
  have namespaceName : '=' ∉ envNamespace := by decide
  have name : '=' ∉ envName := by decide
  have chunk : '=' ∉ envChunk := by decide
  have delay : '=' ∉ envChunkDelayUs := by decide
  simp only [appended, List.cons_append, List.nil_append,
    lookup_entry_cons context, lookup_entry_cons namespaceName,
    lookup_entry_cons name]
  by_cases chunking : 0 < flags.chunkBytes
  · simp only [if_pos chunking, lookup_entry_cons chunk,
      lookup_entry_cons delay]
    rfl
  · simp only [if_neg chunking]
    rfl

/-- What is appended counts unless the variable is mentioned before. -/
theorem reads_iff {α : Type} {key value : Text} (read : Text → α)
    (handedOn : lookup handed key =
      lookup (sshuttleEnviron flags environ) key)
    (added : lookup (appended flags environ) key = some value) :
    read (getenv handed key) = read value ↔
      Reads environ key read (read value) := by
  rw [getenv, handedOn, sshuttleEnviron, lookup_append, added]
  cases earlier : lookup environ key with
  | none => simp [Reads, earlier]
  | some mentioned => simp [Reads, earlier]

/-- Without chunking the plugin leaves the variable as it is. -/
theorem plain_iff
    (handedOn : lookup handed envChunk =
      lookup (sshuttleEnviron flags environ) envChunk)
    (plain : flags.chunkBytes ≤ 0) :
    atoi (getenv handed envChunk) ≤ 0 ↔
      ∀ earlier, lookup environ envChunk = some earlier →
        atoi earlier ≤ 0 := by
  have added : lookup (appended flags environ) envChunk = none := by
    rw [lookup_appended, if_neg (by decide), if_neg (by decide),
      if_neg (by decide), if_neg (Int.not_lt.mpr plain)]
  rw [getenv, handedOn, sshuttleEnviron, lookup_append, added,
    Option.or_none]
  cases earlier : lookup environ envChunk with
  | none => simp [show atoi [] = 0 by decide]
  | some mentioned => simp

/-- The two calls agree where all that they are made of agrees. -/
theorem plan_eq_iff {one other : Settings} {path : Text}
    {remoteCmd : List Text} :
    one.plan path remoteCmd = other.plan path remoteCmd ↔
      one.context = other.context ∧
        one.namespaceName = other.namespaceName ∧
        one.name = other.name ∧
        (0 < other.chunkBytes → one.chunkBytes = other.chunkBytes ∧
          microseconds one.chunkDelayUs =
            microseconds other.chunkDelayUs) ∧
        (other.chunkBytes ≤ 0 → one.chunkBytes ≤ 0) := by
  constructor
  · intro same
    simp only [Settings.plan] at same
    split at same
    · next chunking =>
        split at same
        · next chunkingToo =>
            injection same with _ call size delay
            rcases buildKubectlExecArgs_inj call with
              ⟨context, namespaceName, name⟩
            exact ⟨context, namespaceName, name, fun _ => ⟨size, delay⟩,
              fun plain => absurd chunkingToo (Int.not_lt.mpr plain)⟩
        · exact Plan.noConfusion same
    · next plain =>
        split at same
        · exact Plan.noConfusion same
        · next plainToo =>
            injection same with _ call
            rcases buildKubectlExecArgs_inj (List.cons.inj call).2 with
              ⟨context, namespaceName, name⟩
            exact ⟨context, namespaceName, name,
              fun chunking => absurd chunking plainToo,
              fun _ => Int.not_lt.mp plain⟩
  · rintro ⟨context, namespaceName, name, chunked, plain⟩
    simp only [Settings.plan, context, namespaceName, name]
    by_cases chunking : 0 < other.chunkBytes
    · rcases chunked chunking with ⟨size, delay⟩
      rw [size, if_pos chunking, if_pos chunking, delay]
    · rw [if_neg (Int.not_lt.mpr (plain (Int.not_lt.mp chunking))),
        if_neg chunking]

/-- What the second process takes from its environment. -/
theorem settings_agree_iff (handedOn : HandedOn flags environ handed)
    (size : IsInt flags.chunkBytes) (delay : IsInt flags.chunkDelayUs)
    (path : Text) (remoteCmd : List Text) :
    (settings handed).plan path remoteCmd =
        (asked flags environ).plan path remoteCmd ↔
      Undisturbed flags environ := by
  have context := reads_iff id
    (handedOn envContext (by simp))
    (show _ = some flags.context by
      rw [lookup_appended, if_pos rfl])
  have namespaceName := reads_iff id
    (handedOn envNamespace (by simp))
    (show _ = some flags.namespaceName by
      rw [lookup_appended, if_neg (by decide), if_pos rfl])
  have name := reads_iff id
    (handedOn envName (by simp))
    (show _ = some (effectiveName flags environ) by
      rw [lookup_appended, if_neg (by decide), if_neg (by decide),
        if_pos rfl])
  have chunk (chunking : 0 < flags.chunkBytes) :=
    reads_iff atoi (handedOn envChunk (by simp))
      (show _ = some (itoa flags.chunkBytes) by
        rw [lookup_appended, if_neg (by decide), if_neg (by decide),
          if_neg (by decide), if_pos chunking, if_pos rfl])
  have pause (chunking : 0 < flags.chunkBytes) :=
    reads_iff (microseconds ∘ atoi)
      (handedOn envChunkDelayUs (by simp))
      (show _ = some (itoa flags.chunkDelayUs) by
        rw [lookup_appended, if_neg (by decide), if_neg (by decide),
          if_neg (by decide), if_pos chunking, if_neg (by decide),
          if_pos rfl])
  simp only [Function.comp_apply, atoi_itoa size, atoi_itoa delay]
    at chunk pause
  rw [plan_eq_iff]
  constructor
  · rintro ⟨sameContext, sameNamespace, sameName, chunked, plain⟩
    exact
      { context := context.mp sameContext
        namespaceName := namespaceName.mp sameNamespace
        name := name.mp sameName
        chunked := fun chunking =>
          ⟨(chunk chunking).mp (chunked chunking).1,
            (pause chunking).mp (chunked chunking).2⟩
        plain := fun none_ =>
          (plain_iff (handedOn envChunk (by simp)) none_).mp
            (plain none_) }
  · intro undisturbed
    refine ⟨context.mpr undisturbed.context,
      namespaceName.mpr undisturbed.namespaceName,
      name.mpr undisturbed.name, fun chunking => ?_, fun none_ => ?_⟩
    · exact ⟨(chunk chunking).mpr (undisturbed.chunked chunking).1,
        (pause chunking).mpr (undisturbed.chunked chunking).2⟩
    · exact (plain_iff (handedOn envChunk (by simp)) none_).mpr
        (undisturbed.plain none_)

/--
`ssh-proxy` makes the call that the flags of `connect` ask for exactly if the
environment of `connect` mentioned none of its variables with another
meaning.
-/
theorem transported_iff {path : Text} {remoteCmd : List Text}
    (front : List Text)
    (handedOn : HandedOn flags environ handed)
    (size : IsInt flags.chunkBytes) (delay : IsInt flags.chunkDelayUs)
    (named : effectiveName flags environ ≠ [])
    (first : "--".toList ∉ front) (command : remoteCmd ≠ []) :
    sshProxy handed (some path) (front ++ "--".toList :: remoteCmd) =
        .ok ((asked flags environ).plan path remoteCmd) ↔
      Undisturbed flags environ := by
  have separated :
      parseSSHArgs (front ++ "--".toList :: remoteCmd) = some remoteCmd :=
    parseSSHArgs_eq_some_iff.mpr ⟨front, rfl, command, first⟩
  rw [← settings_agree_iff handedOn size delay path remoteCmd, sshProxy,
    separated]
  constructor
  · intro made
    split at made
    · cases made
    · exact Except.ok.inj made
  · intro same
    have unset : (settings handed).name ≠ [] := by
      rw [(plan_eq_iff.mp same).2.2.1]
      exact named
    rw [if_neg unset]
    exact congrArg Except.ok same

/-- Unmentioned variables do not disturb. -/
theorem undisturbed_of_unmentioned
    (unmentioned : ∀ key ∈ [envContext, envNamespace, envName, envChunk,
      envChunkDelayUs], lookup environ key = none) :
    Undisturbed flags environ := by
  have reads {α : Type} {key : Text} (read : Text → α) (value : α)
      (absent : lookup environ key = none) :
      Reads environ key read value := by
    intro earlier mentioned
    rw [absent] at mentioned
    cases mentioned
  exact
    { context := reads _ _ (unmentioned _ (by simp))
      namespaceName := reads _ _ (unmentioned _ (by simp))
      name := reads _ _ (unmentioned _ (by simp))
      chunked := fun _ => ⟨reads _ _ (unmentioned _ (by simp)),
        reads _ _ (unmentioned _ (by simp))⟩
      plain := fun _ earlier mentioned => by
        rw [unmentioned envChunk (by simp)] at mentioned
        cases mentioned }

end Arrival

/-- A delay left over from an earlier session hides that of the flag. -/
theorem transported_leftover :
    (∀ path, sshProxy (sshuttleEnviron
          { Flags.default with chunkBytes := 768 } ["USER=ann".toList])
        (some path) ["ignored".toList, "--".toList, "true".toList] =
      .ok ((asked { Flags.default with chunkBytes := 768 }
        ["USER=ann".toList]).plan path ["true".toList])) ∧
    ∀ path, sshProxy (sshuttleEnviron
          { Flags.default with chunkBytes := 768 }
          ["KUBECTL_SSHUTTLE_CHUNK_DELAY_US=1".toList])
        (some path) ["ignored".toList, "--".toList, "true".toList] ≠
      .ok ((asked { Flags.default with chunkBytes := 768 }
        ["KUBECTL_SSHUTTLE_CHUNK_DELAY_US=1".toList]).plan path
          ["true".toList]) := by
  constructor
  · intro path
    exact (transported_iff ["ignored".toList]
      (fun _ _ => rfl) (by decide) (by decide) (by decide) (by decide)
      (by decide)).mpr (undisturbed_of_unmentioned (by decide))
  · intro path made
    have undisturbed := (transported_iff ["ignored".toList]
      (fun _ _ => rfl) (by decide) (by decide) (by decide) (by decide)
      (by decide)).mp made
    have same := (undisturbed.chunked (by decide)).2 "1".toList (by decide)
    exact absurd same (by decide)

end KubectlSshuttle.Cmd.SshProxy
