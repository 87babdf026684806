import KubectlSshuttle.Cmd.Kubernetes
import KubectlSshuttle.Cmd.Plugin

/-!
# Creating, finding and deleting deployments

`create` applies a manifest, `connect` and `delete` name a deployment, and
`status` selects pods by their label.  However the calls of any users run side
by side, they all mean the same deployment: what a call finds was created by
the same user for the same kind of transport, and `status` lists its pods.
-/

namespace KubectlSshuttle.Cmd.Lifecycle

open KubectlSshuttle.Lib.RustText
open KubectlSshuttle.Lib.Yaml
open KubectlSshuttle.Cmd.Kubernetes
open KubectlSshuttle.Cmd.Plugin
open KubectlSshuttle.Proxy.Deployment

/-! ## Calls of the plugin -/

/-- The subcommands that work on the deployment. -/
inductive Verb where
  | create
  | connect
  | status
  | delete
deriving DecidableEq

/-- A call of the plugin, with what it finds on its machine. -/
structure Call where
  verb : Verb
  flags : Flags
  environ : List Text
  kubeconfig : Option Text → Text

/-- What `create` hands to the template. -/
def Call.config (call : Call) : DeploymentConfig :=
  createConfig call.flags call.environ

/-- `--context`, unless it is empty. -/
def Call.context (call : Call) : Option Text :=
  if call.flags.context ≠ [] then some call.flags.context else none

/-- The deployment that a call means. -/
def Call.place (call : Call) : Place where
  cluster := call.kubeconfig call.context
  namespaceName := call.flags.namespaceName
  name := effectiveName call.flags call.environ

/-- The template that `create` asks for. -/
def Call.template (call : Call) : Template where
  label := call.place.name
  image := call.config.image

/-- kubectl, started by a call. -/
def Call.kubectl (call : Call) (arguments : List Text) (stdin : Text) :
    Invocation :=
  ⟨arguments, stdin, call.kubeconfig⟩

/-- What `status` starts. -/
def Call.statusRun (call : Call) : Invocation :=
  call.kubectl (statusArgs call.flags call.environ) []

/--
What a call starts, up to the first failure; of `connect` this is its check,
before the tunnel.
-/
def Call.invocations (call : Call) : List Invocation :=
  match call.verb with
  | .create =>
      [call.kubectl (applyArgs call.flags) (deploymentYAML call.config),
        call.kubectl
          (rolloutArgs call.flags call.environ call.flags.timeout) []]
  | .connect =>
      [call.kubectl (rolloutArgs call.flags call.environ "5s".toList) []]
  | .status => [call.statusRun]
  | .delete => [call.kubectl (deleteArgs call.flags call.environ) []]

/-- Contradicting flags end a call before it starts anything. -/
def Call.todo (call : Call) : List Invocation :=
  match persistentPreRun call.flags with
  | .error _ => []
  | .ok () => call.invocations

/-! ## Calls that run side by side -/

/-- The cluster, and the calls begun with what each has still to start. -/
structure Session (State : Type) where
  state : State
  running : List (Call × List Invocation)

section Sessions

variable {State : Type} (cluster : Cluster State)

/-- A step of a session, with the call that it begins. -/
inductive Steps (session : Session State) :
    List Call → Session State → Prop where
  | begins (call : Call) :
      Steps session [call]
        { session with
          running := session.running ++ [(call, call.todo)] }
  | runs (member : Nat) {call : Call} {invocation : Invocation}
      {rest : List Invocation} {next : State} {ok : Bool}
      (present : session.running[member]? = some (call, invocation :: rest))
      (ran : cluster.run session.state invocation next ok) :
      Steps session []
        ⟨next, session.running.set member
          (call, if ok then rest else [])⟩
  | settles {next : State} (moved : cluster.settles session.state next) :
      Steps session [] { session with state := next }

/-- A session, with the calls that were begun in it. -/
inductive History (initial : State) :
    List Call → Session State → Prop where
  | start : History initial [] ⟨initial, []⟩
  | extend {calls begun : List Call} {session next : Session State}
      (earlier : History initial calls session)
      (step : Steps cluster session begun next) :
      History initial (calls ++ begun) next

/-- Nothing was deployed yet. -/
structure Unused (state : State) : Prop where
  deployment : ∀ place, cluster.deployment state place = none
  revisions : ∀ place template, ¬ cluster.revisions state place template
  pods : ∀ pod, ¬ cluster.pods state pod

end Sessions

/-! ## The manifests of ordinary calls -/

/-- A user, a namespace and an image that Kubernetes accepts. -/
structure Call.Ordinary (call : Call) : Prop where
  unnamed : call.flags.name = none
  user : (user call.environ).all isLabelChar = true ∧
    (user call.environ).head? ≠ some '-'
  namespaceName : IsLabel call.flags.namespaceName ∧
    ¬ IsReserved call.flags.namespaceName
  image : IsImage call.config.image ∧ ¬ IsReserved call.config.image

section Ordinary

variable {call : Call}

/-- No null, boolean or number is written with this letter. -/
theorem p_notMem_of_isReserved {text : Text} (reserved : IsReserved text) :
    'p' ∉ text := by
  have digits {digits : Text}
      (digit : ∀ char ∈ digits, char.isDigit = true) : 'p' ∉ digits :=
    fun member => absurd (digit 'p' member) (by decide)
  rcases reserved with word | numeral
  · have words : ∀ word ∈ nullWords ++ trueWords ++ falseWords,
        'p' ∉ word := by decide
    exact words text word
  · cases numeral with
    | decimal digit broken scaled =>
        have fraction : ∀ {text}, IsFraction text → 'p' ∉ text := by
          rintro _ (_ | digit)
          · simp
          · simpa using digits digit
        have exponent : ∀ {text}, IsExponent text → 'p' ∉ text := by
          rintro _ (_ | ⟨marked, signed, digit⟩)
          · simp
          · have absent := digits digit.2
            rcases marked with rfl | rfl <;>
              rcases signed with rfl | rfl | rfl <;> simpa using absent
        simp [digits digit.2, fraction broken, exponent scaled]
    | octal nonempty digit =>
        have absent : 'p' ∉ _ := fun member =>
          absurd (digit 'p' member) (by decide)
        simpa using absent
    | hexadecimal nonempty digit =>
        have absent : 'p' ∉ _ := fun member =>
          absurd (digit 'p' member) (by decide)
        simpa using absent

/-- The user, and a suffix that ends the name. -/
theorem effectiveName_shape (unnamed : call.flags.name = none) :
    ∃ suffix, (suffix = "sshuttle-proxy".toList ∨
        suffix = "rushtle-proxy".toList) ∧
      effectiveName call.flags call.environ =
        userPrefix call.environ ++ suffix := by
  rw [effectiveName, unnamed]
  dsimp only
  split
  · exact ⟨_, .inr rfl, rfl⟩
  · exact ⟨_, .inl rfl, rfl⟩

theorem Call.Ordinary.label (ordinary : call.Ordinary) :
    IsLabel (effectiveName call.flags call.environ) ∧
      ¬ IsReserved (effectiveName call.flags call.environ) := by
  rcases effectiveName_shape ordinary.unnamed with ⟨suffix, known, shape⟩
  have inSuffix : 'p' ∈ suffix ∧ suffix.all isLabelChar = true ∧
      suffix.getLast? = some 'y' ∧
        ∃ first, suffix.head? = some first ∧ first ≠ '-' := by
    rcases known with rfl | rfl
    · exact ⟨by decide, by decide, by decide, ⟨'s', by decide, by decide⟩⟩
    · exact ⟨by decide, by decide, by decide, ⟨'r', by decide, by decide⟩⟩
  rcases inSuffix with ⟨letter, chars, last, first, begins, noHyphen⟩
  have nonempty : suffix ≠ [] := List.ne_nil_of_mem letter
  rw [shape]
  refine ⟨⟨?_, ?_, ?_⟩, fun reserved => ?_⟩
  · rw [List.all_append, chars, Bool.and_true, userPrefix]
    split
    · rw [List.all_append, ordinary.user.1]
      decide
    · rfl
  · rw [userPrefix]
    split
    · next some_ =>
        rcases List.exists_cons_of_ne_nil some_ with ⟨char, rest, named⟩
        have start := ordinary.user.2
        rw [named] at start ⊢
        exact ⟨char, rfl, fun hyphen => start (by rw [hyphen]; rfl)⟩
    · exact ⟨first, begins, noHyphen⟩
  · rw [List.getLast?_append, last]
    exact fun hyphen => absurd (Option.some.inj hyphen) (by decide)
  · exact p_notMem_of_isReserved reserved (List.mem_append_right _ letter)

/-- `create` declares the deployment that the other calls name. -/
theorem Call.Ordinary.declares (ordinary : call.Ordinary) :
    declares call.flags.namespaceName (deploymentYAML call.config) =
      some (call.place.name, call.template) := by
  rcases ordinary.label with ⟨label, unreserved⟩
  have plain := @plainData_templateData call.config label
    ordinary.namespaceName.1 ordinary.image.1
  rcases (manifestDeclares_iff plain).mpr
    ⟨label.isImage.resolve_iff.mpr unreserved,
      ordinary.namespaceName.1.isImage.resolve_iff.mpr
        ordinary.namespaceName.2,
      ordinary.image.1.resolve_iff.mpr ordinary.image.2⟩ with
    ⟨document, read, declared⟩
  simp only [Kubernetes.declares, read, stringAt, declared.name,
    declared.namespaceName, declared.selector, declared.podLabel,
    declared.image, Option.bind_some, bind]
  exact if_pos ⟨rfl, trivial⟩

end Ordinary

/-! ## The command lines of a call -/

section Arguments

variable {call : Call}

/-- `kubectlArgs` puts the context and the namespace in front. -/
theorem kubectlArgs_eq (call : Call) (extra : List Text) :
    kubectlArgs call.flags extra =
      options call.context call.flags.namespaceName ++ extra := by
  simp only [kubectlArgs, Call.context]
  split <;> rfl

theorem statusArgs_eq (call : Call) :
    statusArgs call.flags call.environ =
      getPods call.context call.flags.namespaceName call.place.name :=
  kubectlArgs_eq call _

end Arguments

/-! ## What a run of kubectl changes -/

section Changes

variable {State : Type} {cluster : Cluster State} {state next : State}
  {ok : Bool} {call : Call} {invocation : Invocation}

/-- What kubectl may do to the deployments for a call. -/
structure Changes (cluster : Cluster State) (call : Call)
    (state next : State) : Prop where
  pods : cluster.FromTemplates state next
  deployment : ∀ place,
    cluster.deployment next place = cluster.deployment state place ∨
      place = call.place ∧ (cluster.deployment next place = none ∨
        call.verb = .create ∧
          cluster.deployment next place = some call.template)

/-- A run that leaves the deployments alone. -/
theorem Changes.of_same
    (kept : cluster.FromTemplates state next ∧
      cluster.deployment next = cluster.deployment state) :
    Changes cluster call state next :=
  ⟨kept.1, fun place => .inl (congrFun kept.2 place)⟩

/-- An ordinary call touches its own deployment at most. -/
theorem Call.Ordinary.changes (ordinary : call.Ordinary)
    (documented : cluster.Documented)
    (started : invocation ∈ call.invocations)
    (ran : cluster.run state invocation next ok) :
    Changes cluster call state next := by
  have namespaceName := ordinary.namespaceName.1
  rw [Call.invocations] at started
  cases verb : call.verb with
  | create =>
      rw [verb] at started
      rcases List.mem_pair.mp started with rfl | rfl
      · rw [Call.kubectl, applyArgs, kubectlArgs_eq] at ran
        rcases documented.apply namespaceName ran with ⟨pods, changed⟩
        refine ⟨pods, fun place => ?_⟩
        rcases changed place with
          same | ⟨sameCluster, sameNamespace, template, declared, set⟩
        · exact .inl same
        · rw [ordinary.declares, Option.some.injEq, Prod.mk.injEq]
            at declared
          rcases declared with ⟨sameName, rfl⟩
          refine .inr ⟨?_, .inr ⟨verb, set⟩⟩
          rcases place with ⟨_, _, _⟩
          exact Place.mk.injEq .. ▸
            ⟨sameCluster, sameNamespace, sameName.symm⟩
      · rw [Call.kubectl, rolloutArgs, kubectlArgs_eq] at ran
        exact .of_same (documented.rollout namespaceName ran)
  | connect =>
      rw [verb] at started
      rcases List.mem_singleton.mp started with rfl
      rw [Call.kubectl, rolloutArgs, kubectlArgs_eq] at ran
      exact .of_same (documented.rollout namespaceName ran)
  | status =>
      rw [verb] at started
      rcases List.mem_singleton.mp started with rfl
      rw [Call.statusRun, Call.kubectl, statusArgs_eq] at ran
      exact .of_same (documented.get namespaceName ran)
  | delete =>
      rw [verb] at started
      rcases List.mem_singleton.mp started with rfl
      rw [Call.kubectl, deleteArgs, kubectlArgs_eq] at ran
      rcases documented.delete namespaceName ordinary.label.1 ran with
        ⟨pods, changed⟩
      refine ⟨pods, fun place => ?_⟩
      rcases changed place with same | ⟨there, gone⟩
      · exact .inl same
      · exact .inr ⟨there, .inl gone⟩

end Changes

/-! ## What a session keeps -/

/-- A template at a place, as a call of the session created it. -/
def Created (calls : List Call) (place : Place) (template : Template) :
    Prop :=
  ∃ creation ∈ calls, creation.verb = .create ∧ creation.place = place ∧
    template = creation.template

/-- All that is there was created, and calls do no more than they began. -/
structure Kept {State : Type} (cluster : Cluster State) (calls : List Call)
    (session : Session State) : Prop where
  running : ∀ entry ∈ session.running, entry.1 ∈ calls ∧
    ∀ invocation ∈ entry.2, invocation ∈ entry.1.invocations
  deployment : ∀ place template,
    cluster.deployment session.state place = some template →
      Created calls place template
  revisions : ∀ place template,
    cluster.revisions session.state place template →
      Created calls place template
  pods : ∀ pod, cluster.pods session.state pod →
    Created calls pod.place pod.template

section Sessions

variable {State : Type} {cluster : Cluster State} {initial : State}
  {calls begun : List Call} {session next : Session State}

theorem Created.more {place : Place} {template : Template}
    (created : Created calls place template) (begun : List Call) :
    Created (calls ++ begun) place template := by
  rcases created with ⟨creation, member, rest⟩
  exact ⟨creation, List.mem_append_left _ member, rest⟩

theorem Call.todo_subset (call : Call) :
    ∀ invocation ∈ call.todo, invocation ∈ call.invocations := by
  intro invocation member
  rw [Call.todo] at member
  split at member
  · cases member
  · exact member

/-- What comes up belongs to deployments that were created. -/
theorem Kept.of_fromTemplates (kept : Kept cluster calls session)
    (running : ∀ entry ∈ next.running, entry.1 ∈ calls ∧
      ∀ invocation ∈ entry.2, invocation ∈ entry.1.invocations)
    (fresh : cluster.FromTemplates session.state next.state)
    (deployment : ∀ place template,
      cluster.deployment next.state place = some template →
        Created calls place template) :
    Kept cluster calls next := by
  have revisions : ∀ place template,
      cluster.revisions next.state place template →
        Created calls place template := by
    intro place template there
    rcases fresh.revisions place template there with old | before | after
    · exact kept.revisions place template old
    · exact kept.deployment place template before
    · exact deployment place template after
  refine ⟨running, deployment, revisions, fun pod there => ?_⟩
  rcases fresh.pods pod there with old | before | after
  · exact kept.pods pod old
  · exact kept.revisions _ _ before
  · exact revisions _ _ after

/-- One step keeps it. -/
theorem Kept.step (kept : Kept cluster calls session)
    (documented : cluster.Documented)
    (ordinary : ∀ call ∈ calls ++ begun, call.Ordinary)
    (step : Steps cluster session begun next) :
    Kept cluster (calls ++ begun) next := by
  cases step with
  | begins call =>
      refine ⟨?_, fun _ _ there => (kept.deployment _ _ there).more _,
        fun _ _ there => (kept.revisions _ _ there).more _,
        fun _ there => (kept.pods _ there).more _⟩
      intro entry member
      rcases List.mem_append.mp member with old | new
      · exact ⟨List.mem_append_left _ (kept.running entry old).1,
          (kept.running entry old).2⟩
      · rcases List.mem_singleton.mp new with rfl
        exact ⟨by simp, call.todo_subset⟩
  | @runs member call invocation rest state ok present ran =>
      have known := kept.running _ (List.mem_of_getElem? present)
      rw [List.append_nil] at ordinary ⊢
      have changes := (ordinary call known.1).changes documented
        (known.2 invocation List.mem_cons_self) ran
      have deployment : ∀ place template,
          cluster.deployment state place = some template →
            Created calls place template := by
        intro place template there
        rcases changes.deployment place with
          same | ⟨rfl, gone | ⟨verb, set⟩⟩
        · exact kept.deployment place template (same ▸ there)
        · rw [gone] at there
          cases there
        · rw [set] at there
          exact ⟨call, known.1, verb, rfl, (Option.some.inj there).symm⟩
      refine kept.of_fromTemplates ?_ changes.pods deployment
      intro entry inSet
      rcases List.mem_or_eq_of_mem_set inSet with old | rfl
      · exact kept.running entry old
      · refine ⟨known.1, fun other later => ?_⟩
        cases ok with
        | false => cases later
        | true => exact known.2 other (List.mem_cons_of_mem _ later)
  | @settles state moved =>
      rcases documented.settles moved with ⟨fresh, same⟩
      rw [List.append_nil]
      have deployment : ∀ place template,
          cluster.deployment state place = some template →
            Created calls place template :=
        fun place template there =>
          kept.deployment place template (same ▸ there)
      exact kept.of_fromTemplates kept.running fresh deployment

/-- On a cluster that was unused, it holds of every session. -/
theorem Kept.of_history (documented : cluster.Documented)
    (unused : Unused cluster initial)
    (history : History cluster initial calls session)
    (ordinary : ∀ call ∈ calls, call.Ordinary) :
    Kept cluster calls session := by
  induction history with
  | start =>
      refine ⟨by simp, fun place template there => ?_,
        fun place template there =>
          (unused.revisions place template there).elim,
        fun pod there => (unused.pods pod there).elim⟩
      rw [unused.deployment] at there
      cases there
  | extend earlier step induction =>
      exact (induction fun call member =>
        ordinary call (List.mem_append_left _ member)).step documented
          ordinary step

end Sessions

/-! ## Whose deployment a call means -/

/-- An earlier `create` of the same user for the same kind. -/
structure CreatedBy (call creation : Call) (image : Text) : Prop where
  verb : creation.verb = .create
  place : creation.place = call.place
  user : user creation.environ = user call.environ
  kind : creation.flags.useRushtle = call.flags.useRushtle
  image : image = creation.config.image

/-- What a call without `--name` finds, and what others do to it. -/
structure Owns {State : Type} (cluster : Cluster State) (calls : List Call)
    (state : State) (call : Call) : Prop where
  created : ∀ template, cluster.deployment state call.place =
      some template →
    ∃ creation ∈ calls, CreatedBy call creation template.image
  /-- `status` lists the pods of that deployment, and no others -/
  listed : ∀ pod, cluster.lists state call.statusRun pod ↔
    cluster.pods state pod ∧ pod.place = call.place
  /-- terminating or not, they are of the same user and kind -/
  pods : ∀ pod, cluster.lists state call.statusRun pod →
    ∃ creation ∈ calls, CreatedBy call creation pod.template.image
  /-- no call of another user or kind touches the deployment -/
  untouched : ∀ (other : Call) invocation next ok, other.Ordinary →
    invocation ∈ other.invocations →
    cluster.run state invocation next ok →
    cluster.deployment next call.place ≠
      cluster.deployment state call.place →
    user other.environ = user call.environ ∧
      other.flags.useRushtle = call.flags.useRushtle

section Owners

variable {State : Type} {cluster : Cluster State} {initial : State}
  {calls : List Call} {session : Session State} {call : Call}

/-- Two calls without `--name` mean one deployment only if they agree. -/
theorem agree_of_place {other : Call} (unnamed : call.flags.name = none)
    (unnamedToo : other.flags.name = none)
    (same : other.place = call.place) :
    user other.environ = user call.environ ∧
      other.flags.useRushtle = call.flags.useRushtle :=
  (effectiveName_inj unnamedToo unnamed).mp (congrArg Place.name same)

/-- A creation at the place of a call is of its user and kind. -/
theorem Created.createdBy {template : Template}
    (created : Created calls call.place template)
    (ordinary : ∀ call ∈ calls, call.Ordinary) (here : call.Ordinary) :
    ∃ creation ∈ calls, CreatedBy call creation template.image := by
  rcases created with ⟨creation, member, verb, place, rfl⟩
  rcases agree_of_place here.unnamed (ordinary creation member).unnamed
    place with ⟨sameUser, sameKind⟩
  exact ⟨creation, member, verb, place, sameUser, sameKind, rfl⟩

/--
However ordinary calls run side by side, what a call finds was created by its
own user for its own kind of transport; `status` lists exactly the pods of the
deployment that `connect` checks and `delete` removes; and no call of another
user or of the other kind changes it.
-/
theorem calls_own_deployments (documented : cluster.Documented)
    (unused : Unused cluster initial)
    (history : History cluster initial calls session)
    (ordinary : ∀ call ∈ calls, call.Ordinary) (here : call.Ordinary) :
    Owns cluster calls session.state call := by
  have kept := Kept.of_history documented unused history ordinary
  have listed : ∀ pod,
      cluster.lists session.state call.statusRun pod ↔
        cluster.pods session.state pod ∧ pod.place = call.place := by
    intro pod
    have label : IsLabel call.place.name := here.label.1
    rw [Call.statusRun, Call.kubectl, statusArgs_eq,
      documented.lists here.namespaceName.1 label]
    refine and_congr_right fun there => ?_
    rcases kept.pods pod there with ⟨creation, _, _, place, template⟩
    have label : pod.template.label = pod.place.name := by
      rw [template, ← place]
      rfl
    rw [label]
    rcases pod with ⟨⟨_, _, _⟩, _⟩
    exact (Place.mk.injEq ..).symm.to_iff
  constructor
  · exact fun template there =>
      (kept.deployment _ _ there).createdBy ordinary here
  · exact listed
  · intro pod shown
    rcases (listed pod).mp shown with ⟨there, place⟩
    exact (place ▸ kept.pods pod there).createdBy ordinary here
  · intro other invocation next ok otherToo started ran changed
    rcases (otherToo.changes documented started ran).deployment call.place
      with same | ⟨place, _⟩
    · exact (changed same).elim
    · exact agree_of_place here.unnamed otherToo.unnamed place.symm

end Owners

/-! ## Two kinds of one user -/

section Shelf

variable {call : Call} {state : Shelf}

theorem Call.Ordinary.shelf_applies (ordinary : call.Ordinary) :
    shelf.run state
      (call.kubectl (applyArgs call.flags) (deploymentYAML call.config))
      { state with
        deployment := Function.update state.deployment call.place
          (some call.template) } true := by
  rw [Call.kubectl, applyArgs, kubectlArgs_eq]
  exact .applied ordinary.declares

theorem shelf_watches {timeout : Text} (ready : Bool)
    (known : ready = state.pods.any fun pod => pod.place = call.place) :
    shelf.run state
      (call.kubectl (rolloutArgs call.flags call.environ timeout) [])
      state ready := by
  rw [Call.kubectl, rolloutArgs, kubectlArgs_eq]
  exact .watched known

theorem shelf_deletes (found : state.deployment call.place ≠ none) :
    shelf.run state
      (call.kubectl (deleteArgs call.flags call.environ) [])
      { state with
        deployment := Function.update state.deployment call.place none }
      true := by
  rw [Call.kubectl, deleteArgs, kubectlArgs_eq]
  exact .deleted found

end Shelf

/-- An environment. -/
def someUser : List Text :=
  ["USER=jjo".toList]

/-- The same user, by way of `sudo`. -/
def sameUser : List Text :=
  ["USER=root".toList, "SUDO_USER=jjo".toList]

/-- The flags of `--rushtle`. -/
def rushtleFlags : Flags :=
  { Flags.default with rushtle := true }

/-- A call from a machine with one cluster. -/
def someCall (verb : Verb) (flags : Flags) (environ : List Text) : Call :=
  ⟨verb, flags, environ, fun _ => "test".toList⟩

/-- The defaults are ordinary, for either kind. -/
theorem ordinary_of_default {verb : Verb} {flags : Flags}
    {environ : List Text}
    (known : flags = .default ∨ flags = rushtleFlags)
    (named : user environ = "jjo".toList) :
    (someCall verb flags environ).Ordinary := by
  have label : IsLabel "default".toList :=
    ⟨by decide, ⟨'d', rfl, by decide⟩, by decide⟩
  have namespaceName : IsLabel flags.namespaceName ∧
      ¬ IsReserved flags.namespaceName := by
    have same : flags.namespaceName = "default".toList := by
      rcases known with rfl | rfl <;> rfl
    rw [same]
    exact ⟨label, label.isImage.resolve_iff.mp (by decide)⟩
  refine ⟨?_, ?_, namespaceName, ?_⟩
  · rcases known with rfl | rfl <;> rfl
  · rw [someCall, named]
    decide
  · have sshuttle : IsImage "xjjo/sshuttle".toList :=
      ⟨by decide, ⟨'x', rfl, by decide⟩, by decide⟩
    have rushtle : IsImage "xjjo/rushtle".toList :=
      ⟨by decide, ⟨'x', rfl, by decide⟩, by decide⟩
    rcases known with rfl | rfl
    · exact ⟨sshuttle, sshuttle.resolve_iff.mp (by decide)⟩
    · exact ⟨rushtle, rushtle.resolve_iff.mp (by decide)⟩

/-- Two calls that overlap, and one after them. -/
def bothKinds : List Call :=
  [someCall .create .default someUser,
    someCall .create rushtleFlags someUser,
    someCall .delete .default sameUser]

/-- The pod of the first deployment, which terminates when that is gone. -/
def leftover : Pod :=
  ⟨(someCall .create .default someUser).place,
    (someCall .create .default someUser).template⟩

theorem ordinary_of_bothKinds : ∀ call ∈ bothKinds, call.Ordinary := by
  intro call member
  simp only [bothKinds, List.mem_cons, List.not_mem_nil, or_false] at member
  rcases member with rfl | rfl | rfl
  · exact ordinary_of_default (.inl rfl) (by decide)
  · exact ordinary_of_default (.inr rfl) (by decide)
  · exact ordinary_of_default (.inl rfl) (by decide)

/--
The second call is not ready in time, and the first deployment is deleted
while its pod is still there.
-/
theorem history_bothKinds :
    ∃ session, History shelf .empty bothKinds session ∧
      leftover ∈ session.state.pods ∧
      session.state.deployment leftover.place = none ∧
      session.state.deployment
        (someCall .connect rushtleFlags sameUser).place ≠ none := by
  have first : (someCall .create .default someUser).Ordinary :=
    ordinary_of_default (.inl rfl) (by decide)
  have second : (someCall .create rushtleFlags someUser).Ordinary :=
    ordinary_of_default (.inr rfl) (by decide)
  have unused : History shelf .empty [] ⟨.empty, []⟩ := .start
  have begun := (unused.extend (.begins
    (someCall .create .default someUser))).extend (.begins
      (someCall .create rushtleFlags someUser))
  have applied := (begun.extend (.runs 0 rfl
    first.shelf_applies)).extend (.runs 1 rfl second.shelf_applies)
  have deployed := (applied.extend (.settles (.revised leftover.place
    leftover.template rfl))).extend (.settles (.made List.mem_cons_self))
  have waited := (deployed.extend (.runs 0 rfl
    (shelf_watches true (by decide +kernel)))).extend (.runs 1 rfl
      (shelf_watches false (by decide +kernel)))
  have deleted := (waited.extend (.begins
    (someCall .delete .default sameUser))).extend (.runs 2 rfl
      (shelf_deletes (by decide +kernel)))
  exact ⟨_, deleted, List.mem_cons_self, by decide +kernel,
    by decide +kernel⟩

/-- The second deployment is found, and nobody else's pods are shown. -/
theorem calls_own_bothKinds :
    ∃ session, History shelf .empty bothKinds session ∧
      leftover ∈ session.state.pods ∧
      session.state.deployment leftover.place = none ∧
      session.state.deployment
        (someCall .connect rushtleFlags sameUser).place ≠ none ∧
      Owns shelf bothKinds session.state
        (someCall .connect rushtleFlags sameUser) := by
  rcases history_bothKinds with ⟨session, history, terminating, gone, found⟩
  have unused : Unused shelf .empty :=
    ⟨fun _ => rfl, fun _ _ => List.not_mem_nil, fun _ => List.not_mem_nil⟩
  exact ⟨session, history, terminating, gone, found,
    calls_own_deployments shelf_documented unused history
      ordinary_of_bothKinds (ordinary_of_default (.inr rfl) (by decide))⟩

end KubectlSshuttle.Cmd.Lifecycle
