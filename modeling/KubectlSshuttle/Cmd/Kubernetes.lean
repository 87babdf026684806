import Mathlib.Logic.Function.Basic
import KubectlSshuttle.Proxy.Manifest

/-!
# kubectl and the cluster

Neither is part of the plugin, so both are a parameter here.  What the plugin
relies on is what is documented of the four command lines that it starts, and
of the pods that a deployment gets; it is stated as hypotheses about the
parameter, for names that Kubernetes accepts.
-/

namespace KubectlSshuttle.Cmd.Kubernetes

open KubectlSshuttle.Lib.RustText
open KubectlSshuttle.Lib.Yaml
open KubectlSshuttle.Proxy.Deployment

/-! ## What there is on a cluster -/

/-- Where a deployment is found; `cluster` names one that contexts lead to. -/
structure Place where
  cluster : Text
  namespaceName : Text
  name : Text
deriving DecidableEq

/-- What the template of a deployment says of its pods. -/
structure Template where
  /-- the label `app` -/
  label : Text
  image : Text
deriving DecidableEq

/-- A pod, terminating or not, with the deployment that it was made for. -/
structure Pod where
  place : Place
  template : Template
deriving DecidableEq

/-- One start of kubectl. -/
structure Invocation where
  arguments : List Text
  stdin : Text
  /-- the cluster that a context leads to, or that is used without one -/
  kubeconfig : Option Text → Text

/-- kubectl, and the cluster that it talks to. -/
structure Cluster (State : Type) where
  /-- kubectl may leave the cluster so, and exit with success or not -/
  run : State → Invocation → State → Bool → Prop
  /-- what the controllers may do by themselves -/
  settles : State → State → Prop
  deployment : State → Place → Option Template
  /-- the templates of the replica sets, which may outlive the deployment -/
  revisions : State → Place → Template → Prop
  pods : State → Pod → Prop
  /-- the pods that `kubectl get pods` prints -/
  lists : State → Invocation → Pod → Prop

/-! ## What is documented -/

/-- The string at the end of a path. -/
def stringAt (document : Node) (path : List Step) : Option Text :=
  match document.scalarAt path with
  | some (.str text) => some text
  | _ => none

/--
The deployment that a manifest declares: its name and its template.  The
namespace has to be that of the command line, and the selector has to match
the template.
-/
def declares (namespaceName manifest : Text) : Option (Text × Template) := do
  let document ← readDocument manifest
  let name ← stringAt document namePath
  let declared ← stringAt document namespacePath
  let selector ← stringAt document selectorPath
  let label ← stringAt document podLabelPath
  let image ← stringAt document imagePath
  if declared = namespaceName ∧ selector = label then
    some (name, ⟨label, image⟩)
  else none

/-- The options in front of a subcommand. -/
def options (context : Option Text) (namespaceName : Text) : List Text :=
  (match context with
    | some context => ["--context".toList, context]
    | none => []) ++ ["-n".toList, namespaceName]

/-- The arguments of `kubectl get pods` for a value of the label `app`. -/
def getPods (context : Option Text) (namespaceName label : Text) :
    List Text :=
  options context namespaceName ++
    ["get".toList, "pods".toList, "-l".toList, "app=".toList ++ label,
      "-o".toList, "wide".toList]

section Documented

variable {State : Type} (cluster : Cluster State)

/-- Deployments make replica sets, and these make the pods. -/
structure Cluster.FromTemplates (before after : State) : Prop where
  revisions : ∀ place template, cluster.revisions after place template →
    cluster.revisions before place template ∨
      cluster.deployment before place = some template ∨
        cluster.deployment after place = some template
  pods : ∀ pod, cluster.pods after pod → cluster.pods before pod ∨
    cluster.revisions before pod.place pod.template ∨
      cluster.revisions after pod.place pod.template

/-- What is documented of kubectl and of Kubernetes. -/
structure Cluster.Documented : Prop where
  /-- `apply` at most sets the deployment that the manifest declares -/
  apply : ∀ {context namespaceName manifest kubeconfig state next ok},
    IsLabel namespaceName →
    cluster.run state
        ⟨options context namespaceName ++
          ["apply".toList, "-f".toList, "-".toList], manifest, kubeconfig⟩
        next ok →
      cluster.FromTemplates state next ∧
        ∀ place, cluster.deployment next place =
            cluster.deployment state place ∨
          place.cluster = kubeconfig context ∧
            place.namespaceName = namespaceName ∧
              ∃ template, declares namespaceName manifest =
                some (place.name, template) ∧
                  cluster.deployment next place = some template
  /-- `rollout status` only watches -/
  rollout : ∀ {context namespaceName name timeout stdin kubeconfig state next
      ok}, IsLabel namespaceName →
    cluster.run state
        ⟨options context namespaceName ++
          ["rollout".toList, "status".toList, "deploy/".toList ++ name,
            "--timeout=".toList ++ timeout], stdin, kubeconfig⟩
        next ok →
      cluster.FromTemplates state next ∧
        cluster.deployment next = cluster.deployment state
  /-- `get` only reads -/
  get : ∀ {context namespaceName label stdin kubeconfig state next ok},
    IsLabel namespaceName →
    cluster.run state
        ⟨getPods context namespaceName label, stdin, kubeconfig⟩ next ok →
      cluster.FromTemplates state next ∧
        cluster.deployment next = cluster.deployment state
  /-- `delete` at most removes the deployment that it names -/
  delete : ∀ {context namespaceName name stdin kubeconfig state next ok},
    IsLabel namespaceName → IsLabel name →
    cluster.run state
        ⟨options context namespaceName ++
          ["delete".toList, "deploy".toList, name], stdin, kubeconfig⟩
        next ok →
      cluster.FromTemplates state next ∧
        ∀ place, cluster.deployment next place =
            cluster.deployment state place ∨
          place = ⟨kubeconfig context, namespaceName, name⟩ ∧
            cluster.deployment next place = none
  /-- the controllers make and remove replica sets and pods -/
  settles : ∀ {state next}, cluster.settles state next →
    cluster.FromTemplates state next ∧
      cluster.deployment next = cluster.deployment state
  /-- a selector picks the pods of a namespace by their label -/
  lists : ∀ {context namespaceName label stdin kubeconfig state pod},
    IsLabel namespaceName → IsLabel label →
      (cluster.lists state
          ⟨getPods context namespaceName label, stdin, kubeconfig⟩ pod ↔
        cluster.pods state pod ∧ pod.place.cluster = kubeconfig context ∧
          pod.place.namespaceName = namespaceName ∧
            pod.template.label = label)

end Documented

/-! ## A cluster on which this holds -/

/-- The deployments, the replica sets and the pods of a small cluster. -/
structure Shelf where
  deployment : Place → Option Template
  revisions : List (Place × Template)
  pods : List Pod

/-- A shelf with nothing on it. -/
def Shelf.empty : Shelf where
  deployment := fun _ => none
  revisions := []
  pods := []

/-- The four subcommands; a deployment is ready once it has a pod. -/
inductive Shelf.Runs (shelf : Shelf) :
    Invocation → Shelf → Bool → Prop where
  | applied {context : Option Text} {namespaceName manifest name : Text}
      {kubeconfig : Option Text → Text} {template : Template}
      (declared : declares namespaceName manifest = some (name, template)) :
      Shelf.Runs shelf
        ⟨options context namespaceName ++
          ["apply".toList, "-f".toList, "-".toList], manifest, kubeconfig⟩
        { shelf with
          deployment := Function.update shelf.deployment
            ⟨kubeconfig context, namespaceName, name⟩ (some template) }
        true
  | refused {context : Option Text} {namespaceName manifest : Text}
      {kubeconfig : Option Text → Text}
      (undeclared : declares namespaceName manifest = none) :
      Shelf.Runs shelf
        ⟨options context namespaceName ++
          ["apply".toList, "-f".toList, "-".toList], manifest, kubeconfig⟩
        shelf false
  | watched {context : Option Text} {namespaceName name timeout stdin : Text}
      {kubeconfig : Option Text → Text} {ready : Bool}
      (known : ready = shelf.pods.any fun pod =>
        pod.place = ⟨kubeconfig context, namespaceName, name⟩) :
      Shelf.Runs shelf
        ⟨options context namespaceName ++
          ["rollout".toList, "status".toList, "deploy/".toList ++ name,
            "--timeout=".toList ++ timeout], stdin, kubeconfig⟩
        shelf ready
  | got {context : Option Text} {namespaceName label stdin : Text}
      {kubeconfig : Option Text → Text} :
      Shelf.Runs shelf
        ⟨getPods context namespaceName label, stdin, kubeconfig⟩ shelf true
  | deleted {context : Option Text} {namespaceName name stdin : Text}
      {kubeconfig : Option Text → Text}
      (found : shelf.deployment
        ⟨kubeconfig context, namespaceName, name⟩ ≠ none) :
      Shelf.Runs shelf
        ⟨options context namespaceName ++
          ["delete".toList, "deploy".toList, name], stdin, kubeconfig⟩
        { shelf with
          deployment := Function.update shelf.deployment
            ⟨kubeconfig context, namespaceName, name⟩ none }
        true
  | missed {context : Option Text} {namespaceName name stdin : Text}
      {kubeconfig : Option Text → Text}
      (absent : shelf.deployment
        ⟨kubeconfig context, namespaceName, name⟩ = none) :
      Shelf.Runs shelf
        ⟨options context namespaceName ++
          ["delete".toList, "deploy".toList, name], stdin, kubeconfig⟩
        shelf false

/-- A controller makes a replica set or a pod, or one is gone at last. -/
inductive Shelf.Settles (shelf : Shelf) : Shelf → Prop where
  | revised (place : Place) (template : Template)
      (wanted : shelf.deployment place = some template) :
      Shelf.Settles shelf
        { shelf with revisions := (place, template) :: shelf.revisions }
  | collected (revision : Place × Template) :
      Shelf.Settles shelf
        { shelf with revisions := shelf.revisions.erase revision }
  | made {place : Place} {template : Template}
      (wanted : (place, template) ∈ shelf.revisions) :
      Shelf.Settles shelf
        { shelf with pods := ⟨place, template⟩ :: shelf.pods }
  | ended (pod : Pod) :
      Shelf.Settles shelf { shelf with pods := shelf.pods.erase pod }

/-- The shelf as a cluster. -/
def shelf : Cluster Shelf where
  run := Shelf.Runs
  settles := Shelf.Settles
  deployment := Shelf.deployment
  revisions := fun shelf place template =>
    (place, template) ∈ shelf.revisions
  pods := fun shelf pod => pod ∈ shelf.pods
  lists := fun shelf invocation pod =>
    pod ∈ shelf.pods ∧ ∃ context,
      invocation.arguments =
        getPods context pod.place.namespaceName pod.template.label ∧
      pod.place.cluster = invocation.kubeconfig context

section Shelf

variable {context other : Option Text} {namespaceName otherName : Text}
  {rest more : List Text}

/-- The options end where the subcommand begins. -/
theorem options_append_inj :
    options context namespaceName ++ rest =
        options other otherName ++ more ↔
      context = other ∧ namespaceName = otherName ∧ rest = more := by
  cases context <;> cases other <;> simp [options]

theorem getPods_inj {label otherLabel : Text} :
    getPods context namespaceName label =
        getPods other otherName otherLabel ↔
      context = other ∧ namespaceName = otherName ∧ label = otherLabel := by
  simp [getPods, options_append_inj]

/-- What stays on the shelf was there. -/
theorem fromTemplates_of_same {before after : Shelf}
    (revisions : after.revisions = before.revisions)
    (pods : after.pods = before.pods) :
    shelf.FromTemplates before after where
  revisions := fun place template there =>
    .inl (revisions ▸ there : (place, template) ∈ before.revisions)
  pods := fun pod there => .inl (pods ▸ there : pod ∈ before.pods)

theorem shelf_documented : shelf.Documented where
  apply := by
    intro context namespaceName manifest kubeconfig state next ok _ ran
    generalize whole : (⟨_, manifest, kubeconfig⟩ : Invocation) = invocation
      at ran
    cases ran with
    | @applied _ _ _ name _ template declared =>
        simp only [Invocation.mk.injEq, options_append_inj] at whole
        rcases whole with ⟨⟨rfl, rfl, _⟩, rfl, rfl⟩
        refine ⟨fromTemplates_of_same rfl rfl, fun place => ?_⟩
        by_cases same : place = ⟨kubeconfig context, namespaceName, name⟩
        · subst same
          exact .inr ⟨rfl, rfl, _, declared, Function.update_self ..⟩
        · exact .inl (Function.update_of_ne same _ _)
    | refused => exact ⟨fromTemplates_of_same rfl rfl, fun _ => .inl rfl⟩
    | watched | got | deleted | missed =>
        simp [options_append_inj, getPods] at whole
  rollout := by
    intro context namespaceName name timeout stdin kubeconfig state next ok _
      ran
    generalize whole : (⟨_, stdin, kubeconfig⟩ : Invocation) = invocation
      at ran
    cases ran with
    | watched => exact ⟨fromTemplates_of_same rfl rfl, rfl⟩
    | _ => simp [options_append_inj, getPods] at whole
  get := by
    intro context namespaceName label stdin kubeconfig state next ok _ ran
    generalize whole : (⟨_, stdin, kubeconfig⟩ : Invocation) = invocation
      at ran
    cases ran with
    | got => exact ⟨fromTemplates_of_same rfl rfl, rfl⟩
    | _ => simp [options_append_inj, getPods] at whole
  delete := by
    intro context namespaceName name stdin kubeconfig state next ok _ _ ran
    generalize whole : (⟨_, stdin, kubeconfig⟩ : Invocation) = invocation
      at ran
    cases ran with
    | deleted found =>
        simp only [Invocation.mk.injEq, options_append_inj,
          List.cons.injEq] at whole
        rcases whole with ⟨⟨rfl, rfl, _, _, rfl, _⟩, rfl, rfl⟩
        refine ⟨fromTemplates_of_same rfl rfl, fun place => ?_⟩
        by_cases same : place = ⟨kubeconfig context, namespaceName, name⟩
        · subst same
          exact .inr ⟨rfl, Function.update_self ..⟩
        · exact .inl (Function.update_of_ne same _ _)
    | missed => exact ⟨fromTemplates_of_same rfl rfl, fun _ => .inl rfl⟩
    | applied | refused | watched | got =>
        simp [options_append_inj, getPods] at whole
  settles := by
    intro state next moved
    cases moved with
    | revised _ _ wanted =>
        refine ⟨⟨fun place template there => ?_, fun _ => .inl⟩, rfl⟩
        rcases List.mem_cons.mp there with same | old
        · rcases Prod.mk.inj same with ⟨rfl, rfl⟩
          exact .inr (.inl wanted)
        · exact .inl old
    | collected revision =>
        exact ⟨⟨fun _ _ there => .inl (List.mem_of_mem_erase there),
          fun _ => .inl⟩, rfl⟩
    | made wanted =>
        refine ⟨⟨fun _ _ => .inl, fun pod there => ?_⟩, rfl⟩
        rcases List.mem_cons.mp there with rfl | old
        · exact .inr (.inl wanted)
        · exact .inl old
    | ended pod =>
        exact ⟨⟨fun _ _ => .inl,
          fun _ there => .inl (List.mem_of_mem_erase there)⟩, rfl⟩
  lists := by
    intro context namespaceName label stdin kubeconfig state pod _ _
    simp only [shelf, getPods_inj]
    constructor
    · rintro ⟨there, _, ⟨rfl, rfl, rfl⟩, same⟩
      exact ⟨there, same, rfl, rfl⟩
    · rintro ⟨there, same, rfl, rfl⟩
      exact ⟨there, _, ⟨rfl, rfl, rfl⟩, same⟩

end Shelf

end KubectlSshuttle.Cmd.Kubernetes
