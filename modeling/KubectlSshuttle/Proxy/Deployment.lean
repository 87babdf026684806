import KubectlSshuttle.Lib.GoText

/-!
# The proxy's Deployment manifest

How an image reference is taken apart, the two manifest templates and how
`DeploymentYAML` fills them in.
-/

namespace KubectlSshuttle.Proxy.Deployment

open KubectlSshuttle.Lib.RustText
open KubectlSshuttle.Lib.GoText

/-- `DeploymentConfig` -/
structure DeploymentConfig where
  name : Text
  namespaceName : Text
  image : Text
  /-- controls the component label only -/
  rushtle : Bool
deriving DecidableEq

/-! ## Image references -/

/-- `imageTag`: the tag of a reference, empty if there is none. -/
def imageTag (image : Text) : Text :=
  let ref :=
    match lastIndex '@' image with
    | some index => image.take index
    | none => image
  match lastIndex '/' ref with
  | some slash =>
      match lastIndex ':' (ref.drop (slash + 1)) with
      | some colon => ref.drop (slash + 1 + colon + 1)
      | none => []
  | none =>
      match lastIndex ':' ref with
      | some colon => ref.drop (colon + 1)
      | none => []

/-- `imagePullPolicy` -/
def imagePullPolicy (image : Text) : Text :=
  let tag := imageTag image
  if tag = [] ∨ tag = "latest".toList then "Always".toList
  else "IfNotPresent".toList

/-- `isPrebakedImage` -/
def isPrebakedImage (image : Text) : Bool :=
  let ref :=
    match lastIndex '@' image with
    | some index => image.take index
    | none => image
  let base :=
    match lastIndex '/' ref with
    | some slash => ref.drop (slash + 1)
    | none => ref
  let base :=
    match lastIndex ':' base with
    | some colon => base.take colon
    | none => base
  contains "sshuttle".toList base || contains "rushtle".toList base

/-! ## The templates -/

/-- The fields that the templates insert. -/
inductive Field where
  | name
  | namespaceName
  | image
  | component
  | pullPolicy
deriving DecidableEq

/-- A line of a template; an action stands at the end of its line only. -/
structure TemplateLine where
  text : String
  action : Option Field

/-- A line without an action. -/
def text (line : String) : TemplateLine :=
  ⟨line, none⟩

/-- A line that ends with the action of a field. -/
def action (line : String) (field : Field) : TemplateLine :=
  ⟨line, some field⟩

/-- `prebakedTmpl` -/
def prebakedTmpl : List TemplateLine :=
  [text "apiVersion: apps/v1",
    text "kind: Deployment",
    text "metadata:",
    action "  name: " .name,
    action "  namespace: " .namespaceName,
    text "  labels:",
    action "    app.kubernetes.io/name: " .name,
    action "    app.kubernetes.io/component: " .component,
    text "spec:",
    text "  replicas: 1",
    text "  selector:",
    text "    matchLabels:",
    action "      app: " .name,
    text "  template:",
    text "    metadata:",
    text "      labels:",
    action "        app: " .name,
    action "        app.kubernetes.io/component: " .component,
    text "    spec:",
    text "      securityContext:",
    text "        runAsNonRoot: true",
    text "        runAsUser: 1001",
    text "        runAsGroup: 1001",
    text "        seccompProfile:",
    text "          type: RuntimeDefault",
    text "      containers:",
    text "        - name: proxy",
    action "          image: " .image,
    action "          imagePullPolicy: " .pullPolicy,
    text "          securityContext:",
    text "            allowPrivilegeEscalation: false",
    text "            readOnlyRootFilesystem: false",
    text "            capabilities:",
    text "              drop: [ALL]",
    text "          readinessProbe:",
    text "            exec:",
    text "              command: [test, -f, /tmp/ready]",
    text "            initialDelaySeconds: 2",
    text "            periodSeconds: 3",
    text "          resources:",
    text "            requests:",
    text "              cpu: 10m",
    text "              memory: 16Mi",
    text "            limits:",
    text "              cpu: 200m",
    text "              memory: 256Mi"]

/-- `legacyTmpl` -/
def legacyTmpl : List TemplateLine :=
  [text "apiVersion: apps/v1",
    text "kind: Deployment",
    text "metadata:",
    action "  name: " .name,
    action "  namespace: " .namespaceName,
    text "spec:",
    text "  replicas: 1",
    text "  selector:",
    text "    matchLabels:",
    action "      app: " .name,
    text "  template:",
    text "    metadata:",
    text "      labels:",
    action "        app: " .name,
    text "    spec:",
    text "      containers:",
    text "        - name: proxy",
    action "          image: " .image,
    action "          imagePullPolicy: " .pullPolicy,
    text "          command:",
    text "            - sh",
    text "            - -c",
    text "            - |",
    text "              apt-get update && apt-get install -y openssh-client &&",
    text "              pip install sshuttle &&",
    text "              touch /tmp/ready &&",
    text "              sleep infinity",
    text "          readinessProbe:",
    text "            exec:",
    text "              command: [test, -f, /tmp/ready]",
    text "            initialDelaySeconds: 5",
    text "            periodSeconds: 5",
    text "          resources:",
    text "            requests:",
    text "              cpu: 10m",
    text "              memory: 256Mi",
    text "            limits:",
    text "              cpu: 100m",
    text "              memory: 1Gi"]

/-- `templateData` -/
structure TemplateData extends DeploymentConfig where
  pullPolicy : Text
  component : Text

/-- What the action of a field writes. -/
def TemplateData.value (data : TemplateData) : Field → Text
  | .name => data.name
  | .namespaceName => data.namespaceName
  | .image => data.image
  | .component => data.component
  | .pullPolicy => data.pullPolicy

/-- A line of the output. -/
def TemplateLine.execute (data : TemplateData) (line : TemplateLine) : Text :=
  line.text.toList ++ (line.action.map data.value).getD []

/-- `Template.Execute`: the texts as they are, without any quoting. -/
def execute (template : List TemplateLine) (data : TemplateData) : Text :=
  template.flatMap fun line => line.execute data ++ ['\n']

/-- The template that `DeploymentYAML` chooses for an image. -/
def chooseTmpl (image : Text) : List TemplateLine :=
  if isPrebakedImage image then prebakedTmpl else legacyTmpl

/-- The derived fields. -/
def templateData (config : DeploymentConfig) : TemplateData where
  toDeploymentConfig := config
  pullPolicy := imagePullPolicy config.image
  component := if config.rushtle then "rushtle".toList else "sshuttle".toList

/-- `DeploymentYAML`; the templates parse, and a buffer takes every write. -/
def deploymentYAML (config : DeploymentConfig) : Text :=
  execute (chooseTmpl config.image) (templateData config)

end KubectlSshuttle.Proxy.Deployment
