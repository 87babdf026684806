import KubectlSshuttle.Lib.CoreSchema
import KubectlSshuttle.Lib.YamlRoundTrip
import KubectlSshuttle.Proxy.ImageReference

/-!
# What the manifest says

The documents that the two templates print, and what a reader that resolves
plain scalars finds in them.
-/

namespace KubectlSshuttle.Proxy.Deployment

open KubectlSshuttle.Lib.RustText
open KubectlSshuttle.Lib.Yaml

/-! ## The documents -/

/-- A fixed entry. -/
def fixed (key value : String) : Text × Node :=
  (key.toList, .plain value.toList)

/-- An entry whose value is inserted. -/
def inserted (key : String) (value : Text) : Text × Node :=
  (key.toList, .plain value)

/-- An entry that holds a mapping. -/
def nested (key : String) (entries : List (Text × Node)) : Text × Node :=
  (key.toList, .mapping entries)

/-- The selector of the pods. -/
def selectorEntry (data : TemplateData) : Text × Node :=
  nested "selector" [nested "matchLabels" [inserted "app" data.name]]

/-- The readiness probe of the container. -/
def probeEntry (delay period : String) : Text × Node :=
  nested "readinessProbe"
    [nested "exec"
        [("command".toList, .flow "[test, -f, /tmp/ready]".toList)],
      fixed "initialDelaySeconds" delay,
      fixed "periodSeconds" period]

/-- The requests and limits of the container. -/
def resourcesEntry (memoryRequest cpuLimit memoryLimit : String) :
    Text × Node :=
  nested "resources"
    [nested "requests" [fixed "cpu" "10m", fixed "memory" memoryRequest],
      nested "limits" [fixed "cpu" cpuLimit, fixed "memory" memoryLimit]]

/-- What stands first in the container of either template. -/
def containerEntries (data : TemplateData) (rest : List (Text × Node)) :
    List (Text × Node) :=
  fixed "name" "proxy" :: inserted "image" data.image ::
    inserted "imagePullPolicy" data.pullPolicy :: rest

/-- The document of `prebakedTmpl`. -/
def prebakedManifest (data : TemplateData) : List (Text × Node) :=
  [fixed "apiVersion" "apps/v1",
    fixed "kind" "Deployment",
    nested "metadata"
      [inserted "name" data.name,
        inserted "namespace" data.namespaceName,
        nested "labels"
          [inserted "app.kubernetes.io/name" data.name,
            inserted "app.kubernetes.io/component" data.component]],
    nested "spec"
      [fixed "replicas" "1",
        selectorEntry data,
        nested "template"
          [nested "metadata"
              [nested "labels"
                [inserted "app" data.name,
                  inserted "app.kubernetes.io/component" data.component]],
            nested "spec"
              [nested "securityContext"
                  [fixed "runAsNonRoot" "true",
                    fixed "runAsUser" "1001",
                    fixed "runAsGroup" "1001",
                    nested "seccompProfile" [fixed "type" "RuntimeDefault"]],
                ("containers".toList, .sequence
                  [.mapping (containerEntries data
                    [nested "securityContext"
                        [fixed "allowPrivilegeEscalation" "false",
                          fixed "readOnlyRootFilesystem" "false",
                          nested "capabilities"
                            [("drop".toList, .flow "[ALL]".toList)]],
                      probeEntry "2" "3",
                      resourcesEntry "16Mi" "200m" "256Mi"])])]]]]

/-- The commands of the container that installs sshuttle itself. -/
def legacyCommand : List Node :=
  [.plain "sh".toList,
    .plain "-c".toList,
    .literal
      ["apt-get update && apt-get install -y openssh-client &&".toList,
        "pip install sshuttle &&".toList,
        "touch /tmp/ready &&".toList,
        "sleep infinity".toList]]

/-- The document of `legacyTmpl`. -/
def legacyManifest (data : TemplateData) : List (Text × Node) :=
  [fixed "apiVersion" "apps/v1",
    fixed "kind" "Deployment",
    nested "metadata"
      [inserted "name" data.name,
        inserted "namespace" data.namespaceName],
    nested "spec"
      [fixed "replicas" "1",
        selectorEntry data,
        nested "template"
          [nested "metadata" [nested "labels" [inserted "app" data.name]],
            nested "spec"
              [("containers".toList, .sequence
                [.mapping (containerEntries data
                  [("command".toList, .sequence legacyCommand),
                    probeEntry "5" "5",
                    resourcesEntry "256Mi" "100m" "1Gi"])])]]]]

/-! ## The templates print the documents -/

-- Literals are opened by a lemma, as evaluating them decodes their bytes.
theorem execute_prebakedTmpl (data : TemplateData) :
    prebakedTmpl.map (TemplateLine.execute data) =
      (printEntries 0 (prebakedManifest data)).map Line.render := by
  simp only [prebakedTmpl, text, action, TemplateLine.execute,
    prebakedManifest, nested, inserted, fixed, containerEntries,
    selectorEntry, probeEntry, resourcesEntry, printEntries, printItems,
    below, itemLines, dash, Node.isBlock, inlineText, Line.render, List.map,
    List.cons_append, List.nil_append]
  repeat rw [String.toList_ofList]
  rfl

theorem execute_legacyTmpl (data : TemplateData) :
    legacyTmpl.map (TemplateLine.execute data) =
      (printEntries 0 (legacyManifest data)).map Line.render := by
  simp only [legacyTmpl, text, action, TemplateLine.execute, legacyManifest,
    legacyCommand, nested, inserted, fixed, containerEntries, selectorEntry,
    probeEntry, resourcesEntry, printEntries, printItems, below, itemLines,
    dash, Node.isBlock, inlineText, Line.render, List.map, List.cons_append,
    List.nil_append]
  repeat rw [String.toList_ofList]
  rfl

theorem execute_eq_printDocument {template : List TemplateLine}
    {data : TemplateData} {entries : List (Text × Node)}
    (same : template.map (TemplateLine.execute data) =
      (printEntries 0 entries).map Line.render) :
    execute template data = printDocument entries := by
  have left : execute template data =
      (template.map (TemplateLine.execute data)).flatMap (· ++ ['\n']) := by
    rw [execute, List.flatMap_map]
  rw [left, same, printDocument, List.flatMap_map]

/-- The inserted values are plain scalars. -/
structure PlainData (data : TemplateData) : Prop where
  name : isPlain data.name = true
  namespaceName : isPlain data.namespaceName = true
  image : isPlain data.image = true
  pullPolicy : isPlain data.pullPolicy = true
  component : isPlain data.component = true

theorem prebakedManifest_printable {data : TemplateData}
    (plain : PlainData data) :
    (Node.mapping (prebakedManifest data)).isPrintable = true := by
  simp only [prebakedManifest, nested, inserted, fixed, containerEntries,
    selectorEntry, probeEntry, resourcesEntry, Node.isPrintable,
    entriesPrintable, itemsPrintable, List.isEmpty, List.map, plain.name,
    plain.namespaceName, plain.image, plain.pullPolicy, plain.component]
  repeat rw [String.toList_ofList]
  decide

theorem legacyManifest_printable {data : TemplateData}
    (plain : PlainData data) :
    (Node.mapping (legacyManifest data)).isPrintable = true := by
  simp only [legacyManifest, nested, inserted, fixed, containerEntries,
    selectorEntry, probeEntry, resourcesEntry, legacyCommand,
    Node.isPrintable, entriesPrintable, itemsPrintable, List.isEmpty,
    List.map, plain.name, plain.namespaceName, plain.image,
    plain.pullPolicy]
  repeat rw [String.toList_ofList]
  decide

/-! ## Where the values stand -/

/-- Where the name of the deployment stands. -/
def namePath : List Step :=
  [.key "metadata", .key "name"]

/-- Where its namespace stands. -/
def namespacePath : List Step :=
  [.key "metadata", .key "namespace"]

/-- Where the label that it selects by stands. -/
def selectorPath : List Step :=
  [.key "spec", .key "selector", .key "matchLabels", .key "app"]

/-- Where the label of its pods stands. -/
def podLabelPath : List Step :=
  [.key "spec", .key "template", .key "metadata", .key "labels", .key "app"]

/-- Where the image of its container stands. -/
def imagePath : List Step :=
  [.key "spec", .key "template", .key "spec", .key "containers", .index 0,
    .key "image"]

/-- The values stand where they belong, as plain scalars. -/
structure Pasted (data : TemplateData) (document : Node) : Prop where
  name : document.follow namePath = some (.plain data.name)
  namespaceName :
    document.follow namespacePath = some (.plain data.namespaceName)
  selector : document.follow selectorPath = some (.plain data.name)
  podLabel : document.follow podLabelPath = some (.plain data.name)
  image : document.follow imagePath = some (.plain data.image)

theorem prebakedManifest_pasted (data : TemplateData) :
    Pasted data (.mapping (prebakedManifest data)) :=
  ⟨rfl, rfl, rfl, rfl, rfl⟩

theorem legacyManifest_pasted (data : TemplateData) :
    Pasted data (.mapping (legacyManifest data)) :=
  ⟨rfl, rfl, rfl, rfl, rfl⟩

/-- Plain values are found in what `DeploymentYAML` prints. -/
theorem exists_pasted {config : DeploymentConfig}
    (plain : PlainData (templateData config)) :
    ∃ document, readDocument (deploymentYAML config) = some document ∧
      Pasted (templateData config) document := by
  rw [deploymentYAML, chooseTmpl]
  split
  · refine ⟨_, ?_, prebakedManifest_pasted _⟩
    rw [execute_eq_printDocument (execute_prebakedTmpl _)]
    exact readDocument_printDocument (prebakedManifest_printable plain)
  · refine ⟨_, ?_, legacyManifest_pasted _⟩
    rw [execute_eq_printDocument (execute_legacyTmpl _)]
    exact readDocument_printDocument (legacyManifest_printable plain)

/-! ## Names and images -/

/-- The characters of DNS-1123 labels. -/
def isLabelChar (char : Char) : Bool :=
  char.isLower || char.isDigit || char == '-'

/-- A DNS-1123 label, of any length. -/
structure IsLabel (text : Text) : Prop where
  chars : text.all isLabelChar = true
  starts : ∃ first, text.head? = some first ∧ first ≠ '-'
  ends : text.getLast? ≠ some '-'

/-- The characters of image references. -/
def isImageChar (char : Char) : Bool :=
  char.isAlphanum || "._-/:@+".toList.contains char

/-- A text of these characters, as every well-formed reference is one. -/
structure IsImage (text : Text) : Prop where
  chars : text.all isImageChar = true
  starts : ∃ first, text.head? = some first ∧ first.isAlphanum = true
  ends : text.getLast? ≠ some ':'

theorem IsLabel.isImage {text : Text} (label : IsLabel text) :
    IsImage text := by
  have kinds (char : Char) (member : char ∈ text) :
      char.isAlphanum = true ∨ char = '-' := by
    have kind := List.all_eq_true.mp label.chars char member
    simp only [isLabelChar, Bool.or_eq_true, beq_iff_eq] at kind
    rcases kind with (lower | digit) | hyphen
    · exact .inl (Bool.or_eq_true_iff.mpr
        (.inl (Bool.or_eq_true_iff.mpr (.inr lower))))
    · exact .inl (Bool.or_eq_true_iff.mpr (.inr digit))
    · exact .inr hyphen
  refine ⟨List.all_eq_true.mpr fun char member => ?_, ?_, fun colon => ?_⟩
  · rcases kinds char member with alphanum | rfl
    · simp [isImageChar, alphanum]
    · decide
  · rcases label.starts with ⟨first, starts, notHyphen⟩
    exact ⟨first, starts,
      (kinds first (List.mem_of_head? starts)).resolve_right notHyphen⟩
  · rcases kinds ':' (List.mem_of_getLast? colon) with alphanum | hyphen
    · exact absurd alphanum (by decide)
    · exact absurd hyphen (by decide)

theorem getLast?_append_ne {left right : Text} {char : Char}
    (nonempty : right ≠ []) (absent : char ∉ right) :
    (left ++ right).getLast? ≠ some char := by
  rw [List.getLast?_append_of_ne_nil _ nonempty]
  exact fun last => absent (List.mem_of_getLast? last)

/-- A reference over these characters is such a text. -/
theorem Reference.isImage {reference : Reference}
    (chars : reference.text.all isImageChar = true)
    (starts : ∃ first, reference.text.head? = some first ∧
      first.isAlphanum = true)
    (hex : ∀ digest, reference.digest = some digest →
      digest.hex ≠ [] ∧ ':' ∉ digest.hex) :
    IsImage reference.text := by
  refine ⟨chars, starts, ?_⟩
  cases digested : reference.digest with
  | some digest =>
      have whole : reference.text = reference.front ++ reference.base ++
          '@' :: digest.algorithm ++ [':'] ++ digest.hex := by
        simp [Reference.text, Digest.text, digested]
      rw [whole]
      exact getLast?_append_ne (hex digest digested).1 (hex digest digested).2
  | none =>
      cases tagged : reference.tag with
      | some tag =>
          have whole : reference.text = reference.front ++
              reference.component.text ++ [':'] ++ tag.text := by
            simp [Reference.text, Reference.base, digested, tagged]
          rw [whole]
          exact getLast?_append_ne tag.nonempty tag.noColon
      | none =>
          have whole : reference.text =
              reference.front ++ reference.component.text := by
            simp [Reference.text, Reference.base, digested, tagged]
          rw [whole]
          exact getLast?_append_ne reference.component.nonempty
            reference.component.noColon

theorem isInk_of_isImageChar {char : Char}
    (kind : isImageChar char = true) : isInk char = true := by
  rw [isImageChar, Bool.or_eq_true, List.contains_iff_mem] at kind
  rcases kind with alphanum | mark
  · exact isInk_of_isAlphanum alphanum
  · have marks : "._-/:@+".toList.all isInk = true := by decide
    exact List.all_eq_true.mp marks char mark

theorem IsImage.isPlain {text : Text} (image : IsImage text) :
    isPlain text = true := by
  rcases image.starts with ⟨first, starts, alphanum⟩
  rcases List.head?_eq_some_iff.mp starts with ⟨rest, rfl⟩
  exact isPlain_of_isInk alphanum (fun other member =>
    isInk_of_isImageChar (List.all_eq_true.mp image.chars other
      (List.mem_cons_of_mem _ member))) image.ends

/-- Such a text is a string if it is neither a word nor a number. -/
theorem IsImage.resolve_iff {text : Text} (image : IsImage text) :
    resolve text = .str text ↔ ¬ IsReserved text := by
  rcases image.starts with ⟨first, starts, alphanum⟩
  rcases List.head?_eq_some_iff.mp starts with ⟨rest, rfl⟩
  exact resolve_eq_str_iff alphanum

theorem plainData_templateData {config : DeploymentConfig}
    (name : IsLabel config.name)
    (namespaceName : IsLabel config.namespaceName)
    (image : IsImage config.image) : PlainData (templateData config) where
  name := name.isImage.isPlain
  namespaceName := namespaceName.isImage.isPlain
  image := image.isPlain
  pullPolicy := by
    rw [templateData, imagePullPolicy]
    dsimp only
    split <;> decide
  component := by
    rw [templateData]
    dsimp only
    split <;> decide

/-! ## What is read -/

/-- The document has the values of the configuration, as strings. -/
structure Declares (config : DeploymentConfig) (document : Node) :
    Prop where
  name : document.scalarAt namePath = some (.str config.name)
  namespaceName :
    document.scalarAt namespacePath = some (.str config.namespaceName)
  selector : document.scalarAt selectorPath = some (.str config.name)
  podLabel : document.scalarAt podLabelPath = some (.str config.name)
  image : document.scalarAt imagePath = some (.str config.image)

/-- The manifest can be read, and says what the configuration says. -/
def ManifestDeclares (config : DeploymentConfig) : Prop :=
  ∃ document, readDocument (deploymentYAML config) = some document ∧
    Declares config document

theorem scalarAt_eq_some {document : Node} {path : List Step} {text : Text}
    (found : document.follow path = some (.plain text)) :
    document.scalarAt path = some (resolve text) := by
  rw [Node.scalarAt, found]

/-- A pasted value is a string exactly if it resolves to itself. -/
theorem declares_iff {config : DeploymentConfig} {document : Node}
    (pasted : Pasted (templateData config) document) :
    Declares config document ↔
      resolve config.name = .str config.name ∧
      resolve config.namespaceName = .str config.namespaceName ∧
      resolve config.image = .str config.image := by
  have name := scalarAt_eq_some pasted.name
  have namespaceName := scalarAt_eq_some pasted.namespaceName
  have selector := scalarAt_eq_some pasted.selector
  have podLabel := scalarAt_eq_some pasted.podLabel
  have image := scalarAt_eq_some pasted.image
  constructor
  · intro declared
    exact ⟨Option.some.inj (name.symm.trans declared.name),
      Option.some.inj (namespaceName.symm.trans declared.namespaceName),
      Option.some.inj (image.symm.trans declared.image)⟩
  · rintro ⟨sameName, sameNamespace, sameImage⟩
    exact ⟨name.trans (congrArg some sameName),
      namespaceName.trans (congrArg some sameNamespace),
      selector.trans (congrArg some sameName),
      podLabel.trans (congrArg some sameName),
      image.trans (congrArg some sameImage)⟩

theorem manifestDeclares_iff {config : DeploymentConfig}
    (plain : PlainData (templateData config)) :
    ManifestDeclares config ↔
      resolve config.name = .str config.name ∧
      resolve config.namespaceName = .str config.namespaceName ∧
      resolve config.image = .str config.image := by
  rcases exists_pasted plain with ⟨document, read, pasted⟩
  rw [← declares_iff pasted]
  constructor
  · rintro ⟨other, readOther, declared⟩
    cases read.symm.trans readOther
    exact declared
  · exact fun declared => ⟨document, read, declared⟩

/-- The selector matches the pods; the rest depends on the values. -/
theorem manifest_declares {config : DeploymentConfig}
    (name : IsLabel config.name)
    (namespaceName : IsLabel config.namespaceName)
    (image : IsImage config.image) :
    (∃ document scalar,
      readDocument (deploymentYAML config) = some document ∧
        document.scalarAt selectorPath = some scalar ∧
        document.scalarAt podLabelPath = some scalar) ∧
      (ManifestDeclares config ↔
        ¬ IsReserved config.name ∧ ¬ IsReserved config.namespaceName ∧
          ¬ IsReserved config.image) := by
  have plain := plainData_templateData name namespaceName image
  refine ⟨?_, ?_⟩
  · rcases exists_pasted plain with ⟨document, read, pasted⟩
    exact ⟨document, _, read, scalarAt_eq_some pasted.selector,
      scalarAt_eq_some pasted.podLabel⟩
  · rw [manifestDeclares_iff plain, name.isImage.resolve_iff,
      namespaceName.isImage.resolve_iff, image.resolve_iff]

/-- The configuration of an ordinary user. -/
def ordinary : DeploymentConfig :=
  ⟨"jjo-sshuttle-proxy".toList, "default".toList, "xjjo/sshuttle".toList,
    false⟩

theorem ordinary_name : IsLabel ordinary.name :=
  ⟨by decide, ⟨'j', rfl, by decide⟩, by decide⟩

/-- A word can stand between the separators of a reference. -/
def Part.ofWord (word : Text)
    (plain : word ≠ [] ∧ word.all Char.isAlphanum = true) : Part where
  text := word
  nonempty := plain.1
  noSlash := fun member =>
    absurd (List.all_eq_true.mp plain.2 '/' member) (by decide)
  noColon := fun member =>
    absurd (List.all_eq_true.mp plain.2 ':' member) (by decide)
  noAt := fun member =>
    absurd (List.all_eq_true.mp plain.2 '@' member) (by decide)

/-- Its image, taken apart. -/
def ordinaryReference : Reference where
  host := none
  leading := [.ofWord "xjjo".toList (by decide)]
  component := .ofWord "sshuttle".toList (by decide)
  tag := none
  digest := none

theorem ordinary_image : IsImage ordinary.image :=
  @Reference.isImage ordinaryReference (by decide) ⟨'x', rfl, by decide⟩
    (by simp [ordinaryReference])

theorem ordinary_declared : ManifestDeclares ordinary := by
  have namespaceName : IsLabel ordinary.namespaceName :=
    ⟨by decide, ⟨'d', rfl, by decide⟩, by decide⟩
  refine (manifest_declares ordinary_name namespaceName
    ordinary_image).2.mpr ⟨?_, ?_, ?_⟩
  · exact ordinary_name.isImage.resolve_iff.mp (by decide)
  · exact namespaceName.isImage.resolve_iff.mp (by decide)
  · exact ordinary_image.resolve_iff.mp (by decide)

/-- The same configuration in a namespace that is named by a number. -/
def numericNamespace : DeploymentConfig :=
  { ordinary with namespaceName := "123".toList }

/-- The manifest names its namespace by a number. -/
theorem numericNamespace_not_declared :
    IsLabel numericNamespace.name ∧
      IsLabel numericNamespace.namespaceName ∧
      IsImage numericNamespace.image ∧
      ¬ ManifestDeclares numericNamespace := by
  have name : IsLabel numericNamespace.name := ordinary_name
  have namespaceName : IsLabel numericNamespace.namespaceName :=
    ⟨by decide, ⟨'1', rfl, by decide⟩, by decide⟩
  have image : IsImage numericNamespace.image := ordinary_image
  refine ⟨name, namespaceName, image, ?_⟩
  rw [manifestDeclares_iff (plainData_templateData name namespaceName image)]
  exact fun same => absurd same.2.1 (by decide)

end KubectlSshuttle.Proxy.Deployment
