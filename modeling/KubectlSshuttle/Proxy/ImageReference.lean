import KubectlSshuttle.Proxy.Deployment

/-!
# References are taken apart where they were put together

An image reference with its optional parts, and what `imageTag`,
`imagePullPolicy` and `isPrebakedImage` find in its text.
-/

namespace KubectlSshuttle.Proxy.Deployment

open KubectlSshuttle.Lib.RustText
open KubectlSshuttle.Lib.GoText

/-! ## References -/

/-- A part that is not empty and free of the separators. -/
structure Part where
  text : Text
  nonempty : text ≠ []
  noSlash : '/' ∉ text
  noColon : ':' ∉ text
  noAt : '@' ∉ text

/-- The registry in front of a path. -/
structure Host where
  name : Part
  /-- any text at all -/
  port : Option Text

/-- What follows the `@` of a reference. -/
structure Digest where
  algorithm : Text
  hex : Text
  algorithmNoAt : '@' ∉ algorithm
  hexNoAt : '@' ∉ hex

/-- `[host[:port]/]component{/component}[:tag][@algorithm:hex]` -/
structure Reference where
  host : Option Host
  leading : List Part
  component : Part
  tag : Option Part
  digest : Option Digest

/-- The host as it is written. -/
def Host.text (host : Host) : Text :=
  host.name.text ++ (host.port.map (':' :: ·)).getD []

/-- The digest as it is written. -/
def Digest.text (digest : Digest) : Text :=
  digest.algorithm ++ ':' :: digest.hex

/-- The text in front of the last component. -/
def Reference.front (reference : Reference) : Text :=
  (reference.host.map (·.text ++ ['/'])).getD [] ++
    reference.leading.flatMap (·.text ++ ['/'])

/-- The last component with its tag. -/
def Reference.base (reference : Reference) : Text :=
  reference.component.text ++
    (reference.tag.map (':' :: ·.text)).getD []

/-- The whole reference as it is written. -/
def Reference.text (reference : Reference) : Text :=
  reference.front ++ reference.base ++
    (reference.digest.map ('@' :: ·.text)).getD []

/-- The tag as the functions give it. -/
def Reference.tagText (reference : Reference) : Text :=
  (reference.tag.map Part.text).getD []

/-- No `@` in the port, unless a digest is given behind it. -/
def Reference.PortClear (reference : Reference) : Prop :=
  reference.digest = none → ∀ host port, reference.host = some host →
    host.port = some port → '@' ∉ port

/-! ## The two functions take the same base -/

/-- A reference without its digest. -/
def withoutDigest (image : Text) : Text :=
  match lastIndex '@' image with
  | some index => image.take index
  | none => image

/-- What stands behind the last slash. -/
def lastComponent (ref : Text) : Text :=
  match lastIndex '/' ref with
  | some slash => ref.drop (slash + 1)
  | none => ref

theorem isPrebakedImage_eq {image base : Text}
    (found : lastComponent (withoutDigest image) = base) :
    isPrebakedImage image =
      (contains "sshuttle".toList (match lastIndex ':' base with
        | some colon => base.take colon
        | none => base) ||
      contains "rushtle".toList (match lastIndex ':' base with
        | some colon => base.take colon
        | none => base)) := by
  rw [← found]
  rfl

/-- `imageTag` adds up what it cuts off, and cuts the same base. -/
theorem imageTag_eq {image base : Text}
    (found : lastComponent (withoutDigest image) = base) :
    imageTag image =
      match lastIndex ':' base with
      | some colon => base.drop (colon + 1)
      | none => [] := by
  rw [← found]
  have tag : imageTag image =
      match lastIndex '/' (withoutDigest image) with
      | some slash =>
          match lastIndex ':' ((withoutDigest image).drop (slash + 1)) with
          | some colon => (withoutDigest image).drop (slash + 1 + colon + 1)
          | none => []
      | none =>
          match lastIndex ':' (withoutDigest image) with
          | some colon => (withoutDigest image).drop (colon + 1)
          | none => [] :=
    rfl
  rw [tag, lastComponent]
  cases lastIndex '/' (withoutDigest image) with
  | none => rfl
  | some slash =>
      cases colon : lastIndex ':'
          ((withoutDigest image).drop (slash + 1)) with
      | none => simp [colon]
      | some index => simp [colon, List.drop_drop, Nat.add_assoc]

/-! ## The base of a reference -/

variable (reference : Reference)

theorem Reference.front_cases :
    reference.front = [] ∨ ∃ before, reference.front = before ++ ['/'] := by
  rcases List.eq_nil_or_concat reference.leading with
    none | ⟨init, last, present⟩
  · rw [Reference.front, none]
    cases reference.host with
    | none => exact .inl rfl
    | some host => exact .inr ⟨host.text, by simp⟩
  · rw [Reference.front, present, List.concat_eq_append,
      List.flatMap_append]
    exact .inr ⟨(reference.host.map (·.text ++ ['/'])).getD [] ++
      init.flatMap (·.text ++ ['/']) ++ last.text, by simp⟩

theorem Reference.slash_notMem_base : '/' ∉ reference.base := by
  have component := reference.component.noSlash
  cases tagged : reference.tag with
  | none => simp [Reference.base, tagged, component]
  | some tag => simp [Reference.base, tagged, component, tag.noSlash]

theorem Reference.at_notMem_base : '@' ∉ reference.base := by
  have component := reference.component.noAt
  cases tagged : reference.tag with
  | none => simp [Reference.base, tagged, component]
  | some tag => simp [Reference.base, tagged, component, tag.noAt]

theorem Reference.at_notMem_front
    (clear : ∀ host port, reference.host = some host →
      host.port = some port → '@' ∉ port) :
    '@' ∉ reference.front := by
  have leading : '@' ∉ reference.leading.flatMap (·.text ++ ['/']) := by
    simp only [List.mem_flatMap, List.mem_append, List.mem_singleton,
      not_exists, not_and, not_or]
    exact fun part _ => ⟨part.noAt, by decide⟩
  cases hosted : reference.host with
  | none => simpa [Reference.front, hosted] using leading
  | some host =>
      cases ported : host.port with
      | none =>
          simp [Reference.front, hosted, Host.text, ported, leading,
            host.name.noAt]
      | some port =>
          simp [Reference.front, hosted, Host.text, ported, leading,
            host.name.noAt, clear host port hosted ported]

variable {reference}

/-- The digest is cut off, and nothing else. -/
theorem Reference.withoutDigest_text (clear : reference.PortClear) :
    withoutDigest reference.text = reference.front ++ reference.base := by
  cases digested : reference.digest with
  | none =>
      have noAt : '@' ∉ reference.front ++ reference.base := by
        rw [List.mem_append, not_or]
        exact ⟨reference.at_notMem_front (clear digested),
          reference.at_notMem_base⟩
      simp [withoutDigest, Reference.text, digested, lastIndex_of_notMem noAt]
  | some digest =>
      have noAt : '@' ∉ digest.text := by
        simp [Digest.text, digest.algorithmNoAt, digest.hexNoAt]
      have whole : reference.text =
          reference.front ++ reference.base ++ '@' :: digest.text := by
        simp [Reference.text, digested]
      rw [withoutDigest, whole, lastIndex_append noAt]
      exact List.take_left

/-- The slashes in front are cut off, and nothing else. -/
theorem Reference.lastComponent_text (clear : reference.PortClear) :
    lastComponent (withoutDigest reference.text) = reference.base := by
  have noSlash := reference.slash_notMem_base
  rw [reference.withoutDigest_text clear, lastComponent]
  rcases reference.front_cases with none | ⟨before, shape⟩
  · rw [none, List.nil_append, lastIndex_of_notMem noSlash]
  · rw [shape, List.append_assoc, List.singleton_append,
      lastIndex_append noSlash]
    simp

/-! ## What the functions find -/

/-- The last colon of the base is the one in front of the tag. -/
theorem Reference.lastIndex_base (reference : Reference) :
    lastIndex ':' reference.base =
      reference.tag.map fun _ => reference.component.text.length := by
  rw [Reference.base]
  cases reference.tag with
  | none => simp [lastIndex_of_notMem reference.component.noColon]
  | some tag =>
      simp only [Option.map_some, Option.getD_some,
        lastIndex_append tag.noColon]

theorem Reference.imageTag_text (clear : reference.PortClear) :
    imageTag reference.text = reference.tagText := by
  rw [imageTag_eq (reference.lastComponent_text clear),
    reference.lastIndex_base, Reference.base, Reference.tagText]
  cases reference.tag with
  | none => rfl
  | some tag => simp

theorem Reference.isPrebakedImage_text (clear : reference.PortClear) :
    isPrebakedImage reference.text = true ↔
      "sshuttle".toList <:+: reference.component.text ∨
        "rushtle".toList <:+: reference.component.text := by
  have bare : (match lastIndex ':' reference.base with
      | some colon => reference.base.take colon
      | none => reference.base) = reference.component.text := by
    rw [reference.lastIndex_base, Reference.base]
    cases reference.tag with
    | none => exact List.append_nil _
    | some tag => exact List.take_left
  rw [isPrebakedImage_eq (reference.lastComponent_text clear), bare,
    Bool.or_eq_true, contains_eq_true_iff, contains_eq_true_iff]

/-- What is found in a reference. -/
structure TakenApart (reference : Reference) : Prop where
  tag : imageTag reference.text = reference.tagText
  pullPolicy : imagePullPolicy reference.text = "Always".toList ↔
    reference.tag = none ∨ reference.tagText = "latest".toList
  prebaked : isPrebakedImage reference.text = true ↔
    "sshuttle".toList <:+: reference.component.text ∨
      "rushtle".toList <:+: reference.component.text
  /-- references with the same last component get the same template -/
  template : ∀ other : Reference, other.PortClear →
    other.component.text = reference.component.text →
      chooseTmpl other.text = chooseTmpl reference.text

theorem Reference.tagText_eq_nil_iff :
    reference.tagText = [] ↔ reference.tag = none := by
  cases tagged : reference.tag with
  | none => simp [Reference.tagText, tagged]
  | some tag => simp [Reference.tagText, tagged, tag.nonempty]

theorem takenApart (clear : reference.PortClear) : TakenApart reference := by
  have prebaked := reference.isPrebakedImage_text clear
  refine ⟨reference.imageTag_text clear, ?_, prebaked, ?_⟩
  · have differ : "IfNotPresent".toList ≠ "Always".toList := by decide
    rw [imagePullPolicy, reference.imageTag_text clear,
      ← reference.tagText_eq_nil_iff]
    split
    · next always => exact iff_of_true rfl always
    · next pinned => exact iff_of_false differ pinned
  · intro other otherClear same
    have otherPrebaked := other.isPrebakedImage_text otherClear
    rw [same, ← prebaked] at otherPrebaked
    rw [chooseTmpl, chooseTmpl, Bool.eq_iff_iff.mpr otherPrebaked]

/-- A registry with a port, a path, a tag and a digest. -/
def fullReference : Reference where
  host := some
    ⟨⟨"localhost".toList, by decide, by decide, by decide, by decide⟩,
      some "5000".toList⟩
  leading := [⟨"team".toList, by decide, by decide, by decide, by decide⟩]
  component :=
    ⟨"my-sshuttle".toList, by decide, by decide, by decide, by decide⟩
  tag := some ⟨"beta".toList, by decide, by decide, by decide, by decide⟩
  digest := some ⟨"sha256".toList, "abc".toList, by decide, by decide⟩

theorem takenApart_fullReference : TakenApart fullReference :=
  takenApart fun none => absurd none (by decide)

/-- A registry named `sshuttle` whose port holds an `@`. -/
def portWithAt : Reference where
  host := some
    ⟨⟨"sshuttle".toList, by decide, by decide, by decide, by decide⟩,
      some "1@2".toList⟩
  leading := []
  component := ⟨"app".toList, by decide, by decide, by decide, by decide⟩
  tag := some ⟨"v1".toList, by decide, by decide, by decide, by decide⟩
  digest := none

/-- Without a digest the last `@` is taken for its mark wherever it is. -/
theorem portWithAt_misread :
    portWithAt.text = "sshuttle:1@2/app:v1".toList ∧
      imageTag portWithAt.text = "1".toList ∧
      portWithAt.tagText = "v1".toList ∧
      isPrebakedImage portWithAt.text = true ∧
      ¬ ("sshuttle".toList <:+: portWithAt.component.text ∨
        "rushtle".toList <:+: portWithAt.component.text) ∧
      ¬ ∀ reference : Reference, TakenApart reference := by
  have misread : imageTag portWithAt.text = "1".toList := by decide
  have tagged : portWithAt.tagText = "v1".toList := by decide
  refine ⟨by decide, misread, tagged, by decide, by decide, ?_⟩
  intro all
  have same := (all portWithAt).tag
  rw [misread, tagged] at same
  exact absurd same (by decide)

end KubectlSshuttle.Proxy.Deployment
