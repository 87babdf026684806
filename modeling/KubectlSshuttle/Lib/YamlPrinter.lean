import KubectlSshuttle.Lib.Yaml

/-!
# A printer for documents in block style

Each level of a document is printed two spaces deeper than the one around it.
What a printed line holds is read back, and so is the line from its text.
-/

namespace KubectlSshuttle.Lib.Yaml

open KubectlSshuttle.Lib.RustText

/-! ## The printer -/

/-- Mappings and sequences stand on lines of their own. -/
def Node.isBlock : Node → Bool
  | .mapping _ | .sequence _ => true
  | _ => false

/-- What stands behind the colon or the dash of a value. -/
def inlineText : Node → Text
  | .plain text | .flow text => ' ' :: text
  | .literal _ => [' ', '|']
  | .mapping _ | .sequence _ => []

/-- The first line of a block, moved behind a dash. -/
def dash (indent : Nat) : List Line → List Line
  | [] => []
  | first :: rest => ⟨indent, '-' :: ' ' :: first.text⟩ :: rest

/-- The lines of an item, from those below its dash. -/
def itemLines (indent : Nat) (node : Node) (lines : List Line) :
    List Line :=
  if node.isBlock then dash indent lines
  else ⟨indent, '-' :: inlineText node⟩ :: lines

mutual

/-- The lines below that of the key or the dash. -/
def below (indent : Nat) : Node → List Line
  | .plain _ | .flow _ => []
  | .literal body => body.map (Line.mk (indent + 2))
  | .mapping entries => printEntries (indent + 2) entries
  | .sequence items => printItems (indent + 2) items

/-- The lines of a mapping. -/
def printEntries (indent : Nat) : List (Text × Node) → List Line
  | [] => []
  | (key, node) :: rest =>
      ⟨indent, key ++ ':' :: inlineText node⟩ :: below indent node ++
        printEntries indent rest

/-- The lines of a sequence. -/
def printItems (indent : Nat) : List Node → List Line
  | [] => []
  | node :: rest =>
      itemLines indent node (below indent node) ++ printItems indent rest

end

/-- A line with its indentation. -/
def Line.render (line : Line) : Text :=
  List.replicate line.indent ' ' ++ line.text

/-- The text of a document that is a mapping. -/
def printDocument (entries : List (Text × Node)) : Text :=
  (printEntries 0 entries).flatMap (·.render ++ ['\n'])

/-- A text that can stand on a line. -/
def isLineText (text : Text) : Bool :=
  text.head?.any isInk && text.all fun char => isInk char || char == ' '

mutual

/-- The nodes that are read back. -/
def Node.isPrintable : Node → Bool
  | .plain text => isPlain text
  | .flow text => isFlow text
  | .literal body => !body.isEmpty && body.all isLineText
  | .mapping entries => !entries.isEmpty && entriesPrintable entries
  | .sequence items => !items.isEmpty && itemsPrintable items

/-- Keys are distinct and can be written, and so can their nodes. -/
def entriesPrintable : List (Text × Node) → Bool
  | [] => true
  | (key, node) :: rest =>
      isKey key && !(rest.map Prod.fst).contains key && node.isPrintable &&
        entriesPrintable rest

/-- All items can be written. -/
def itemsPrintable : List Node → Bool
  | [] => true
  | node :: rest => node.isPrintable && itemsPrintable rest

end

/-! ## Lines -/

theorem isPlainRest_of_isPlain {first : Char} {rest : Text}
    (plain : isPlain (first :: rest) = true) :
    isPlainRest first rest = true := by
  simpa [isPlain] using (Bool.and_eq_true_iff.mp plain).2

/-- A colon within a plain scalar is no separator. -/
theorem colon_inside {char : Char} {rest : Text}
    (plain : isPlainRest char rest = true) (suffix : Text) :
    (char == ':' && (rest ++ suffix).head?.all (· == ' ')) = false := by
  rw [Bool.and_eq_false_iff]
  by_cases colon : char = ':'
  · subst colon
    right
    cases rest with
    | nil => simp [isPlainRest] at plain
    | cons next others =>
        by_cases space : next = ' '
        · simp [isPlainRest, space] at plain
        · simp [space]
  · simp [colon]

theorem isPlainRest_tail {char next : Char} {rest : Text}
    (plain : isPlainRest char (next :: rest) = true) :
    isPlainRest next rest = true :=
  (Bool.and_eq_true_iff.mp plain).2

/-- A plain scalar is no entry. -/
theorem splitEntry_of_isPlainRest {char : Char} {rest : Text}
    (plain : isPlainRest char rest = true) :
    splitEntry (char :: rest) = none := by
  have inside := colon_inside plain []
  rw [List.append_nil] at inside
  rw [splitEntry, if_neg (Bool.eq_false_iff.mp inside)]
  induction rest generalizing char with
  | nil => rfl
  | cons next others induction =>
      have later := isPlainRest_tail plain
      have none := colon_inside later []
      rw [List.append_nil] at none
      rw [splitEntry, if_neg (Bool.eq_false_iff.mp none),
        Option.map_eq_none_iff]
      exact induction later none

/-- An entry is cut behind its key. -/
theorem splitEntry_key {char : Char} {rest value : Text}
    (plain : isPlainRest char rest = true)
    (space : value.head?.all (· == ' ') = true) :
    splitEntry (char :: rest ++ ':' :: value) =
      some (char :: rest, value.tail) := by
  induction rest generalizing char with
  | nil =>
      have inside := colon_inside plain (':' :: value)
      rw [List.cons_append, splitEntry,
        if_neg (Bool.eq_false_iff.mp inside), List.nil_append, splitEntry,
        if_pos (by simpa using space)]
      rfl
  | cons next others induction =>
      have inside := colon_inside plain (':' :: value)
      rw [List.cons_append, splitEntry,
        if_neg (Bool.eq_false_iff.mp inside),
        induction (isPlainRest_tail plain)]
      rfl

/-- A plain scalar begins with no dash of a sequence. -/
theorem noDash_of_isPlain {text : Text} (plain : isPlain text = true)
    (suffix rest : Text) : text ++ suffix ≠ '-' :: ' ' :: rest := by
  intro whole
  cases text with
  | nil => cases plain
  | cons first others =>
      rw [List.cons_append] at whole
      rcases List.cons.inj whole with ⟨rfl, tail⟩
      have front := (Bool.and_eq_true_iff.mp plain).1
      cases others with
      | nil => simp [isPlainFirst] at front
      | cons next more =>
          rw [List.cons_append] at tail
          rcases List.cons.inj tail with ⟨rfl, -⟩
          exact absurd front (by simp [isPlainFirst, isInk])

theorem readContent_of_noDash {text : Text}
    (noDash : ∀ rest, text ≠ '-' :: ' ' :: rest) :
    readContent text =
      match splitEntry text with
      | some (key, rest) =>
          if isKey key then (readValue rest).map (.entry key) else none
      | none => (readValue text).map .value := by
  rw [readContent.eq_def]
  split
  · next rest => exact (noDash rest rfl).elim
  · rfl

theorem isPlain_of_isKey {key : Text} (isKey : isKey key = true) :
    isPlain key = true := by
  simp only [Yaml.isKey, Bool.and_eq_true] at isKey
  exact isKey.1.1.1

/-- The line of an entry. -/
theorem readContent_entry {key value : Text} (keyed : isKey key = true)
    (space : value.head?.all (· == ' ') = true) :
    readContent (key ++ ':' :: value) =
      (readValue value.tail).map (.entry key) := by
  have plain := isPlain_of_isKey keyed
  rw [readContent_of_noDash (noDash_of_isPlain plain _)]
  cases key with
  | nil => cases plain
  | cons first rest =>
      rw [splitEntry_key (isPlainRest_of_isPlain plain) space]
      simp [keyed]

/-- A plain scalar begins with a character that indicates nothing else. -/
theorem head_of_isPlain {first : Char} {rest : Text}
    (plain : isPlain (first :: rest) = true) :
    isInk first = true ∧
      (first = '-' ∨ first = '?' ∨ first = ':' ∨
        isIndicator first = false) := by
  have front := (Bool.and_eq_true_iff.mp plain).1
  rw [isPlainFirst] at front
  split at front
  · next leading =>
      simp only [Bool.or_eq_true, beq_iff_eq] at leading
      rcases leading with (rfl | rfl) | rfl <;> decide
  · simp only [Bool.and_eq_true, Bool.not_eq_eq_eq_not, Bool.not_true]
      at front
    exact ⟨front.1, .inr (.inr (.inr front.2))⟩

theorem readValue_plain {text : Text} (plain : isPlain text = true) :
    readValue text = some (.scalar (.plain text)) := by
  cases text with
  | nil => cases plain
  | cons first rest =>
      have head := (head_of_isPlain plain).2
      have noHeader : first :: rest ≠ ['|'] := by
        intro header
        exact absurd ((List.cons.inj header).1 ▸ head) (by decide)
      have noFlow : isFlow (first :: rest) = false := by
        rw [isFlow, List.head?_cons]
        by_cases bracket : first = '['
        · exact absurd (bracket ▸ head) (by decide)
        · simp [bracket]
      rw [readValue, if_neg (List.cons_ne_nil _ _), if_neg noHeader, noFlow]
      simp [plain]

theorem readValue_flow {text : Text} (flow : isFlow text = true) :
    readValue text = some (.scalar (.flow text)) := by
  have noNil : text ≠ [] := by
    rintro rfl
    cases flow
  have noHeader : text ≠ ['|'] := by
    rintro rfl
    cases flow
  rw [readValue, if_neg noNil, if_neg noHeader, if_pos flow]

/-- A flow sequence holds no separator. -/
theorem splitEntry_of_notMem {text : Text} (noColon : ':' ∉ text) :
    splitEntry text = none := by
  induction text with
  | nil => rfl
  | cons char rest induction =>
      rw [List.mem_cons, not_or] at noColon
      have other : (char == ':') = false := by
        simpa using Ne.symm noColon.1
      rw [splitEntry, other, Bool.false_and, induction noColon.2]
      rfl

theorem exists_of_isFlow {text : Text} (flow : isFlow text = true) :
    ∃ middle, text = '[' :: (middle ++ [']']) ∧
      ∀ char ∈ middle, (isInk char = true ∨ char = ' ') ∧ char ≠ ':' := by
  simp only [isFlow, Bool.and_eq_true, Bool.or_eq_true, beq_iff_eq,
    List.all_eq_true] at flow
  rcases flow with ⟨⟨⟨opening, long⟩, closing⟩, inside⟩
  cases text with
  | nil => cases opening
  | cons first rest =>
      cases Option.some.inj opening
      rcases List.eq_nil_or_concat rest with rfl | ⟨middle, last, rfl⟩
      · cases long
      · rw [List.concat_eq_append] at closing inside ⊢
        rw [← List.cons_append, List.getLast?_concat] at closing
        rw [List.tail_cons, List.dropLast_concat] at inside
        cases Option.some.inj closing
        refine ⟨middle, rfl, fun char member => ⟨(inside char member).1, ?_⟩⟩
        rintro rfl
        exact absurd (inside ':' member).2 (by decide)

theorem colon_notMem_of_isFlow {text : Text} (flow : isFlow text = true) :
    ':' ∉ text := by
  rcases exists_of_isFlow flow with ⟨middle, rfl, inside⟩
  have absent : ':' ∉ middle := fun member => (inside ':' member).2 rfl
  simp [absent]

/-- A scalar behind a dash. -/
theorem readContent_plain {text : Text} (plain : isPlain text = true) :
    readContent text = some (.value (.scalar (.plain text))) := by
  have noDash := noDash_of_isPlain plain []
  rw [List.append_nil] at noDash
  rw [readContent_of_noDash noDash, readValue_plain plain]
  cases text with
  | nil => cases plain
  | cons first rest =>
      rw [splitEntry_of_isPlainRest (isPlainRest_of_isPlain plain)]
      rfl

theorem readContent_flow {text : Text} (flow : isFlow text = true) :
    readContent text = some (.value (.scalar (.flow text))) := by
  have noDash (rest : Text) : text ≠ '-' :: ' ' :: rest := by
    rintro rfl
    cases flow
  rw [readContent_of_noDash noDash, readValue_flow flow,
    splitEntry_of_notMem (colon_notMem_of_isFlow flow)]
  rfl

/-! ## Texts -/

theorem isLineText_cons {char : Char} {rest : Text} :
    isLineText (char :: rest) = true ↔
      isInk char = true ∧ ∀ other ∈ rest, isInk other = true ∨ other = ' ' := by
  simp only [isLineText, List.head?_cons, Option.any_some, List.all_cons,
    Bool.and_eq_true, Bool.or_eq_true, beq_iff_eq, List.all_eq_true]
  exact ⟨fun whole => ⟨whole.1, whole.2.2⟩,
    fun whole => ⟨whole.1, .inl whole.1, whole.2⟩⟩

theorem forall_of_isPlainRest {previous : Char} {text : Text}
    (plain : isPlainRest previous text = true) :
    ∀ char ∈ text, isInk char = true ∨ char = ' ' := by
  induction text generalizing previous with
  | nil => simp
  | cons char rest induction =>
      simp only [isPlainRest, Bool.and_eq_true, Bool.or_eq_true, beq_iff_eq]
        at plain
      rw [List.forall_mem_cons]
      exact ⟨plain.1.1.1, induction plain.2⟩

theorem isLineText_of_isPlain {text : Text} (plain : isPlain text = true) :
    isLineText text = true := by
  cases text with
  | nil => cases plain
  | cons first rest =>
      rw [isLineText_cons]
      exact ⟨(head_of_isPlain plain).1,
        forall_of_isPlainRest (isPlainRest_of_isPlain plain)⟩

theorem isLineText_of_isFlow {text : Text} (flow : isFlow text = true) :
    isLineText text = true := by
  rcases exists_of_isFlow flow with ⟨middle, rfl, inside⟩
  rw [isLineText_cons]
  refine ⟨by decide, fun char member => ?_⟩
  rcases List.mem_append.mp member with between | final
  · exact (inside char between).1
  · rw [List.mem_singleton.mp final]
    exact .inl (by decide)

theorem isLineText_append {text rest : Text}
    (line : isLineText text = true)
    (others : ∀ char ∈ rest, isInk char = true ∨ char = ' ') :
    isLineText (text ++ rest) = true := by
  cases text with
  | nil => cases line
  | cons first more =>
      rw [isLineText_cons] at line
      rw [List.cons_append, isLineText_cons]
      refine ⟨line.1, fun char member => ?_⟩
      rcases List.mem_append.mp member with front | back
      · exact line.2 char front
      · exact others char back

theorem forall_of_isLineText {text : Text} (line : isLineText text = true) :
    ∀ char ∈ text, isInk char = true ∨ char = ' ' := by
  cases text with
  | nil => cases line
  | cons first rest =>
      rw [isLineText_cons] at line
      exact List.forall_mem_cons.mpr ⟨.inl line.1, line.2⟩

/-- What stands behind a colon or a dash fits on the line. -/
theorem forall_of_mem_inlineText {node : Node}
    (printable : node.isPrintable = true) :
    ∀ char ∈ inlineText node, isInk char = true ∨ char = ' ' := by
  cases node with
  | plain text =>
      exact List.forall_mem_cons.mpr ⟨.inr rfl,
        forall_of_isLineText (isLineText_of_isPlain printable)⟩
  | flow text =>
      exact List.forall_mem_cons.mpr ⟨.inr rfl,
        forall_of_isLineText (isLineText_of_isFlow printable)⟩
  | literal body =>
      intro char member
      simp only [inlineText, List.mem_cons, List.not_mem_nil, or_false]
        at member
      rcases member with rfl | rfl
      · exact .inr rfl
      · exact .inl (by decide)
  | mapping entries => simp [inlineText]
  | sequence items => simp [inlineText]

theorem isLineText_dash {indent : Nat} {lines : List Line}
    (good : ∀ line ∈ lines, isLineText line.text = true) :
    ∀ line ∈ dash indent lines, isLineText line.text = true := by
  cases lines with
  | nil => simp [dash]
  | cons first rest =>
      rw [List.forall_mem_cons] at good
      rw [dash, List.forall_mem_cons]
      refine ⟨?_, good.2⟩
      rw [isLineText_cons]
      exact ⟨by decide, List.forall_mem_cons.mpr ⟨.inr rfl,
        forall_of_isLineText good.1⟩⟩

mutual

theorem isLineText_below (indent : Nat) :
    (node : Node) → node.isPrintable = true →
      ∀ line ∈ below indent node, isLineText line.text = true
  | .plain _, _ => by simp [below]
  | .flow _, _ => by simp [below]
  | .literal body, printable => by
      simp only [Node.isPrintable, Bool.and_eq_true, List.all_eq_true]
        at printable
      intro line member
      rcases List.mem_map.mp member with ⟨text, inBody, rfl⟩
      exact printable.2 text inBody
  | .mapping entries, printable => by
      simp only [Node.isPrintable, Bool.and_eq_true] at printable
      exact isLineText_printEntries (indent + 2) entries printable.2
  | .sequence items, printable => by
      simp only [Node.isPrintable, Bool.and_eq_true] at printable
      exact isLineText_printItems (indent + 2) items printable.2

theorem isLineText_printEntries (indent : Nat) :
    (entries : List (Text × Node)) → entriesPrintable entries = true →
      ∀ line ∈ printEntries indent entries, isLineText line.text = true
  | [], _ => by simp [printEntries]
  | (key, node) :: rest, printable => by
      simp only [entriesPrintable, Bool.and_eq_true] at printable
      rcases printable with ⟨⟨⟨keyed, -⟩, nodePrintable⟩, parts⟩
      intro line member
      rw [printEntries, List.cons_append, List.mem_cons,
        List.mem_append] at member
      rcases member with rfl | under | later
      · refine isLineText_append
          (isLineText_of_isPlain (isPlain_of_isKey keyed)) ?_
        exact List.forall_mem_cons.mpr ⟨.inl (by decide),
          forall_of_mem_inlineText nodePrintable⟩
      · exact isLineText_below indent node nodePrintable line under
      · exact isLineText_printEntries indent rest parts line later

theorem isLineText_printItems (indent : Nat) :
    (items : List Node) → itemsPrintable items = true →
      ∀ line ∈ printItems indent items, isLineText line.text = true
  | [], _ => by simp [printItems]
  | node :: rest, printable => by
      rcases Bool.and_eq_true_iff.mp printable with ⟨nodePrintable, parts⟩
      have under := isLineText_below indent node nodePrintable
      intro line member
      rw [printItems, List.mem_append] at member
      rcases member with here | later
      · rw [itemLines] at here
        split at here
        · exact isLineText_dash under line here
        · rcases List.mem_cons.mp here with rfl | deeper
          · exact isLineText_cons.mpr
              ⟨by decide, forall_of_mem_inlineText nodePrintable⟩
          · exact under line deeper
      · exact isLineText_printItems indent rest parts line later

end

/-- A line is read back from its text. -/
theorem readLine_render {line : Line}
    (good : isLineText line.text = true) :
    readLine line.render = some line := by
  rcases line with ⟨indent, text⟩
  cases text with
  | nil => cases good
  | cons first rest =>
      have ink := (isLineText_cons.mp good).1
      have notSpace : (first == ' ') = false := by
        rw [beq_eq_false_iff_ne]
        rintro rfl
        exact absurd ink (by decide)
      have blank : ∀ char ∈ List.replicate indent ' ',
          (char == ' ') = true := by
        intro char member
        rw [List.eq_of_mem_replicate member]
        rfl
      have front : (List.replicate indent ' ' ++ first :: rest).takeWhile
          (· == ' ') = List.replicate indent ' ' := by
        rw [List.takeWhile_append_of_pos blank,
          List.takeWhile_cons_of_neg (by simp [notSpace]), List.append_nil]
      have back : (List.replicate indent ' ' ++ first :: rest).dropWhile
          (· == ' ') = first :: rest := by
        rw [List.dropWhile_append_of_pos blank,
          List.dropWhile_cons_of_neg (by simp [notSpace])]
      simp only [readLine, Line.render, front, back, List.head?_cons,
        Option.any_some, ink, List.length_replicate, ↓reduceIte]

theorem lines_printed {parts : List Line}
    (good : ∀ line ∈ parts, isLineText line.text = true) :
    lines (parts.flatMap (·.render ++ ['\n'])) = parts.map Line.render := by
  have chars : ∀ line ∈ parts, ∀ char ∈ line.render,
      isInk char = true ∨ char = ' ' := by
    intro line member char inLine
    rcases List.mem_append.mp inLine with blank | inText
    · exact .inr (List.eq_of_mem_replicate blank)
    · exact forall_of_isLineText (good line member) char inText
  have joined : parts.flatMap (·.render ++ ['\n']) =
      (parts.map Line.render).flatMap (· ++ ['\n']) := by
    rw [List.flatMap_map]
  rw [joined]
  refine lines_flatMap ?_ ?_
  · intro part member
    rcases List.mem_map.mp member with ⟨line, inParts, rfl⟩
    intro newline
    exact absurd (chars line inParts '\n' newline) (by decide)
  · intro part member
    rcases List.mem_map.mp member with ⟨line, inParts, rfl⟩
    intro ends
    exact absurd (chars line inParts '\r' (List.mem_of_getLast? ends))
      (by decide)

theorem mapM_readLine_render {parts : List Line}
    (good : ∀ line ∈ parts, isLineText line.text = true) :
    (parts.map Line.render).mapM readLine = some parts := by
  induction parts with
  | nil => rfl
  | cons line rest induction =>
      rw [List.forall_mem_cons] at good
      rw [List.map_cons, List.mapM_cons, readLine_render good.1,
        induction good.2]
      rfl

end KubectlSshuttle.Lib.Yaml
