import KubectlSshuttle.Lib.YamlPrinter

/-!
# Printed documents are read back

The lines of a printed node are placed on the blocks that the lines behind it
begin with, whatever these are, as long as they lie less deep.
-/

namespace KubectlSshuttle.Lib.Yaml

open KubectlSshuttle.Lib.RustText

/-! ## Blocks -/

/-- What follows a block lies less deep. -/
structure Follows (bound : Nat) (rest : List Line) (blocks : Blocks) :
    Prop where
  read : readBlocks 0 rest = some blocks
  line : ∀ line, rest.head? = some line → line.indent < bound
  block : ∀ block, blocks.head? = some block → block.1 < bound

theorem Follows.mono {bound larger : Nat} {rest : List Line}
    {blocks : Blocks} (follows : Follows bound rest blocks)
    (le : bound ≤ larger) : Follows larger rest blocks where
  read := follows.read
  line line first := (follows.line line first).trans_le le
  block block first := (follows.block block first).trans_le le

theorem push_fresh {indent : Nat} {fresh : Node}
    {extend : Node → Option Node} {blocks : Blocks}
    (outside : ∀ block, blocks.head? = some block → block.1 < indent) :
    push indent fresh extend blocks = some ((indent, fresh) :: blocks) := by
  cases blocks with
  | nil => rfl
  | cons block rest =>
      rw [push, if_pos (outside block rfl)]

theorem push_extend {indent : Nat} {fresh top node : Node}
    {extend : Node → Option Node} {rest : Blocks}
    (extended : extend top = some node) :
    push indent fresh extend ((indent, top) :: rest) =
      some ((indent, node) :: rest) := by
  rw [push, if_neg (Nat.lt_irrefl indent), if_pos rfl, extended]
  rfl

theorem readBlocks_skip (body rest : List Line) :
    readBlocks body.length (body ++ rest) = readBlocks 0 rest := by
  induction body with
  | nil => rfl
  | cons line body induction => exact induction

/-- A literal text ends where the lines are no deeper than its header. -/
theorem takeWhile_body {indent : Nat} {rest : List Line}
    (outside : ∀ line, rest.head? = some line → line.indent < indent + 1)
    (body : List Text) :
    (body.map (Line.mk (indent + 2)) ++ rest).takeWhile
        (fun line => decide (indent < line.indent)) =
      body.map (Line.mk (indent + 2)) := by
  have stops : rest.takeWhile (fun line => decide (indent < line.indent)) =
      [] := by
    cases rest with
    | nil => rfl
    | cons first others =>
        have shallow := outside first rfl
        rw [List.takeWhile_cons_of_neg]
        simp only [decide_eq_true_eq]
        omega
  rw [List.takeWhile_append_of_pos, stops, List.append_nil]
  intro line member
  rcases List.mem_map.mp member with ⟨text, -, rfl⟩
  simp

theorem readLiteral_map {body : List Text} (nonempty : body ≠ [])
    (depth : Nat) :
    readLiteral (body.map (Line.mk depth)) = some (.literal body) := by
  cases body with
  | nil => exact (nonempty rfl).elim
  | cons first rest =>
      have texts : (rest.map (Line.mk depth)).map Line.text = rest := by
        rw [List.map_map]
        exact List.map_id rest
      rw [List.map_cons, readLiteral, if_pos (by simp), List.map_cons, texts]

/-- One line is placed on what its rest has been read as. -/
theorem readBlocks_line {line : Line} {rest : List Line}
    (body : List Line) {content : Content} {blocks : Blocks}
    (read : readContent line.text = some content)
    (taken : content.body line.indent rest = body)
    (later : readBlocks body.length rest = some blocks) :
    readBlocks 0 (line :: rest) = place line.indent body content blocks := by
  rw [readBlocks, read]
  simp [taken, later]

/-- An entry takes its value from the line and from what follows it. -/
theorem place_entry {indent : Nat} {body : List Line} {key : Text}
    {value : Value} {node : Node} {blocks left : Blocks}
    (taken : takeValue indent body blocks value = some (node, left)) :
    place indent body (.entry key value) blocks =
      push indent (.mapping [(key, node)]) (extendMapping key node) left := by
  rw [place, taken]
  rfl

theorem takeValue_scalar {indent : Nat} {rest : List Line} {blocks : Blocks}
    (follows : Follows (indent + 1) rest blocks) (node : Node) :
    takeValue indent [] blocks (.scalar node) = some (node, blocks) := by
  have shallow : blocks.head?.all (·.1 ≤ indent) = true := by
    cases blocks with
    | nil => rfl
    | cons block others =>
        have outside := follows.block block rfl
        simp only [List.head?_cons, Option.all_some, decide_eq_true_eq]
        omega
  rw [takeValue, if_pos shallow]

theorem takeValue_block (indent : Nat) (node : Node) (blocks : Blocks) :
    takeValue indent [] ((indent + 2, node) :: blocks) .block =
      some (node, blocks) := by
  simp [takeValue]

theorem takeValue_header {body : List Text} (nonempty : body ≠ [])
    (indent depth : Nat) (blocks : Blocks) :
    takeValue indent (body.map (Line.mk depth)) blocks .header =
      some (.literal body, blocks) := by
  rw [takeValue, readLiteral_map nonempty]
  rfl

theorem body_ne_nil {body : List Text}
    (printable : (Node.literal body).isPrintable = true) : body ≠ [] := by
  rintro rfl
  cases printable

/-- An entry is read in front of what follows it. -/
theorem readBlocks_entry {indent : Nat} {key : Text} {node : Node}
    {rest : List Line} {blocks : Blocks} (keyed : isKey key = true)
    (printable : node.isPrintable = true)
    (nested : node.isBlock = true →
      readBlocks 0 (below indent node ++ rest) =
        some ((indent + 2, node) :: blocks))
    (follows : Follows (indent + 1) rest blocks) :
    readBlocks 0 (⟨indent, key ++ ':' :: inlineText node⟩ ::
        below indent node ++ rest) =
      push indent (.mapping [(key, node)]) (extendMapping key node)
        blocks := by
  have spaced : (inlineText node).head?.all (· == ' ') = true := by
    cases node <;> rfl
  have content := readContent_entry keyed spaced
  rw [List.cons_append]
  cases node with
  | plain text =>
      rw [inlineText, List.tail_cons, readValue_plain printable] at content
      exact (readBlocks_line [] content rfl follows.read).trans
        (place_entry (takeValue_scalar follows _))
  | flow text =>
      rw [inlineText, List.tail_cons, readValue_flow printable] at content
      exact (readBlocks_line [] content rfl follows.read).trans
        (place_entry (takeValue_scalar follows _))
  | literal body =>
      have later : readBlocks (body.map (Line.mk (indent + 2))).length
          (below indent (.literal body) ++ rest) = some blocks := by
        rw [below, readBlocks_skip, follows.read]
      have taken : Content.body indent (below indent (.literal body) ++ rest)
          (.entry key .header) = body.map (Line.mk (indent + 2)) :=
        takeWhile_body follows.line body
      exact (readBlocks_line _ content taken later).trans
        (place_entry (takeValue_header (body_ne_nil printable) _ _ _))
  | mapping entries =>
      exact (readBlocks_line [] content rfl (nested rfl)).trans
        (place_entry (takeValue_block indent _ blocks))
  | sequence items =>
      exact (readBlocks_line [] content rfl (nested rfl)).trans
        (place_entry (takeValue_block indent _ blocks))

/-- A literal text is no content of its own. -/
theorem readBlocks_header {line : Line} (rest : List Line)
    (read : readContent line.text = some (.value .header)) :
    readBlocks 0 (line :: rest) = none := by
  have refused (blocks : Blocks) :
      place line.indent [] (.value .header) blocks = none :=
    rfl
  rw [readBlocks, read]
  simp [Content.body, refused]

/-- A block whose first line is moved behind a dash becomes an item. -/
theorem readBlocks_dash {indent depth : Nat} {text : Text}
    {rest : List Line} {node : Node} {blocks : Blocks}
    (read : readBlocks 0 (⟨indent + 2, text⟩ :: rest) =
      some ((depth, node) :: blocks)) :
    readBlocks 0 (⟨indent, '-' :: ' ' :: text⟩ :: rest) =
      push indent (.sequence [node]) (extendSequence node) blocks := by
  cases line : readContent text with
  | none => simp [readBlocks, line] at read
  | some content =>
      have dashed : readContent ('-' :: ' ' :: text) =
          some (.item content) := by
        rw [readContent, line]
        rfl
      have taken : (Content.item content).body indent rest =
          content.body (indent + 2) rest := by
        cases content with
        | value value =>
            cases value with
            | header =>
                have refused : readBlocks 0 (⟨indent + 2, text⟩ :: rest) =
                    none :=
                  readBlocks_header rest line
                rw [refused] at read
                cases read
            | scalar node => rfl
            | block => rfl
        | entry key value => rfl
        | item content => rfl
      cases later : readBlocks (content.body (indent + 2) rest).length
          rest with
      | none => simp [readBlocks, line, later] at read
      | some inner =>
          have placed : place (indent + 2) (content.body (indent + 2) rest)
              content inner = some ((depth, node) :: blocks) :=
            (readBlocks_line _ line rfl later).symm.trans read
          refine (readBlocks_line _ dashed taken later).trans ?_
          rw [place]
          simp [placed]

/-- A block has a first line, and its depth. -/
theorem below_eq_cons (indent : Nat) :
    (node : Node) → node.isBlock = true → node.isPrintable = true →
      ∃ text rest, below indent node = ⟨indent + 2, text⟩ :: rest
  | .mapping ((_, _) :: _), _, _ => ⟨_, _, rfl⟩
  | .sequence (node :: rest), _, printable => by
      have first : node.isPrintable = true := by
        simp only [Node.isPrintable, itemsPrintable, Bool.and_eq_true]
          at printable
        exact printable.2.1
      rw [below, printItems, itemLines]
      by_cases block : node.isBlock = true
      · rcases below_eq_cons (indent + 2) node block first with
          ⟨text, others, shape⟩
        rw [if_pos block, shape]
        exact ⟨_, _, rfl⟩
      · rw [if_neg block]
        exact ⟨_, _, rfl⟩

/-- An item begins at its dash. -/
theorem itemLines_eq_cons (indent : Nat) {node : Node}
    (printable : node.isPrintable = true) :
    ∃ text rest, itemLines indent node (below indent node) =
      ⟨indent, text⟩ :: rest := by
  rw [itemLines]
  by_cases block : node.isBlock = true
  · rcases below_eq_cons indent node block printable with
      ⟨text, rest, shape⟩
    rw [if_pos block, shape]
    exact ⟨_, _, rfl⟩
  · rw [if_neg block]
    exact ⟨_, _, rfl⟩

/-- An item is read in front of what follows it. -/
theorem readBlocks_item {indent : Nat} {node : Node} {rest : List Line}
    {blocks : Blocks} (printable : node.isPrintable = true)
    (nested : node.isBlock = true →
      readBlocks 0 (below indent node ++ rest) =
        some ((indent + 2, node) :: blocks))
    (follows : Follows (indent + 1) rest blocks) :
    readBlocks 0 (itemLines indent node (below indent node) ++ rest) =
      push indent (.sequence [node]) (extendSequence node) blocks := by
  have deeper : Follows (indent + 2) rest blocks :=
    follows.mono (Nat.le_succ _)
  have scalar (text : Text) (leaf : Node)
      (content : readContent text = some (.value (.scalar leaf))) :
      readBlocks 0 (⟨indent, '-' :: ' ' :: text⟩ :: rest) =
        push indent (.sequence [leaf]) (extendSequence leaf) blocks := by
    have alone : readBlocks 0 (⟨indent + 2, text⟩ :: rest) =
        some ((indent + 2, leaf) :: blocks) := by
      refine (readBlocks_line [] content rfl follows.read).trans ?_
      rw [place, takeValue_scalar (deeper.mono (Nat.le_succ _))]
      exact push_fresh deeper.block
    exact readBlocks_dash alone
  by_cases block : node.isBlock = true
  · rcases below_eq_cons indent node block printable with
      ⟨text, others, shape⟩
    have read := nested block
    rw [shape] at read
    rw [itemLines, if_pos block, shape]
    exact readBlocks_dash read
  · rw [itemLines, if_neg block]
    cases node with
    | plain text => exact scalar text _ (readContent_plain printable)
    | flow text => exact scalar text _ (readContent_flow printable)
    | literal body =>
        have content : readContent ('-' :: ' ' :: ['|']) =
            some (.item (.value .header)) :=
          rfl
        have taken :
            Content.body indent (below indent (.literal body) ++ rest)
              (.item (.value .header)) = body.map (Line.mk (indent + 2)) :=
          takeWhile_body follows.line body
        have later : readBlocks (body.map (Line.mk (indent + 2))).length
            (below indent (.literal body) ++ rest) = some blocks := by
          rw [below, readBlocks_skip, follows.read]
        refine (readBlocks_line _ content taken later).trans ?_
        rw [place, place, takeValue_header (body_ne_nil printable)]
        simp [push_fresh deeper.block]
    | mapping entries => exact (block rfl).elim
    | sequence items => exact (block rfl).elim

/-- A mapping in front of the blocks, if it has entries. -/
def withMapping (indent : Nat) (blocks : Blocks) :
    List (Text × Node) → Blocks
  | [] => blocks
  | entry :: rest => (indent, .mapping (entry :: rest)) :: blocks

/-- A sequence in front of the blocks, if it has items. -/
def withSequence (indent : Nat) (blocks : Blocks) : List Node → Blocks
  | [] => blocks
  | item :: rest => (indent, .sequence (item :: rest)) :: blocks

theorem push_mapping {indent : Nat} {blocks : Blocks} {key : Text}
    {node : Node} {entries : List (Text × Node)}
    (outside : ∀ block, blocks.head? = some block → block.1 < indent)
    (fresh : (entries.map Prod.fst).contains key = false) :
    push indent (.mapping [(key, node)]) (extendMapping key node)
        (withMapping indent blocks entries) =
      some (withMapping indent blocks ((key, node) :: entries)) := by
  cases entries with
  | nil => exact push_fresh outside
  | cons entry rest =>
      refine push_extend ?_
      rw [extendMapping, fresh]
      rfl

theorem push_sequence {indent : Nat} {blocks : Blocks} {node : Node}
    {items : List Node}
    (outside : ∀ block, blocks.head? = some block → block.1 < indent) :
    push indent (.sequence [node]) (extendSequence node)
        (withSequence indent blocks items) =
      some (withSequence indent blocks (node :: items)) := by
  cases items with
  | nil => exact push_fresh outside
  | cons item rest => exact push_extend rfl

/-- A line that has been placed, with the block it belongs to. -/
theorem Follows.cons {indent : Nat} {text : Text} {node : Node}
    {rest : List Line} {blocks : Blocks}
    (read : readBlocks 0 (⟨indent, text⟩ :: rest) =
      some ((indent, node) :: blocks)) :
    Follows (indent + 1) (⟨indent, text⟩ :: rest)
      ((indent, node) :: blocks) where
  read := read
  line line first := by
    cases Option.some.inj first
    exact Nat.lt_succ_self _
  block block first := by
    cases Option.some.inj first
    exact Nat.lt_succ_self _

mutual

theorem readBlocks_below {indent : Nat} {rest : List Line}
    {blocks : Blocks} (follows : Follows (indent + 2) rest blocks) :
    (node : Node) → node.isBlock = true → node.isPrintable = true →
      readBlocks 0 (below indent node ++ rest) =
        some ((indent + 2, node) :: blocks)
  | .mapping (entry :: others), _, printable => by
      simp only [Node.isPrintable, Bool.and_eq_true] at printable
      exact (follows_printEntries follows (entry :: others) printable.2).read
  | .sequence (item :: others), _, printable => by
      simp only [Node.isPrintable, Bool.and_eq_true] at printable
      exact (follows_printItems follows (item :: others) printable.2).read

theorem follows_printEntries {indent : Nat} {rest : List Line}
    {blocks : Blocks} (follows : Follows indent rest blocks) :
    (entries : List (Text × Node)) → entriesPrintable entries = true →
      Follows (indent + 1) (printEntries indent entries ++ rest)
        (withMapping indent blocks entries)
  | [], _ => follows.mono (Nat.le_succ _)
  | (key, node) :: others, printable => by
      simp only [entriesPrintable, Bool.and_eq_true,
        Bool.not_eq_eq_eq_not, Bool.not_true] at printable
      rcases printable with ⟨⟨⟨keyed, fresh⟩, nodePrintable⟩, parts⟩
      have later := follows_printEntries follows others parts
      have entry := readBlocks_entry keyed nodePrintable
        (fun block => readBlocks_below (later.mono (Nat.le_succ _)) node
          block nodePrintable) later
      rw [push_mapping follows.block fresh] at entry
      rw [printEntries, List.append_assoc]
      exact .cons entry

theorem follows_printItems {indent : Nat} {rest : List Line}
    {blocks : Blocks} (follows : Follows indent rest blocks) :
    (items : List Node) → itemsPrintable items = true →
      Follows (indent + 1) (printItems indent items ++ rest)
        (withSequence indent blocks items)
  | [], _ => follows.mono (Nat.le_succ _)
  | node :: others, printable => by
      rcases Bool.and_eq_true_iff.mp printable with ⟨nodePrintable, parts⟩
      have later := follows_printItems follows others parts
      have item := readBlocks_item nodePrintable
        (fun block => readBlocks_below (later.mono (Nat.le_succ _)) node
          block nodePrintable) later
      rcases itemLines_eq_cons indent nodePrintable with
        ⟨text, lines, shape⟩
      rw [push_sequence follows.block, shape] at item
      rw [printItems, List.append_assoc, shape]
      exact .cons item

end

/-- The lines of a document are read back. -/
theorem readBlocks_printDocument {entries : List (Text × Node)}
    (nonempty : entries ≠ []) (printable : entriesPrintable entries = true) :
    readBlocks 0 (printEntries 0 entries) = some [(0, .mapping entries)] := by
  have nothing : Follows 0 [] [] := ⟨rfl, by simp, by simp⟩
  have read := (follows_printEntries nothing entries printable).read
  rw [List.append_nil] at read
  cases entries with
  | nil => exact (nonempty rfl).elim
  | cons entry rest => exact read

/-! ## Documents -/

/-- The reader inverts the printer. -/
theorem readDocument_printDocument {entries : List (Text × Node)}
    (printable : (Node.mapping entries).isPrintable = true) :
    readDocument (printDocument entries) = some (.mapping entries) := by
  simp only [Node.isPrintable, Bool.and_eq_true, Bool.not_eq_eq_eq_not,
    Bool.not_true, List.isEmpty_eq_false_iff] at printable
  have good := isLineText_printEntries 0 entries printable.2
  rw [readDocument, printDocument, lines_printed good,
    mapM_readLine_render good]
  simp [readBlocks_printDocument printable.1 printable.2]

end KubectlSshuttle.Lib.Yaml
