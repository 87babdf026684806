import KubectlSshuttle.Lib.RustText

/-!
# Documents in block style

A reader for the part of YAML 1.2 that is made of block mappings, block
sequences, plain scalars on one line and literal texts; flow sequences of
plain words are kept as they are written.  Whatever else a document holds
makes the reader refuse it.

The lines are placed from the last one up.  What has been read so far is the
list of the blocks that the lines below begin with, each one less indented
than the block before it: a line either extends the first of them or takes it
as its value.
-/

namespace KubectlSshuttle.Lib.Yaml

open KubectlSshuttle.Lib.RustText

/-- A document, or a part of it. -/
inductive Node where
  | plain (text : Text)
  /-- a flow sequence, as it is written -/
  | flow (text : Text)
  /-- a literal text, without its indentation -/
  | literal (body : List Text)
  | mapping (entries : List (Text × Node))
  | sequence (items : List Node)

/-- A line without the spaces in front of it. -/
structure Line where
  indent : Nat
  text : Text
deriving DecidableEq

/-! ## Scalars -/

/-- `ns-char`: a printable character that is no white space. -/
def isInk (char : Char) : Bool :=
  let code := char.toNat
  (0x21 ≤ code && code ≤ 0x7E) || code == 0x85 ||
    (0xA0 ≤ code && code ≤ 0xD7FF) ||
    (0xE000 ≤ code && code ≤ 0xFFFD && code != 0xFEFF) || 0x10000 ≤ code

/-- `c-indicator` -/
def isIndicator (char : Char) : Bool :=
  "-?:,[]\x7b\x7d#&*!|>'\"%@\x60".toList.contains char

/-- `ns-plain-first` -/
def isPlainFirst : Text → Bool
  | [] => false
  | first :: rest =>
      if first == '-' || first == '?' || first == ':' then
        rest.head?.any isInk
      else
        isInk first && !isIndicator first

/-- The characters of a plain scalar behind a given one. -/
def isPlainRest (previous : Char) : Text → Bool
  | [] => previous != ' ' && previous != ':'
  | char :: rest =>
      (isInk char || char == ' ') && !(previous == ':' && char == ' ') &&
        !(previous == ' ' && char == '#') && isPlainRest char rest

/-- `ns-plain-one-line`, with no other white space than the space. -/
def isPlain (text : Text) : Bool :=
  isPlainFirst text && text.head?.any (isPlainRest · text.tail)

/-- A flow sequence of words without quotes, comments or further nesting. -/
def isFlow (text : Text) : Bool :=
  text.head? == some '[' && 2 ≤ text.length && text.getLast? == some ']' &&
    text.tail.dropLast.all fun char =>
      (isInk char || char == ' ') &&
        !":[]\x7b\x7d#&*!|>'\"%@\x60".toList.contains char

/-- An implicit key that is no marker between documents. -/
def isKey (text : Text) : Bool :=
  isPlain text && text.length ≤ 1024 && !"---".toList.isPrefixOf text &&
    !"...".toList.isPrefixOf text

/-! ## One line -/

/-- What stands on the line of a key or of a dash. -/
inductive Value where
  | scalar (node : Node)
  | header
  /-- nothing: the value is the block below -/
  | block

/-- What one line holds behind its indentation. -/
inductive Content where
  | value (value : Value)
  | entry (key : Text) (value : Value)
  | item (content : Content)

/-- The value behind a key or alone on a line. -/
def readValue (text : Text) : Option Value :=
  if text = [] then some .block
  else if text = ['|'] then some .header
  else if isFlow text then some (.scalar (.flow text))
  else if isPlain text then some (.scalar (.plain text))
  else none

/-- Cut a line behind the colon of its key. -/
def splitEntry : Text → Option (Text × Text)
  | [] => none
  | char :: rest =>
      if char == ':' && rest.head?.all (· == ' ') then some ([], rest.tail)
      else (splitEntry rest).map fun (key, value) => (char :: key, value)

/-- A line is an item, an entry or a value alone. -/
def readContent : Text → Option Content
  | '-' :: ' ' :: rest => (readContent rest).map .item
  | text =>
      match splitEntry text with
      | some (key, rest) =>
          if isKey key then (readValue rest).map (.entry key) else none
      | none => (readValue text).map .value

/-! ## Blocks -/

/-- The blocks that the lines below begin with, innermost first. -/
abbrev Blocks := List (Nat × Node)

/-- Begin a block, or extend the one at the same indentation. -/
def push (indent : Nat) (fresh : Node) (extend : Node → Option Node) :
    Blocks → Option Blocks
  | [] => some [(indent, fresh)]
  | (depth, top) :: rest =>
      if depth < indent then some ((indent, fresh) :: (depth, top) :: rest)
      else if depth = indent then
        (extend top).map fun node => (indent, node) :: rest
      else none

/-- A key occurs once in a mapping. -/
def extendMapping (key : Text) (node : Node) : Node → Option Node
  | .mapping entries =>
      if (entries.map Prod.fst).contains key then none
      else some (.mapping ((key, node) :: entries))
  | _ => none

/-- An item is put in front of those below it. -/
def extendSequence (node : Node) : Node → Option Node
  | .sequence items => some (.sequence (node :: items))
  | _ => none

/-- A literal text whose lines all have the indentation of the first. -/
def readLiteral : List Line → Option Node
  | [] => none
  | first :: rest =>
      if rest.all (·.indent == first.indent) then
        some (.literal ((first :: rest).map Line.text))
      else none

/-- The value at an indentation, and the blocks that it leaves. -/
def takeValue (indent : Nat) (body : List Line) (blocks : Blocks) :
    Value → Option (Node × Blocks)
  | .scalar node =>
      if blocks.head?.all (·.1 ≤ indent) then some (node, blocks) else none
  | .header => (readLiteral body).map fun node => (node, blocks)
  | .block =>
      match blocks with
      | (depth, node) :: rest =>
          if indent < depth then some (node, rest) else none
      | [] => none

/-- A line is joined to the blocks below it. -/
def place (indent : Nat) (body : List Line) :
    Content → Blocks → Option Blocks
  | .value value, blocks => do
      let (node, rest) ← takeValue indent body blocks value
      push indent node (fun _ => none) rest
  | .entry key value, blocks => do
      let (node, rest) ← takeValue indent body blocks value
      push indent (.mapping [(key, node)]) (extendMapping key node) rest
  | .item content, blocks => do
      match ← place (indent + 2) body content blocks with
      | (_, node) :: rest =>
          push indent (.sequence [node]) (extendSequence node) rest
      | [] => none

/-- The lines of the literal text that a line opens. -/
def Content.body (indent : Nat) (rest : List Line) : Content → List Line
  | .item (.value .header) | .entry _ .header =>
      rest.takeWhile (indent < ·.indent)
  | .item content => content.body (indent + 2) rest
  | _ => []

/-- Read the lines behind those that a literal text takes. -/
def readBlocks : Nat → List Line → Option Blocks
  | _, [] => some []
  | skip + 1, _ :: rest => readBlocks skip rest
  | 0, line :: rest => do
      let content ← readContent line.text
      let body := content.body line.indent rest
      let blocks ← readBlocks body.length rest
      place line.indent body content blocks

/-! ## Paths -/

/-- One step of a path into a document. -/
inductive Step where
  | key (key : String)
  | index (index : Nat)

/-- The node one step down. -/
def Node.get? : Step → Node → Option Node
  | .key key, .mapping entries => entries.lookup key.toList
  | .index index, .sequence items => items[index]?
  | _, _ => none

/-- The node at the end of a path. -/
def Node.follow : List Step → Node → Option Node
  | [], node => some node
  | step :: steps, node => (node.get? step).bind (follow steps)

/-! ## Documents -/

/-- A line that is not blank; tabs do not indent. -/
def readLine (text : Text) : Option Line :=
  let rest := text.dropWhile (· == ' ')
  if rest.head?.any isInk then
    some ⟨(text.takeWhile (· == ' ')).length, rest⟩
  else none

/-- A document whose root is a mapping. -/
def readDocument (text : Text) : Option Node := do
  let parts ← (lines text).mapM readLine
  match ← readBlocks 0 parts with
  | [(0, .mapping entries)] => some (.mapping entries)
  | _ => none

end KubectlSshuttle.Lib.Yaml
