import KubectlSshuttle.Rushtle.SsnetStream

/-!
# The bootstrap of a stock client

A stock sshuttle client takes the remote command for a python interpreter: it
passes a script that reads a number of bytes, sends that many bytes of source,
and then one record for each module (its name and its length on a line each,
then its bytes) up to an empty line.  The server skips all of this before it
writes the synchronization header.
-/

namespace KubectlSshuttle.Rushtle.Bootstrap

open KubectlSshuttle.Lib.RustText
open KubectlSshuttle.Rushtle.Ssnet

/-! ## The command line -/

/-- `stdin.read(` -/
def readCall : Text := "stdin.read(".toList

/-- `parse_assembler_bytes` -/
def parseAssemblerBytes (pyscript : Text) : Nat :=
  match afterFirst readCall pyscript with
  | none => 0
  | some tail =>
      match splitOnce ')' tail with
      | none => 0
      | some (argument, _) =>
          match parseUnsigned (2 ^ 64) (trim argument) with
          | some count => count
          | none => 0

/-! ## Lines -/

/-- Up to the first line feed, with it. -/
def splitLine : Bytes → Bytes × Bytes
  | [] => ([], [])
  | byte :: rest =>
      if byte = 0x0a then ([byte], rest)
      else (byte :: (splitLine rest).1, (splitLine rest).2)

/-- What the reading of the bootstrap fails at. -/
inductive BootstrapError where
  | io (error : IoError)
  /-- the line that was read is not UTF-8 -/
  | notUtf8
  /-- `EOF on stdin during bootstrap` -/
  | eofOnStdin
  /-- `EOF after module name {name:?}` -/
  | eofAfterName (name : Text)
  /-- `bad nbytes for module {name:?}: {nbytes_line:?}` -/
  | badNbytes (name nbytesLine : Text)
deriving DecidableEq

/-- `read_line`: how many bytes were read, the line, and the rest. -/
def readLine (stream : Bytes) :
    Except BootstrapError (Nat × Text × Bytes) :=
  match fromUtf8 (splitLine stream).1 with
  | none => .error .notUtf8
  | some line =>
      .ok ((splitLine stream).1.length, line, (splitLine stream).2)

theorem length_splitLine (stream : Bytes) :
    (splitLine stream).1.length + (splitLine stream).2.length =
      stream.length := by
  induction stream with
  | nil => rfl
  | cons byte rest induction =>
      rw [splitLine]
      split
      · simp [Nat.add_comm]
      · simp only [List.length_cons]
        omega

theorem length_of_readLine {stream rest : Bytes} {n : Nat} {line : Text}
    (read : readLine stream = .ok (n, line, rest)) :
    n + rest.length = stream.length := by
  unfold readLine at read
  split at read
  · cases read
  · cases read
    exact length_splitLine stream

theorem length_of_readExact {stream part rest : Bytes} {count : Nat}
    (read : AsyncRead.readExact count stream = .ok (part, rest)) :
    rest.length ≤ stream.length := by
  have split := (readExact_ok read).2
  simp [split]

/-! ## The bootstrap-eater -/

/-- The characters that `trim_end_matches` takes away. -/
def isLineEnd (char : Char) : Bool :=
  char = '\r' || char = '\n'

/-- How one turn of the loop ends. -/
inductive Turn where
  | finished (rest : Bytes)
  | discarded (rest : Bytes)
deriving DecidableEq

/-- One turn of the loop of `consume_sshuttle_bootstrap`. -/
def consumeRecord (stream : Bytes) : Except BootstrapError Turn :=
  match readLine stream with
  | .error error => .error error
  | .ok (n, nameLine, stream) =>
      if n = 0 then .error .eofOnStdin
      else
        let name := trimEndMatches isLineEnd nameLine
        if name = [] then .ok (.finished stream)
        else
          match readLine stream with
          | .error error => .error error
          | .ok (n, nbytesLine, stream) =>
              if n = 0 then .error (.eofAfterName name)
              else
                match parseUnsigned (2 ^ 64) (trim nbytesLine) with
                | none => .error (.badNbytes name nbytesLine)
                | some nbytes =>
                    match AsyncRead.readExact nbytes stream with
                    | .error error => .error (.io error)
                    | .ok (_, stream) => .ok (.discarded stream)

/-- A record takes at least its name line. -/
theorem length_of_discarded {stream rest : Bytes}
    (turn : consumeRecord stream = .ok (.discarded rest)) :
    rest.length < stream.length := by
  unfold consumeRecord at turn
  split at turn
  · cases turn
  · next n nameLine afterName nameRead =>
      have name := length_of_readLine nameRead
      split at turn
      · cases turn
      · dsimp only at turn
        split at turn
        · cases turn
        · split at turn
          · cases turn
          · next m nbytesLine afterNbytes nbytesRead =>
              have nbytes := length_of_readLine nbytesRead
              split at turn
              · cases turn
              · split at turn
                · cases turn
                · split at turn
                  · cases turn
                  · next moduleRead =>
                      have left := length_of_readExact moduleRead
                      cases turn
                      omega

/-- `consume_sshuttle_bootstrap`: what is left of the stream behind it. -/
def consumeSshuttleBootstrap (stream : Bytes) :
    Except BootstrapError Bytes :=
  match _turn : consumeRecord stream with
  | .error error => .error error
  | .ok (.finished rest) => .ok rest
  | .ok (.discarded rest) => consumeSshuttleBootstrap rest
termination_by stream.length
decreasing_by exact length_of_discarded _turn

/-- What the opening of the server fails at. -/
inductive RunError where
  /-- `reading {assembler_bytes} bytes of assembler.py source` -/
  | readingAssembler (assemblerBytes : Nat) (error : IoError)
  /-- `consuming sshuttle bootstrap` -/
  | consumingBootstrap (error : BootstrapError)
deriving DecidableEq

/-- What `run` skips before its synchronization header. -/
def skipBootstrap (compatBootstrap : Bool) (assemblerBytes : Nat)
    (stdin : Bytes) : Except RunError Bytes :=
  if compatBootstrap then
    match
      if assemblerBytes > 0 then AsyncRead.readExact assemblerBytes stdin
      else .ok ([], stdin) with
    | .error error => .error (.readingAssembler assemblerBytes error)
    | .ok (_, rest) =>
        match consumeSshuttleBootstrap rest with
        | .error error => .error (.consumingBootstrap error)
        | .ok rest => .ok rest
  else .ok stdin

/--
`run` up to its frame loop, on an output that never fails: what was written,
and what is left of the input or why there is no frame loop.
-/
def runOpening (compatBootstrap : Bool) (assemblerBytes : Nat)
    (stdin : Bytes) : Bytes × Except RunError Bytes :=
  match skipBootstrap compatBootstrap assemblerBytes stdin with
  | .error error => ([], .error error)
  | .ok rest => (syncHeader, .ok rest)

/-! ## What a stock client sends -/

/-- A module, under a name that the protocol can carry. -/
structure BootstrapModule where
  name : Text
  payload : Bytes
  oneLine : '\n' ∉ name
  named : trimEndMatches isLineEnd name ≠ []
  size : payload.length < 2 ^ 64

/-- The line with the name. -/
def BootstrapModule.nameLine (sent : BootstrapModule) : Bytes :=
  utf8 sent.name ++ [0x0a]

/-- The line with the length of the payload. -/
def BootstrapModule.nbytesLine (sent : BootstrapModule) : Bytes :=
  utf8 (decimal sent.payload.length) ++ [0x0a]

/-- All that is sent for one module. -/
def BootstrapModule.record (sent : BootstrapModule) : Bytes :=
  sent.nameLine ++ sent.nbytesLine ++ sent.payload

/-- The records, and the empty name that ends them. -/
def records (modules : List BootstrapModule) : Bytes :=
  modules.flatMap BootstrapModule.record ++ [0x0a]

/-! ## Reading one line -/

theorem splitLine_append {line : Bytes} (oneLine : 0x0a ∉ line)
    (rest : Bytes) : splitLine (line ++ 0x0a :: rest) =
      (line ++ [0x0a], rest) := by
  induction line with
  | nil => simp [splitLine]
  | cons byte others induction =>
      rw [List.mem_cons, not_or] at oneLine
      have other : byte ≠ 0x0a := fun equal => oneLine.1 equal.symm
      simp [splitLine, other, induction oneLine.2]

theorem splitLine_eof {line : Bytes} (oneLine : 0x0a ∉ line) :
    splitLine line = (line, []) := by
  induction line with
  | nil => rfl
  | cons byte others induction =>
      rw [List.mem_cons, not_or] at oneLine
      have other : byte ≠ 0x0a := fun equal => oneLine.1 equal.symm
      simp [splitLine, other, induction oneLine.2]

theorem lineFeed_notMem_utf8 {text : Text} (oneLine : '\n' ∉ text) :
    0x0a ∉ utf8 text :=
  notMem_utf8 '\n' (by decide) (by decide) oneLine

theorem utf8_lineFeed : utf8 ['\n'] = [0x0a] := by decide

/-- A whole line is read with its line feed. -/
theorem readLine_line {text : Text} (oneLine : '\n' ∉ text) (rest : Bytes) :
    readLine (utf8 text ++ 0x0a :: rest) =
      .ok ((utf8 text).length + 1, text ++ ['\n'], rest) := by
  have line : utf8 text ++ [0x0a] = utf8 (text ++ ['\n']) := by
    rw [utf8_append, utf8_lineFeed]
  rw [readLine, splitLine_append (lineFeed_notMem_utf8 oneLine), line,
    fromUtf8_utf8, ← line]
  simp

/-- The end of the stream cuts a line short. -/
theorem readLine_eof {line : Bytes} (oneLine : 0x0a ∉ line) :
    readLine line =
      match fromUtf8 line with
      | none => .error .notUtf8
      | some text => .ok (line.length, text, []) := by
  rw [readLine, splitLine_eof oneLine]

theorem lineFeed_notMem_decimal (number : Nat) : '\n' ∉ decimal number := by
  intro member
  have digit := isDigit_of_mem_decimal member
  simp [Char.isDigit] at digit

/-! ## Whole records -/

theorem consume_discarded {stream rest : Bytes}
    (turn : consumeRecord stream = .ok (.discarded rest)) :
    consumeSshuttleBootstrap stream = consumeSshuttleBootstrap rest := by
  rw [consumeSshuttleBootstrap]
  split <;> simp_all

theorem consume_finished {stream rest : Bytes}
    (turn : consumeRecord stream = .ok (.finished rest)) :
    consumeSshuttleBootstrap stream = .ok rest := by
  rw [consumeSshuttleBootstrap]
  split <;> simp_all

theorem consume_error {stream : Bytes} {error : BootstrapError}
    (turn : consumeRecord stream = .error error) :
    consumeSshuttleBootstrap stream = .error error := by
  rw [consumeSshuttleBootstrap]
  split <;> simp_all

/-- The line feed of a name line is stripped with the line ends before it. -/
theorem trimEndMatches_lineFeed (name : Text) :
    trimEndMatches isLineEnd (name ++ ['\n']) =
      trimEndMatches isLineEnd name := by
  rw [trimEndMatches, trimEndMatches,
    List.rdropWhile_concat_pos _ _ _ (by decide)]

/-- A number and its line feed are trimmed to the number. -/
theorem trim_decimal_lineFeed (number : Nat) :
    trim (decimal number ++ ['\n']) = decimal number := by
  rcases decimal_eq_cons number with ⟨first, rest, starts, firstDigit⟩
  rcases decimal_eq_concat number with ⟨initial, last, ends, lastDigit⟩
  exact trim_concat starts ends (isWhitespace_of_isDigit firstDigit)
    (isWhitespace_of_isDigit lastDigit) (by decide)

theorem consumeRecord_end (rest : Bytes) :
    consumeRecord (0x0a :: rest) = .ok (.finished rest) := by
  have line : readLine (utf8 [] ++ 0x0a :: rest) =
      .ok ((utf8 []).length + 1, [] ++ ['\n'], rest) :=
    readLine_line (by simp) rest
  rw [utf8_nil, List.nil_append] at line
  have empty : trimEndMatches isLineEnd ([] ++ ['\n']) = [] := by decide
  rw [consumeRecord, line]
  dsimp only
  rw [if_neg (by simp), if_pos empty]

theorem consumeRecord_record (sent : BootstrapModule) (rest : Bytes) :
    consumeRecord (sent.record ++ rest) = .ok (.discarded rest) := by
  have stream : sent.record ++ rest =
      utf8 sent.name ++ 0x0a :: (utf8 (decimal sent.payload.length) ++
        0x0a :: (sent.payload ++ rest)) := by
    simp [BootstrapModule.record, BootstrapModule.nameLine,
      BootstrapModule.nbytesLine]
  rw [stream, consumeRecord, readLine_line sent.oneLine]
  dsimp only
  rw [if_neg (by omega), trimEndMatches_lineFeed, if_neg sent.named,
    readLine_line (lineFeed_notMem_decimal _)]
  dsimp only
  rw [if_neg (by omega), trim_decimal_lineFeed,
    parseUnsigned_decimal sent.size]
  dsimp only
  rw [readExact_append rfl]

theorem consume_flatMap (modules : List BootstrapModule) (stream : Bytes) :
    consumeSshuttleBootstrap
        (modules.flatMap BootstrapModule.record ++ stream) =
      consumeSshuttleBootstrap stream := by
  induction modules with
  | nil => rfl
  | cons first others induction =>
      rw [List.flatMap_cons, List.append_assoc,
        consume_discarded (consumeRecord_record first _), induction]

/-- The bootstrap of a stock client is skipped, and nothing behind it. -/
theorem consume_records (modules : List BootstrapModule) (rest : Bytes) :
    consumeSshuttleBootstrap (records modules ++ rest) = .ok rest := by
  rw [records, List.append_assoc, consume_flatMap]
  exact consume_finished (consumeRecord_end rest)

/-! ## Streams that end too early -/

theorem isPrefix_append_cases {part left right : Bytes}
    (shorter : part <+: left ++ right) :
    (part <+: left ∧ part ≠ left) ∨
      ∃ more, part = left ++ more ∧ more <+: right := by
  rcases List.prefix_or_prefix_of_prefix shorter
      (List.prefix_append left right) with inside | ⟨more, rfl⟩
  · by_cases same : part = left
    · exact .inr ⟨[], by simp [same], List.nil_prefix⟩
    · exact .inl ⟨inside, same⟩
  · exact .inr ⟨more, rfl, (List.prefix_append_right_inj left).mp shorter⟩

/-- The stream ends without the empty name. -/
def Rejected (stream : Bytes) : Prop :=
  ∃ error, consumeSshuttleBootstrap stream = .error error

theorem Rejected.of_turn {stream : Bytes} (error : BootstrapError)
    (turn : consumeRecord stream = .error error) : Rejected stream :=
  ⟨error, consume_error turn⟩

theorem rejected_nil : Rejected [] :=
  .of_turn .eofOnStdin (by decide)

theorem Rejected.of_discarded {stream rest : Bytes}
    (turn : consumeRecord stream = .ok (.discarded rest))
    (rejected : Rejected rest) : Rejected stream := by
  rcases rejected with ⟨error, failed⟩
  exact ⟨error, (consume_discarded turn).trans failed⟩

/-- Part of a name line is not the empty name. -/
theorem trimEndMatches_part {name text : Text} (oneLine : '\n' ∉ name)
    (noReturn : name.head? ≠ some '\r') (nonempty : text ≠ [])
    (shorter : utf8 text <+: utf8 name) :
    trimEndMatches isLineEnd text ≠ [] := by
  intro blank
  rw [trimEndMatches, List.rdropWhile_eq_nil_iff] at blank
  rcases List.exists_cons_of_ne_nil nonempty with ⟨first, rest, rfl⟩
  have lineEnd := blank first List.mem_cons_self
  simp only [isLineEnd, Bool.or_eq_true, decide_eq_true_eq] at lineEnd
  rcases lineEnd with rfl | rfl
  · exact noReturn (head?_of_utf8_isPrefix (by decide) shorter)
  · have front := head?_of_utf8_isPrefix (by decide) shorter
    exact oneLine (List.mem_of_mem_head? front)

/-- The stream ends within a name. -/
theorem rejected_name {name : Text} {part : Bytes} (oneLine : '\n' ∉ name)
    (noReturn : name.head? ≠ some '\r') (shorter : part <+: utf8 name) :
    Rejected part := by
  have line : 0x0a ∉ part := fun member =>
    lineFeed_notMem_utf8 oneLine (shorter.subset member)
  have read := readLine_eof line
  cases decoded : fromUtf8 part with
  | none =>
      rw [decoded] at read
      exact .of_turn .notUtf8 (by rw [consumeRecord, read])
  | some text =>
      rw [decoded] at read
      have stored := utf8_of_fromUtf8 decoded
      by_cases empty : part = []
      · exact empty ▸ rejected_nil
      · have named : trimEndMatches isLineEnd text ≠ [] := by
          apply trimEndMatches_part oneLine noReturn
          · rintro rfl
            exact empty stored.symm
          · rwa [stored]
        have positive : part.length ≠ 0 := by simpa using empty
        refine .of_turn (.eofAfterName (trimEndMatches isLineEnd text)) ?_
        rw [consumeRecord, read]
        dsimp only
        rw [if_neg positive, if_neg named]
        have eof : readLine [] = .ok (0, [], []) := by decide
        rw [eof]
        rfl

section Record

variable (sent : BootstrapModule)

/-- The turn for a record, behind its name line. -/
theorem consumeRecord_named (stream : Bytes) :
    consumeRecord (utf8 sent.name ++ 0x0a :: stream) =
      match readLine stream with
      | .error error => .error error
      | .ok (n, nbytesLine, stream) =>
          if n = 0 then
            .error (.eofAfterName (trimEndMatches isLineEnd sent.name))
          else
            match parseUnsigned (2 ^ 64) (trim nbytesLine) with
            | none =>
                .error (.badNbytes (trimEndMatches isLineEnd sent.name)
                  nbytesLine)
            | some nbytes =>
                match AsyncRead.readExact nbytes stream with
                | .error error => .error (.io error)
                | .ok (_, stream) => .ok (.discarded stream) := by
  rw [consumeRecord, readLine_line sent.oneLine]
  dsimp only
  rw [if_neg (by omega), trimEndMatches_lineFeed, if_neg sent.named]

/-- The stream ends within the line of the length. -/
theorem rejected_nbytes {part : Bytes} (oneLine : 0x0a ∉ part) :
    Rejected (utf8 sent.name ++ 0x0a :: part) := by
  have turn := consumeRecord_named sent part
  rw [readLine_eof oneLine] at turn
  cases decoded : fromUtf8 part with
  | none =>
      rw [decoded] at turn
      exact .of_turn _ turn
  | some text =>
      rw [decoded] at turn
      dsimp only at turn
      split at turn
      · exact .of_turn _ turn
      · split at turn
        · exact .of_turn _ turn
        · split at turn
          · exact .of_turn _ turn
          · next read =>
              have none := (readExact_ok read).2
              rcases List.append_eq_nil_iff.mp none.symm with ⟨_, rfl⟩
              exact .of_discarded turn rejected_nil

/-- The stream ends within the bytes of the module. -/
theorem rejected_payload {part : Bytes}
    (short : part.length < sent.payload.length) :
    Rejected (utf8 sent.name ++
      0x0a :: (utf8 (decimal sent.payload.length) ++ 0x0a :: part)) := by
  refine .of_turn (.io .unexpectedEof) ?_
  rw [consumeRecord_named, readLine_line (lineFeed_notMem_decimal _)]
  dsimp only
  rw [if_neg (by omega), trim_decimal_lineFeed,
    parseUnsigned_decimal sent.size]
  dsimp only
  rw [readExact_short short]

/-- The stream ends within a record. -/
theorem rejected_record {part : Bytes}
    (noReturn : sent.name.head? ≠ some '\r')
    (shorter : part <+: sent.record) (strict : part ≠ sent.record) :
    Rejected part := by
  have whole : sent.record = utf8 sent.name ++ ([0x0a] ++
      (utf8 (decimal sent.payload.length) ++ ([0x0a] ++ sent.payload))) := by
    simp [BootstrapModule.record, BootstrapModule.nameLine,
      BootstrapModule.nbytesLine]
  rw [whole] at shorter strict
  rcases isPrefix_append_cases shorter with
    ⟨inName, _⟩ | ⟨afterName, rfl, behindName⟩
  · exact rejected_name sent.oneLine noReturn inName
  rcases isPrefix_append_cases behindName with
    ⟨inFeed, apart⟩ | ⟨afterFeed, rfl, behindFeed⟩
  · have empty : afterName = [] := by
      rcases List.prefix_cons_iff.mp inFeed with rfl | ⟨more, rfl, tail⟩
      · rfl
      · rw [List.prefix_nil.mp tail] at apart
        exact (apart rfl).elim
    rw [empty, List.append_nil]
    exact rejected_name sent.oneLine noReturn (List.prefix_refl _)
  rcases isPrefix_append_cases behindFeed with
    ⟨inNumber, _⟩ | ⟨afterNumber, rfl, behindNumber⟩
  · apply rejected_nbytes
    exact fun member => lineFeed_notMem_utf8
      (lineFeed_notMem_decimal _) (inNumber.subset member)
  rcases isPrefix_append_cases behindNumber with
    ⟨inFeed, apart⟩ | ⟨part, rfl, inPayload⟩
  · have empty : afterNumber = [] := by
      rcases List.prefix_cons_iff.mp inFeed with rfl | ⟨more, rfl, tail⟩
      · rfl
      · rw [List.prefix_nil.mp tail] at apart
        exact (apart rfl).elim
    rw [empty, List.append_nil]
    exact rejected_nbytes sent
      (lineFeed_notMem_utf8 (lineFeed_notMem_decimal _))
  · apply rejected_payload
    apply Nat.lt_of_le_of_ne inPayload.length_le
    intro size
    rw [inPayload.eq_of_length size] at strict
    exact strict rfl

end Record

theorem rejected_records {modules : List BootstrapModule}
    (noReturn : ∀ sent ∈ modules, sent.name.head? ≠ some '\r')
    {part : Bytes} (shorter : part <+: records modules)
    (strict : part ≠ records modules) : Rejected part := by
  induction modules generalizing part with
  | nil =>
      have empty : part = [] := by
        rcases List.prefix_cons_iff.mp shorter with rfl | ⟨more, rfl, tail⟩
        · rfl
        · rw [List.prefix_nil.mp tail] at strict
          exact (strict rfl).elim
      exact empty ▸ rejected_nil
  | cons first others induction =>
      have whole : records (first :: others) =
          first.record ++ records others := by
        simp [records]
      rw [whole] at shorter strict
      rcases isPrefix_append_cases shorter with
        ⟨inFirst, apart⟩ | ⟨part, rfl, behind⟩
      · exact rejected_record first (noReturn first List.mem_cons_self)
          inFirst apart
      · apply Rejected.of_discarded (consumeRecord_record first part)
        apply induction _ behind
        · rintro rfl
          exact strict rfl
        · exact fun sent member =>
            noReturn sent (List.mem_cons_of_mem _ member)

/-! ## A name that starts with a carriage return -/

/-- A lone carriage return at the end of the stream passes for the end. -/
theorem consume_carriageReturn :
    consumeSshuttleBootstrap [0x0d] = .ok [] :=
  consume_finished (by decide)

theorem record_eq_cons {sent : BootstrapModule}
    (carriageReturn : sent.name.head? = some '\r') :
    ∃ more, more ≠ [] ∧ sent.record = 0x0d :: more := by
  cases shape : sent.name with
  | nil => simp [shape] at carriageReturn
  | cons first rest =>
      obtain rfl : first = '\r' := by simpa [shape] using carriageReturn
      have byte : String.utf8EncodeChar '\r' = [0x0d] := by decide
      exact ⟨utf8 rest ++ 0x0a :: (sent.nbytesLine ++ sent.payload),
        by simp, by simp [BootstrapModule.record,
          BootstrapModule.nameLine, shape, byte]⟩

/-! ## The opening of a server for a stock client -/

/--
The server skips what was sent and nothing behind it, and gives up without a
byte of output when only a part of it arrives.
-/
structure SkipsExactly (assemblerBytes : Nat) (sent : Bytes) : Prop where
  skips : ∀ rest, runOpening true assemblerBytes (sent ++ rest) =
    (syncHeader, .ok rest)
  rejects : ∀ part, part <+: sent → part ≠ sent →
    ∃ error, runOpening true assemblerBytes part = ([], .error error)

theorem parseAssemblerBytes_decimal {count : Nat} (small : count < 2 ^ 64)
    {pyscript front tail : Text}
    (script : pyscript = front ++ readCall ++ (decimal count ++ ')' :: tail))
    (first : ∀ earlier later, pyscript = earlier ++ readCall ++ later →
      front.length ≤ earlier.length) :
    parseAssemblerBytes pyscript = count := by
  subst script
  have noBracket : ')' ∉ decimal count := by
    intro member
    have digit := isDigit_of_mem_decimal member
    simp [Char.isDigit] at digit
  rw [parseAssemblerBytes, afterFirst_append first]
  dsimp only
  rw [splitOnce_append noBracket]
  dsimp only
  rw [trim_decimal, parseUnsigned_decimal small]

/-- Behind the source, the opening is the bootstrap-eater. -/
theorem skipBootstrap_append (source stream : Bytes) :
    skipBootstrap true source.length (source ++ stream) =
      match consumeSshuttleBootstrap stream with
      | .error error => .error (.consumingBootstrap error)
      | .ok rest => .ok rest := by
  rw [skipBootstrap, if_pos rfl]
  cases source with
  | nil => rfl
  | cons byte others =>
      rw [if_pos (by simp), readExact_append rfl]

theorem runOpening_rejected {source stream : Bytes}
    (rejected : Rejected stream) :
    ∃ error, runOpening true source.length (source ++ stream) =
      ([], .error error) := by
  rcases rejected with ⟨error, failed⟩
  exact ⟨.consumingBootstrap error,
    by rw [runOpening, skipBootstrap_append, failed]⟩

/--
For a script that announces the length of the source, the server skips the
source and the records exactly if no module name starts with a carriage
return.
-/
theorem skipsExactly_iff {count : Nat} (small : count < 2 ^ 64)
    {pyscript front tail : Text}
    (script : pyscript = front ++ readCall ++ (decimal count ++ ')' :: tail))
    (first : ∀ earlier later, pyscript = earlier ++ readCall ++ later →
      front.length ≤ earlier.length)
    {source : Bytes} (size : source.length = count)
    (modules : List BootstrapModule) :
    SkipsExactly (parseAssemblerBytes pyscript)
        (source ++ records modules) ↔
      ∀ sent ∈ modules, sent.name.head? ≠ some '\r' := by
  rw [parseAssemblerBytes_decimal small script first, ← size]
  constructor
  · intro skips sent member carriageReturn
    rcases List.append_of_mem member with ⟨before, after, rfl⟩
    rcases record_eq_cons carriageReturn with ⟨more, nonempty, record⟩
    have whole : source ++ records (before ++ sent :: after) =
        (source ++ (before.flatMap BootstrapModule.record ++ [0x0d])) ++
          (more ++ records after) := by
      simp [records, record]
    have strict : source ++ (before.flatMap BootstrapModule.record ++ [0x0d]) ≠
        source ++ records (before ++ sent :: after) := by
      rw [whole]
      intro same
      have rest := List.self_eq_append_right.mp same
      exact nonempty (List.append_eq_nil_iff.mp rest).1
    rcases skips.rejects _ ⟨_, whole.symm⟩ strict with ⟨error, failed⟩
    rw [runOpening, skipBootstrap_append, consume_flatMap,
      consume_carriageReturn] at failed
    cases failed
  · intro noReturn
    constructor
    · intro rest
      rw [runOpening, List.append_assoc, skipBootstrap_append,
        consume_records]
    · intro part shorter strict
      rcases isPrefix_append_cases shorter with
        ⟨inSource, apart⟩ | ⟨part, rfl, behind⟩
      · have short : part.length < source.length := by
          apply Nat.lt_of_le_of_ne inSource.length_le
          exact fun same => apart (inSource.eq_of_length same)
        refine ⟨.readingAssembler source.length .unexpectedEof, ?_⟩
        rw [runOpening, skipBootstrap, if_pos rfl, if_pos (by omega),
          readExact_short short]
      · apply runOpening_rejected
        apply rejected_records noReturn behind
        rintro rfl
        exact strict rfl

/-- One module of two bytes, with a line feed in its bytes. -/
def someModule : BootstrapModule where
  name := "cmdline".toList
  payload := [0x0a, 0x0a]
  oneLine := by decide
  named := by decide
  size := by decide

theorem skipsExactly_someModule :
    SkipsExactly (parseAssemblerBytes "stdin.read(1)".toList)
      ([0x23] ++ records [someModule]) := by
  have script : "stdin.read(1)".toList =
      [] ++ readCall ++ (decimal 1 ++ ')' :: []) := by decide
  apply (skipsExactly_iff (by decide) script (fun _ _ _ => Nat.zero_le _) rfl
    [someModule]).mpr
  intro sent member
  rw [List.mem_singleton.mp member]
  decide

/-- A module whose name starts with a carriage return. -/
def returnModule : BootstrapModule where
  name := '\r' :: "cmdline".toList
  payload := [0x0a, 0x0a]
  oneLine := by decide
  named := by decide
  size := by decide

/-- Cut behind the carriage return, its record passes for the empty name. -/
theorem cut_returnModule_accepted :
    parseAssemblerBytes "stdin.read(1)".toList = 1 ∧
      [0x23, 0x0d] <+: [0x23] ++ records [returnModule] ∧
      [0x23, 0x0d] ≠ [0x23] ++ records [returnModule] ∧
      runOpening true 1 [0x23, 0x0d] = (syncHeader, .ok []) := by
  refine ⟨by decide, by decide, by decide, ?_⟩
  have opening := skipBootstrap_append [0x23] [0x0d]
  rw [consume_carriageReturn] at opening
  have skipped : skipBootstrap true 1 [0x23, 0x0d] = .ok [] := opening
  rw [runOpening, skipped]

end KubectlSshuttle.Rushtle.Bootstrap
