import KubectlSshuttle.Lib.Words
import KubectlSshuttle.Rushtle.Server

/-!
# The hosts file as the client gets it

The server reads `/etc/hosts` into pairs of a name and an address and sends
them as one `HOST_LIST`, which the client cuts at line breaks and first
commas.  In the file itself a comment starts at any `#`; the server's reader
only stops at words that start with one.
-/

namespace KubectlSshuttle.Rushtle

open KubectlSshuttle.Lib.RustText
open KubectlSshuttle.Rushtle.Ssnet

/-! ## What the file defines -/

/-- A character that a comment does not start with. -/
def notHash (char : Char) : Bool :=
  char != '#'

/-- The pairs of the address in front and the names behind it. -/
def namePairs : List Text → List (Text × Text)
  | [] => []
  | address :: names => names.map fun name => (name, address)

/-- The pairs that a line defines, once its comment is cut off. -/
def definedPairs (line : Text) : List (Text × Text) :=
  namePairs (splitWhitespace (line.takeWhile notHash))

/-- The pairs that the file defines. -/
def definedHosts (content : Text) : List (Text × Text) :=
  (lines content).flatMap definedPairs

/-! ## What the client decodes -/

/-- Cut a line at its first comma. -/
def decodeHost (line : Bytes) : Option (Bytes × Bytes) :=
  match line.dropWhile (· != 0x2c) with
  | _ :: address => some (line.takeWhile (· != 0x2c), address)
  | [] => none

/-- The client's reading of a `HOST_LIST`. -/
def decodeHostList (payload : Bytes) : List (Bytes × Bytes) :=
  (payload.splitOn 0x0a).filterMap decodeHost

/-- A pair in the bytes of the payload. -/
def pairBytes (pair : Text × Text) : Bytes × Bytes :=
  (utf8 pair.1, utf8 pair.2)

/-! ## Decoding what was encoded -/

/-- The line of the payload that holds a pair. -/
def hostLine (pair : Text × Text) : Bytes :=
  utf8 pair.1 ++ 0x2c :: utf8 pair.2

theorem appendHosts_eq (out : Bytes) (pair : Text × Text)
    (rest : List (Text × Text)) :
    appendHosts out true (pair :: rest) =
      out ++ [0x0a].intercalate ((pair :: rest).map hostLine) := by
  have later (out : Bytes) (pair : Text × Text) :
      appendHosts out false rest =
        out ++ (rest.map hostLine).flatMap (0x0a :: ·) := by
    induction rest generalizing out with
    | nil => simp [appendHosts]
    | cons next others induction =>
        simp [appendHosts, induction, hostLine]
  have joined (first : Bytes) (others : List Bytes) :
      [0x0a].intercalate (first :: others) =
        first ++ others.flatMap (0x0a :: ·) := by
    induction others generalizing first with
    | nil => simp
    | cons next others induction =>
        rw [List.intercalate_cons_cons, induction]
        simp
  rw [appendHosts, if_pos rfl, later _ pair, List.map_cons, joined]
  simp [hostLine]

theorem encodeHostList_eq (entries : List (Text × Text)) :
    encodeHostList entries = [0x0a].intercalate (entries.map hostLine) := by
  cases entries with
  | nil => rfl
  | cons pair rest =>
      rw [encodeHostList, appendHosts_eq, List.nil_append]

/-- A pair of which neither part has a line break. -/
def OneLine (pair : Text × Text) : Prop :=
  '\n' ∉ pair.1 ∧ '\n' ∉ pair.2

theorem OneLine.notMem_hostLine {pair : Text × Text} (oneLine : OneLine pair) :
    0x0a ∉ hostLine pair := by
  have absent {text : Text} (none : '\n' ∉ text) : 0x0a ∉ utf8 text :=
    notMem_utf8 '\n' (by decide) (by decide) none
  rw [hostLine, List.mem_append, List.mem_cons]
  rintro (name | comma | address)
  · exact absent oneLine.1 name
  · cases comma
  · exact absent oneLine.2 address

/-- The lines of the payload are those of the pairs. -/
theorem decodeHostList_encodeHostList {entries : List (Text × Text)}
    (oneLine : ∀ pair ∈ entries, OneLine pair) :
    decodeHostList (encodeHostList entries) =
      (entries.map hostLine).filterMap decodeHost := by
  rw [decodeHostList, encodeHostList_eq]
  cases entries with
  | nil => rfl
  | cons pair rest =>
      rw [List.splitOn_intercalate]
      · intro line member
        rcases List.mem_map.mp member with ⟨other, found, rfl⟩
        exact (oneLine other found).notMem_hostLine
      · simp

/-- A name without a comma is decoded as it was. -/
theorem decodeHost_hostLine {pair : Text × Text} (noComma : ',' ∉ pair.1) :
    decodeHost (hostLine pair) = some (pairBytes pair) := by
  have passed : ∀ byte ∈ utf8 pair.1, (byte != 0x2c) = true := by
    intro byte member
    have absent : 0x2c ∉ utf8 pair.1 :=
      notMem_utf8 ',' (by decide) (by decide) noComma
    simpa using fun same : byte = 0x2c => absent (same ▸ member)
  rw [decodeHost, hostLine, List.dropWhile_append_of_pos passed,
    List.takeWhile_append_of_pos passed]
  simp [pairBytes]

/-- A line that holds a pair is decoded to a pair, without loss. -/
theorem decodeHost_split (pair : Text × Text) :
    ∃ name address, decodeHost (hostLine pair) = some (name, address) ∧
      hostLine pair = name ++ 0x2c :: address := by
  have split : (hostLine pair).takeWhile (· != 0x2c) ++
      (hostLine pair).dropWhile (· != 0x2c) = hostLine pair :=
    List.takeWhile_append_dropWhile
  cases shape : (hostLine pair).dropWhile (· != 0x2c) with
  | nil =>
      have all := List.dropWhile_eq_nil_iff.mp shape 0x2c (by simp [hostLine])
      cases all
  | cons byte rest =>
      have comma : byte = 0x2c := by
        have head := List.head_dropWhile_not (· != 0x2c)
          (l := hostLine pair) (by simp [shape])
        simpa [shape] using head
      subst comma
      refine ⟨(hostLine pair).takeWhile (· != 0x2c), rest, ?_, ?_⟩
      · rw [decodeHost, shape]
      · rw [shape] at split
        exact split.symm

/-! ## The words of a line -/

/-- A word at which the server stops. -/
def startsComment (word : Text) : Bool :=
  word.head? == some '#'

/-- The words of a line in front of the first that starts a comment. -/
def usedWords (words : List Text) : List Text :=
  words.takeWhile (!startsComment ·)

/--
No comment starts inside a word that the server uses, unless there is no name
among them.
-/
def CommentsApart (line : Text) : Prop :=
  (usedWords (splitWhitespace line)).length ≤ 1 ∨
    ∀ word ∈ usedWords (splitWhitespace line), '#' ∉ word

theorem hostEntries_eq (line : Text) :
    hostEntries line = namePairs (usedWords (splitWhitespace line)) := by
  rw [hostEntries, splitWhitespace_trim]
  cases shape : splitWhitespace line with
  | nil =>
      rw [if_pos (.inl (trim_of_splitWhitespace_nil shape))]
      rfl
  | cons first words =>
      rcases trim_of_splitWhitespace_cons shape with
        ⟨rest, trimmed, isWord, _⟩
      rcases List.exists_cons_of_ne_nil isWord.nonempty with
        ⟨char, others, rfl⟩
      rw [trimmed, usedWords]
      by_cases hash : char = '#'
      · subst hash
        have comment : startsComment ('#' :: others) = true := rfl
        rw [if_pos (.inr rfl),
          List.takeWhile_cons_of_neg (by simp [comment])]
        rfl
      · have inked : startsComment (char :: others) = false := by
          simp [startsComment, hash]
        rw [if_neg (by simp [hash]),
          List.takeWhile_cons_of_pos (by simp [inked])]
        rfl

theorem definedPairs_eq (line : Text) :
    definedPairs line =
      namePairs (cutWords notHash (splitWhitespace line)) := by
  rw [definedPairs, splitWhitespace_takeWhile]
  intro char blank
  rw [notHash, bne_iff_ne]
  rintro rfl
  cases blank

theorem all_notHash {word : Text} :
    word.all notHash = true ↔ '#' ∉ word := by
  rw [List.all_eq_true]
  constructor
  · intro all member
    cases all '#' member
  · intro absent char member
    rw [notHash, bne_iff_ne]
    rintro rfl
    exact absent member

/-- No `#` is left in the words of a line without its comment. -/
theorem hash_notMem_cutWords {words : List Text} {word : Text}
    (member : word ∈ cutWords notHash words) : '#' ∉ word := by
  induction words with
  | nil => cases member
  | cons first rest induction =>
      rw [cutWords] at member
      split at member
      · next whole =>
          rcases List.mem_cons.mp member with rfl | member
          · exact all_notHash.mp whole
          · exact induction member
      · split at member
        · cases member
        · rw [List.mem_singleton.mp member]
          intro hash
          have kept := List.mem_takeWhile_imp hash
          cases kept

/-- Words without a `#` end where a word starts a comment. -/
theorem cutWords_of_clean {words : List Text}
    (clean : ∀ word ∈ usedWords words, '#' ∉ word) :
    cutWords notHash words = usedWords words := by
  induction words with
  | nil => rfl
  | cons word rest induction =>
      by_cases comment : startsComment word = true
      · have starts : word.head? = some '#' := by
          simpa [startsComment] using comment
        rcases List.head?_eq_some_iff.mp starts with ⟨others, rfl⟩
        simp [cutWords, usedWords, startsComment, notHash]
      · have used : usedWords (word :: rest) = word :: usedWords rest := by
          simp [usedWords, comment]
        rw [used] at clean ⊢
        have here := clean word List.mem_cons_self
        rw [cutWords, if_pos (all_notHash.mpr here), induction]
        exact fun other member => clean other (List.mem_cons_of_mem _ member)

/-- An address alone defines nothing, whatever it is followed by. -/
theorem namePairs_cutWords_of_short {words : List Text}
    (short : (usedWords words).length ≤ 1) :
    namePairs (cutWords notHash words) = [] := by
  cases words with
  | nil => rfl
  | cons address names =>
      rw [cutWords]
      split
      · next whole =>
          have comment : startsComment address = false := by
            rw [Bool.eq_false_iff]
            intro starts
            rw [startsComment, beq_iff_eq] at starts
            exact all_notHash.mp whole (List.mem_of_mem_head? starts)
          have alone : usedWords names = [] := by
            rw [usedWords, List.takeWhile_cons_of_pos (by simp [comment]),
              List.length_cons] at short
            exact List.length_eq_zero_iff.mp (by rw [usedWords]; omega)
          rw [cutWords_of_clean (by simp [alone]), alone]
          rfl
      · split <;> rfl

/-! ## When the client gets the hosts that the file defines -/

theorem definedPairs_eq_hostEntries {line : Text}
    (apart : CommentsApart line) : definedPairs line = hostEntries line := by
  rw [definedPairs_eq, hostEntries_eq]
  rcases apart with short | clean
  · rw [namePairs_cutWords_of_short short]
    match used : usedWords (splitWhitespace line) with
    | [] => rfl
    | [word] => rfl
    | _ :: _ :: _ => simp [used] at short
  · rw [cutWords_of_clean clean]

theorem mem_namePairs {words : List Text} {pair : Text × Text}
    (member : pair ∈ namePairs words) : pair.1 ∈ words ∧ pair.2 ∈ words := by
  cases words with
  | nil => cases member
  | cons address names =>
      rcases List.mem_map.mp member with ⟨name, found, rfl⟩
      exact ⟨List.mem_cons_of_mem _ found, List.mem_cons_self⟩

/-- Every word of a line with a name stands in a pair. -/
theorem exists_mem_namePairs {words : List Text} {word : Text}
    (several : 1 < words.length) (member : word ∈ words) :
    ∃ pair ∈ namePairs words, word = pair.1 ∨ word = pair.2 := by
  cases words with
  | nil => cases member
  | cons address names =>
      rcases List.mem_cons.mp member with rfl | name
      · cases names with
        | nil => simp at several
        | cons first others =>
            exact ⟨(first, word), List.mem_map_of_mem List.mem_cons_self,
              .inr rfl⟩
      · exact ⟨(word, address), List.mem_map_of_mem name, .inl rfl⟩

theorem oneLine_of_mem_readEtcHosts {content : Text} {pair : Text × Text}
    (member : pair ∈ readEtcHosts content) : OneLine pair := by
  rcases List.mem_flatMap.mp member with ⟨line, _, inLine⟩
  rw [hostEntries_eq] at inLine
  have words := mem_namePairs inLine
  have noBreak {word : Text} (used : word ∈ usedWords (splitWhitespace line)) :
      '\n' ∉ word := by
    intro break_
    have isWord := isWord_of_mem_splitWhitespace
      ((List.takeWhile_prefix _).mem used)
    cases isWord.ink '\n' break_
  exact ⟨noBreak words.1, noBreak words.2⟩

theorem hash_notMem_of_definedHosts {content : Text} {pair : Text × Text}
    (member : pair ∈ definedHosts content) : '#' ∉ pair.1 ∧ '#' ∉ pair.2 := by
  rcases List.mem_flatMap.mp member with ⟨line, _, inLine⟩
  rw [definedPairs_eq] at inLine
  have words := mem_namePairs inLine
  exact ⟨hash_notMem_cutWords words.1, hash_notMem_cutWords words.2⟩

/-- If the client gets what the file defines, no pair sent has a `#`. -/
theorem hash_notMem_of_decoded {content : Text} {pair : Text × Text}
    (decoded : decodeHostList (encodeHostList (readEtcHosts content)) =
      (definedHosts content).map pairBytes)
    (member : pair ∈ readEtcHosts content) : '#' ∉ pair.1 ∧ '#' ∉ pair.2 := by
  have noHash {text : Text} (absent : '#' ∉ text) : 0x23 ∉ utf8 text :=
    notMem_utf8 '#' (by decide) (by decide) absent
  rcases decodeHost_split pair with ⟨name, address, read, whole⟩
  have found : (name, address) ∈ (definedHosts content).map pairBytes := by
    rw [← decoded, decodeHostList_encodeHostList
      fun _ => oneLine_of_mem_readEtcHosts]
    exact List.mem_filterMap.mpr ⟨_, List.mem_map_of_mem member, read⟩
  rcases List.mem_map.mp found with ⟨defined, isDefined, same⟩
  rcases Prod.mk.inj same with ⟨rfl, rfl⟩
  have clean := hash_notMem_of_definedHosts isDefined
  have line : 0x23 ∉ hostLine pair := by
    rw [whole, List.mem_append, List.mem_cons]
    rintro (front | comma | back)
    · exact noHash clean.1 front
    · cases comma
    · exact noHash clean.2 back
  rw [hostLine, List.mem_append, List.mem_cons] at line
  have hash : String.utf8EncodeChar '#' = [0x23] := by decide
  have inBytes {text : Text} (hashed : '#' ∈ text) : 0x23 ∈ utf8 text :=
    List.mem_flatMap.mpr ⟨'#', hashed, by simp [hash]⟩
  exact ⟨fun hashed => line (.inl (inBytes hashed)),
    fun hashed => line (.inr (.inr (inBytes hashed)))⟩

/--
The client gets exactly the hosts that the file defines, in order, exactly if
in every line the comment starts with a word of its own, as far as the line
names a host at all.
-/
theorem hostList_reproduces_iff {content : Text}
    (noComma : ∀ pair ∈ definedHosts content, ',' ∉ pair.1) :
    decodeHostList (encodeHostList (readEtcHosts content)) =
        (definedHosts content).map pairBytes ↔
      ∀ line ∈ lines content, CommentsApart line := by
  constructor
  · intro decoded line member
    rcases Nat.lt_or_ge 1 (usedWords (splitWhitespace line)).length with
      several | short
    · refine .inr fun word used => ?_
      rcases exists_mem_namePairs several used with ⟨pair, inLine, place⟩
      rw [← hostEntries_eq] at inLine
      have clean := hash_notMem_of_decoded decoded
        (List.mem_flatMap.mpr ⟨line, member, inLine⟩)
      rcases place with rfl | rfl
      · exact clean.1
      · exact clean.2
    · exact .inl short
  · intro apart
    have same : readEtcHosts content = definedHosts content := by
      apply List.flatMap_congr
      intro line member
      exact (definedPairs_eq_hostEntries (apart line member)).symm
    have oneLine : ∀ pair ∈ definedHosts content, OneLine pair :=
      fun pair member => oneLine_of_mem_readEtcHosts (same ▸ member)
    rw [same, decodeHostList_encodeHostList oneLine, List.filterMap_map]
    apply List.filterMap_eq_map_iff_forall_eq_some.mpr
    intro pair member
    exact decodeHost_hostLine (noComma pair member)

/-- A file with a comment behind a word. -/
def commentedHosts : Text :=
  "127.0.0.1 localhost # loopback\n".toList

theorem hostList_reproduces_commented :
    decodeHostList (encodeHostList (readEtcHosts commentedHosts)) =
      (definedHosts commentedHosts).map pairBytes := by
  apply (hostList_reproduces_iff (by decide)).mpr
  intro line member
  have one : lines commentedHosts = ["127.0.0.1 localhost # loopback".toList] :=
    by decide
  rw [one, List.mem_singleton] at member
  subst member
  exact .inr (by decide)

/-- A comment that is glued to a name becomes part of it. -/
theorem glued_comment_sent :
    decodeHostList (encodeHostList
        (readEtcHosts "127.0.0.1 localhost#loopback\n".toList)) ≠
      (definedHosts "127.0.0.1 localhost#loopback\n".toList).map pairBytes := by
  decide

end KubectlSshuttle.Rushtle
