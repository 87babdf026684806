import Mathlib.Algebra.Group.Nat.Defs
import Mathlib.Data.List.Basic
import Mathlib.Data.List.DropRight

/-!
# The standard text functions used by the program

Text is a list of Unicode scalar values and its storage is UTF-8, which Lean's
core library encodes and decodes.  The functions below follow the documented
behaviour of the standard library functions whose names they carry: trimming
and splitting use the Unicode `White_Space` property, lines end at a line feed
with an optional carriage return before it, and a decimal number may carry a
leading plus sign and must fit its type.
-/

namespace KubectlSshuttle.Lib.RustText

/-- A string slice, as its scalar values. -/
abbrev Text := List Char

/-- A byte string. -/
abbrev Bytes := List UInt8

/-! ## UTF-8 -/

/-- The bytes of a text. -/
def utf8 (text : Text) : Bytes :=
  text.flatMap String.utf8EncodeChar

/-- `std::str::from_utf8`. -/
def fromUtf8 (bytes : Bytes) : Option Text :=
  (ByteArray.utf8Decode? bytes.toByteArray).map Array.toList

@[simp]
theorem utf8_nil : utf8 [] = [] := rfl

@[simp]
theorem utf8_append (left right : Text) :
    utf8 (left ++ right) = utf8 left ++ utf8 right := by
  simp [utf8]

@[simp]
theorem utf8_cons (char : Char) (rest : Text) :
    utf8 (char :: rest) = String.utf8EncodeChar char ++ utf8 rest := by
  simp [utf8]

@[simp]
theorem fromUtf8_utf8 (text : Text) : fromUtf8 (utf8 text) = some text := by
  have encoded : (utf8 text).toByteArray = text.utf8Encode := rfl
  simp [fromUtf8, encoded]

/-- Only the storage of a text decodes to it. -/
theorem utf8_of_fromUtf8 {bytes : Bytes} {text : Text}
    (decoded : fromUtf8 bytes = some text) : utf8 text = bytes := by
  rcases Option.map_eq_some_iff.mp decoded with ⟨chars, found, rfl⟩
  have whole : chars.toList.utf8Encode = bytes.toByteArray := by
    have present : bytes.toByteArray.utf8Decode?.isSome = true := by
      simp [found]
    have same := ByteArray.utf8Encode_get_utf8Decode? (h := present)
    simpa [found] using same
  have stored : (utf8 chars.toList).toByteArray = bytes.toByteArray := whole
  have back := congrArg (fun array => array.data.toList) stored
  simpa using back

/--
The text of bytes that need not be UTF-8: a byte that begins no character
stands for the replacement character.
-/
def decodeLossy (bytes : Bytes) : Text :=
  match bytes with
  | [] => []
  | byte :: rest =>
      match (byte :: rest).toByteArray.utf8DecodeChar? 0 with
      | some char => char :: decodeLossy ((byte :: rest).drop char.utf8Size)
      | none => '\uFFFD' :: decodeLossy rest
termination_by bytes.length
decreasing_by
  · have size := char.utf8Size_pos
    simp only [List.length_drop, List.length_cons]
    omega
  · exact Nat.lt_succ_self _

@[simp]
theorem decodeLossy_utf8 (text : Text) : decodeLossy (utf8 text) = text := by
  induction text with
  | nil => rw [utf8_nil, decodeLossy]
  | cons char rest induction =>
      have decoded : (utf8 (char :: rest)).toByteArray.utf8DecodeChar? 0 =
          some char := List.utf8DecodeChar?_utf8Encode_cons
      have behind : (utf8 (char :: rest)).drop char.utf8Size = utf8 rest := by
        rw [utf8_cons, ← String.length_utf8EncodeChar char, List.drop_left]
      have nonempty : utf8 (char :: rest) ≠ [] := by
        intro empty
        have size := char.utf8Size_pos
        have length := congrArg List.length empty
        rw [utf8_cons, List.length_append, String.length_utf8EncodeChar,
          List.length_nil] at length
        omega
      rcases List.exists_cons_of_ne_nil nonempty with ⟨byte, others, shape⟩
      rw [shape] at decoded behind ⊢
      rw [decodeLossy, decoded]
      dsimp only
      rw [behind, induction]

/-- Of UTF-8 it is the text. -/
theorem decodeLossy_of_fromUtf8 {bytes : Bytes} {text : Text}
    (decoded : fromUtf8 bytes = some text) : decodeLossy bytes = text := by
  rw [← utf8_of_fromUtf8 decoded, decodeLossy_utf8]

/-- A scalar value takes at most four bytes. -/
theorem length_utf8_le (text : Text) :
    (utf8 text).length ≤ 4 * text.length := by
  induction text with
  | nil => simp
  | cons char rest induction =>
      have size : char.utf8Size ≤ 4 := Char.utf8Size_le_four char
      simp only [utf8_cons, List.length_append,
        String.length_utf8EncodeChar, List.length_cons]
      omega

/-- A scalar value takes at least one byte. -/
theorem length_le_length_utf8 (text : Text) :
    text.length ≤ (utf8 text).length := by
  induction text with
  | nil => simp
  | cons char rest induction =>
      have size : 0 < char.utf8Size := Char.utf8Size_pos char
      simp only [utf8_cons, List.length_append,
        String.length_utf8EncodeChar, List.length_cons]
      omega

/-- A byte below 128 stands only for the character with its code. -/
theorem toNat_eq_of_mem_utf8EncodeChar {char : Char} {byte : UInt8}
    (ascii : byte.toNat < 128)
    (member : byte ∈ String.utf8EncodeChar char) :
    char.toNat = byte.toNat := by
  have code : char.toNat = char.val.toNat := rfl
  simp only [String.utf8EncodeChar] at member
  split_ifs at member
  all_goals
    simp only [List.mem_cons, List.not_mem_nil, or_false] at member
    rcases member with rfl | rfl | rfl | rfl <;>
      simp only [UInt8.toNat_ofNat'] at ascii ⊢ <;> omega

theorem utf8EncodeChar_of_ascii {char : Char} (ascii : char.toNat < 128) :
    String.utf8EncodeChar char = [UInt8.ofNat char.toNat] := by
  have code : char.toNat = char.val.toNat := rfl
  rw [String.utf8EncodeChar]
  exact if_pos (by omega)

/-- A text whose storage begins with that of a character below 128. -/
theorem head?_of_utf8_isPrefix {char : Char} {rest text : Text}
    (ascii : char.toNat < 128)
    (shorter : utf8 (char :: rest) <+: utf8 text) :
    text.head? = some char := by
  rw [utf8_cons, utf8EncodeChar_of_ascii ascii, List.singleton_append]
    at shorter
  rcases shorter with ⟨tail, whole⟩
  cases text with
  | nil => simp at whole
  | cons first others =>
      have byte : (UInt8.ofNat char.toNat).toNat = char.toNat := by
        rw [UInt8.toNat_ofNat']
        omega
      have front : UInt8.ofNat char.toNat ∈ String.utf8EncodeChar first := by
        have nonempty : String.utf8EncodeChar first ≠ [] := by
          rw [← List.length_pos_iff, String.length_utf8EncodeChar]
          exact Char.utf8Size_pos first
        rcases List.exists_cons_of_ne_nil nonempty with ⟨head, more, shape⟩
        rw [utf8_cons, shape] at whole
        rw [(List.cons.inj whole).1, shape]
        exact List.mem_cons_self
      have same := toNat_eq_of_mem_utf8EncodeChar (by omega) front
      rw [List.head?_cons, Char.toNat_inj.mp (same.trans byte)]

theorem exists_of_mem_utf8 {text : Text} {byte : UInt8}
    (ascii : byte.toNat < 128) (member : byte ∈ utf8 text) :
    ∃ char ∈ text, char.toNat = byte.toNat := by
  rcases List.mem_flatMap.mp member with ⟨char, inText, inChar⟩
  exact ⟨char, inText, toNat_eq_of_mem_utf8EncodeChar ascii inChar⟩

/-- What is not a character of the text is not a byte of its storage. -/
theorem notMem_utf8 {text : Text} (char : Char) {byte : UInt8}
    (ascii : byte.toNat < 128) (code : char.toNat = byte.toNat)
    (absent : char ∉ text) : byte ∉ utf8 text := by
  intro member
  rcases exists_of_mem_utf8 ascii member with ⟨other, inText, same⟩
  have equal : other = char := Char.toNat_inj.mp (same.trans code.symm)
  exact absent (equal ▸ inText)

/-! ## Trimming and splitting -/

/-- `char::is_whitespace`: the Unicode property `White_Space`. -/
def isWhitespace (char : Char) : Bool :=
  let code := char.toNat
  (9 ≤ code && code ≤ 13) || code == 32 || code == 0x85 || code == 0xA0 ||
    code == 0x1680 || (0x2000 ≤ code && code ≤ 0x200A) ||
    code == 0x2028 || code == 0x2029 || code == 0x202F ||
    code == 0x205F || code == 0x3000

/-- `str::trim`. -/
def trim (text : Text) : Text :=
  (text.dropWhile isWhitespace).rdropWhile isWhitespace

/-- `str::trim_end_matches` for a set of characters. -/
def trimEndMatches (remove : Char → Bool) (text : Text) : Text :=
  text.rdropWhile remove

/-- `str::strip_prefix`. -/
def stripPrefix (pattern text : Text) : Option Text :=
  pattern.isPrefixOf? text

/-- Cut a text at the first occurrence of a separator. -/
def splitOnce (separator : Char) : Text → Option (Text × Text)
  | [] => none
  | char :: rest =>
      if char = separator then
        some ([], rest)
      else
        (splitOnce separator rest).map fun (left, right) =>
          (char :: left, right)

/-- What follows the first occurrence of a pattern, as `str::find` finds it. -/
def afterFirst (pattern : Text) : Text → Option Text
  | [] => if pattern = [] then some [] else none
  | char :: rest =>
      if pattern.isPrefixOf (char :: rest) then
        some ((char :: rest).drop pattern.length)
      else afterFirst pattern rest

/-- `str::contains` -/
def contains (pattern text : Text) : Bool :=
  (afterFirst pattern text).isSome

/-- `str::splitn`: at most `count` parts, the last one unsplit. -/
def splitn : Nat → Char → Text → List Text
  | 0, _, _ => []
  | 1, _, text => [text]
  | count + 2, separator, text =>
      match splitOnce separator text with
      | none => [text]
      | some (part, rest) => part :: splitn (count + 1) separator rest

/-- `str::split_whitespace`: the maximal words free of whitespace. -/
def splitWhitespace : Text → List Text
  | [] => []
  | char :: rest =>
      if isWhitespace char then
        splitWhitespace rest
      else
        match rest with
        | [] => [[char]]
        | next :: _ =>
            if isWhitespace next then
              [char] :: splitWhitespace rest
            else
              match splitWhitespace rest with
              | [] => [[char]]
              | word :: words => (char :: word) :: words

/-- Split at line feeds; a text that ends with one has no empty last line. -/
def splitInclusive : Text → List Text
  | [] => []
  | char :: rest =>
      if char = '\n' then
        [char] :: splitInclusive rest
      else
        match splitInclusive rest with
        | [] => [[char]]
        | line :: lines => (char :: line) :: lines

/-- Take one line terminator, `\n` or `\r\n`, off the end of a line. -/
def stripLineEnd (line : Text) : Text :=
  match line.reverse with
  | '\n' :: '\r' :: rest => rest.reverse
  | '\n' :: rest => rest.reverse
  | _ => line

/-- `str::lines`. -/
def lines (text : Text) : List Text :=
  (splitInclusive text).map stripLineEnd

theorem stripPrefix_eq_some {pattern text rest : Text} :
    stripPrefix pattern text = some rest ↔ text = pattern ++ rest := by
  rw [stripPrefix]
  induction pattern generalizing text with
  | nil => simp [List.isPrefixOf?, eq_comm]
  | cons char others induction =>
      cases text with
      | nil => simp [List.isPrefixOf?]
      | cons first more =>
          by_cases same : char = first
          · simp [List.isPrefixOf?, same, induction]
          · have other : first ≠ char := Ne.symm same
            simp [List.isPrefixOf?, same, other]

theorem splitOnce_append {separator : Char} {left : Text}
    (absent : separator ∉ left) (right : Text) :
    splitOnce separator (left ++ separator :: right) =
      some (left, right) := by
  induction left with
  | nil => simp [splitOnce]
  | cons char rest induction =>
      rw [List.mem_cons, not_or] at absent
      rw [List.cons_append, splitOnce,
        if_neg (fun equal => absent.1 equal.symm), induction absent.2]
      rfl

theorem splitOnce_eq_some {separator : Char} {text left right : Text}
    (split : splitOnce separator text = some (left, right)) :
    text = left ++ separator :: right := by
  induction text generalizing left with
  | nil => cases split
  | cons char rest induction =>
      rw [splitOnce] at split
      split_ifs at split with same
      · rcases Prod.mk.inj (Option.some.inj split) with ⟨rfl, rfl⟩
        rw [same]
        rfl
      · rcases Option.map_eq_some_iff.mp split with ⟨⟨front, back⟩, cut, pair⟩
        rcases Prod.mk.inj pair with ⟨rfl, rfl⟩
        rw [induction cut]
        rfl

theorem splitOnce_of_notMem {separator : Char} {text : Text}
    (absent : separator ∉ text) : splitOnce separator text = none := by
  induction text with
  | nil => rfl
  | cons char rest induction =>
      rw [List.mem_cons, not_or] at absent
      rw [splitOnce, if_neg (fun equal => absent.1 equal.symm),
        induction absent.2]
      rfl

/-- Without a separator there is only one part. -/
theorem splitn_of_notMem {separator : Char} {text : Text}
    (absent : separator ∉ text) (count : Nat) :
    splitn (count + 1) separator text = [text] := by
  cases count with
  | zero => rfl
  | succ count => rw [splitn, splitOnce_of_notMem absent]

theorem splitn_append {separator : Char} {left : Text}
    (absent : separator ∉ left) (right : Text) (count : Nat) :
    splitn (count + 2) separator (left ++ separator :: right) =
      left :: splitn (count + 1) separator right := by
  rw [splitn, splitOnce_append absent]

theorem length_splitn_le (count : Nat) (separator : Char) (text : Text) :
    (splitn count separator text).length ≤ count := by
  induction count, separator, text using splitn.induct with
  | case1 separator text => simp [splitn]
  | case2 separator text => simp [splitn]
  | case3 count separator text none => simp [splitn, none]
  | case4 count separator text part rest cut induction =>
      simpa [splitn, cut] using induction

/-- The first occurrence is the one that no shorter front precedes. -/
theorem afterFirst_append {pattern front rest : Text}
    (first : ∀ earlier later : Text,
      front ++ pattern ++ rest = earlier ++ pattern ++ later →
        front.length ≤ earlier.length) :
    afterFirst pattern (front ++ pattern ++ rest) = some rest := by
  induction front with
  | nil =>
      cases whole : pattern ++ rest with
      | nil =>
          rcases List.append_eq_nil_iff.mp whole with ⟨rfl, rfl⟩
          rfl
      | cons char others =>
          have isFront : pattern.isPrefixOf (char :: others) = true := by
            rw [List.isPrefixOf_iff_prefix, ← whole]
            exact List.prefix_append pattern rest
          rw [List.nil_append, whole, afterFirst, if_pos isFront, ← whole,
            List.drop_left]
  | cons char front induction =>
      have later : pattern.isPrefixOf
          (char :: (front ++ pattern ++ rest)) = false := by
        rw [Bool.eq_false_iff, ne_eq, List.isPrefixOf_iff_prefix]
        rintro ⟨tail, whole⟩
        have short := first [] tail (by simpa using whole.symm)
        simp at short
      rw [List.cons_append, List.cons_append, afterFirst, later]
      apply induction
      intro earlier tail whole
      have long := first (char :: earlier) tail (by simp [whole])
      simpa using long

theorem contains_eq_true_iff {pattern text : Text} :
    contains pattern text = true ↔ pattern <:+: text := by
  rw [contains]
  induction text with
  | nil =>
      rw [List.infix_nil, afterFirst]
      split <;> simp [*]
  | cons char rest induction =>
      rw [List.infix_cons_iff, afterFirst]
      split
      · next front => simp [List.isPrefixOf_iff_prefix.mp front]
      · next other =>
          rw [induction, ← List.isPrefixOf_iff_prefix]
          simp [other]

/-- A text that neither starts nor ends with whitespace is trimmed already. -/
theorem trim_eq_self {first last : Char} {rest initial : Text}
    {text : Text} (starts : text = first :: rest)
    (ends : text = initial ++ [last])
    (firstInk : isWhitespace first = false)
    (lastInk : isWhitespace last = false) :
    trim text = text := by
  have front : text.dropWhile isWhitespace = text := by
    rw [starts, List.dropWhile_cons_of_neg (by simp [firstInk])]
  rw [trim, front, ends]
  exact List.rdropWhile_concat_neg _ _ _ (by simp [lastInk])

/-- What the predicate removes from the end may stand there at will. -/
theorem rdropWhile_append_of_forall {remove : Char → Bool} {back : Text}
    (removed : ∀ char ∈ back, remove char = true) (front : Text) :
    (front ++ back).rdropWhile remove = front.rdropWhile remove := by
  rw [List.rdropWhile, List.reverse_append, List.dropWhile_append_of_pos
    (fun char member => removed char (List.mem_reverse.mp member))]
  rfl

/-- Whitespace behind a text that is not all whitespace is trimmed. -/
theorem trim_append {text blanks : Text}
    (ink : ∃ char ∈ text, isWhitespace char = false)
    (white : ∀ char ∈ blanks, isWhitespace char = true) :
    trim (text ++ blanks) = trim text := by
  have front : (text ++ blanks).dropWhile isWhitespace =
      text.dropWhile isWhitespace ++ blanks := by
    rcases ink with ⟨char, member, black⟩
    have kept : text.dropWhile isWhitespace ≠ [] := by
      rw [ne_eq, List.dropWhile_eq_nil_iff]
      intro allWhite
      exact absurd (allWhite char member) (by simp [black])
    rw [List.dropWhile_append, if_neg (by simpa using kept)]
  rw [trim, front, rdropWhile_append_of_forall white, trim]

/-- Whitespace behind such a text is trimmed. -/
theorem trim_concat {first last : Char} {rest initial : Text}
    {text : Text} (starts : text = first :: rest)
    (ends : text = initial ++ [last])
    (firstInk : isWhitespace first = false)
    (lastInk : isWhitespace last = false) {char : Char}
    (blank : isWhitespace char = true) :
    trim (text ++ [char]) = text := by
  have front : (text ++ [char]).dropWhile isWhitespace = text ++ [char] := by
    rw [starts, List.cons_append,
      List.dropWhile_cons_of_neg (by simp [firstInk])]
  have dropped : (text ++ [char]).rdropWhile isWhitespace =
      text.rdropWhile isWhitespace :=
    List.rdropWhile_concat_pos _ _ _ blank
  rw [trim, front, dropped, ends]
  exact List.rdropWhile_concat_neg _ _ _ (by simp [lastInk])

/-- A word free of whitespace is split into itself. -/
theorem splitWhitespace_word {word : Text} (nonempty : word ≠ [])
    (ink : ∀ char ∈ word, isWhitespace char = false) :
    splitWhitespace word = [word] := by
  induction word with
  | nil => exact (nonempty rfl).elim
  | cons char rest induction =>
      have here := ink char List.mem_cons_self
      rw [splitWhitespace.eq_def]
      cases rest with
      | nil => simp [here]
      | cons next others =>
          have later := induction (by simp)
            (fun other member => ink other (List.mem_cons_of_mem _ member))
          simp [here, ink next (by simp), later]

/-- A word in front of whitespace is the first that is split off. -/
theorem splitWhitespace_append {word : Text} {separator : Char}
    (nonempty : word ≠ [])
    (ink : ∀ char ∈ word, isWhitespace char = false)
    (blank : isWhitespace separator = true) (rest : Text) :
    splitWhitespace (word ++ separator :: rest) =
      word :: splitWhitespace rest := by
  have skipped : splitWhitespace (separator :: rest) =
      splitWhitespace rest := by
    rw [splitWhitespace.eq_def]
    simp [blank]
  induction word with
  | nil => exact (nonempty rfl).elim
  | cons char word induction =>
      have here := ink char List.mem_cons_self
      rw [List.cons_append, splitWhitespace.eq_def]
      cases word with
      | nil => simp [here, blank, skipped]
      | cons next others =>
          have later := induction (by simp)
            (fun other member => ink other (List.mem_cons_of_mem _ member))
          rw [List.cons_append] at later
          simp [here, ink next (by simp), later]

/-- A nonempty text without a line feed is one line. -/
theorem lines_of_notMem {text : Text} (nonempty : text ≠ [])
    (oneLine : '\n' ∉ text) : lines text = [text] := by
  have whole : splitInclusive text = [text] := by
    induction text with
    | nil => exact (nonempty rfl).elim
    | cons char rest induction =>
        rw [List.mem_cons, not_or] at oneLine
        rw [splitInclusive, if_neg (fun equal => oneLine.1 equal.symm)]
        cases rest with
        | nil => rfl
        | cons next others =>
            rw [induction (by simp) oneLine.2]
  have strip : stripLineEnd text = text := by
    unfold stripLineEnd
    split
    · next rest shape =>
        have member : '\n' ∈ text.reverse := by simp [shape]
        exact (oneLine (List.mem_reverse.mp member)).elim
    · next rest _ shape =>
        have member : '\n' ∈ text.reverse := by simp [shape]
        exact (oneLine (List.mem_reverse.mp member)).elim
    · rfl
  rw [lines, whole, List.map_singleton, strip]

/-- A terminated line in front of a text. -/
theorem lines_append {line : Text} (oneLine : '\n' ∉ line) (rest : Text) :
    lines (line ++ '\n' :: rest) =
      stripLineEnd (line ++ ['\n']) :: lines rest := by
  have whole : splitInclusive (line ++ '\n' :: rest) =
      (line ++ ['\n']) :: splitInclusive rest := by
    induction line with
    | nil => simp [splitInclusive]
    | cons char others induction =>
        rw [List.mem_cons, not_or] at oneLine
        rw [List.cons_append, splitInclusive,
          if_neg (fun equal => oneLine.1 equal.symm), induction oneLine.2]
        rfl
  rw [lines, whole, List.map_cons, lines]

theorem stripLineEnd_concat {line : Text}
    (plain : line.getLast? ≠ some '\r') :
    stripLineEnd (line ++ ['\n']) = line := by
  unfold stripLineEnd
  rw [List.reverse_append, List.reverse_singleton, List.singleton_append]
  split
  · next rest shape =>
      rw [List.cons.injEq, List.reverse_eq_iff] at shape
      exact (plain (by simp [shape.2])).elim
  · next rest _ shape =>
      rw [List.cons.injEq, eq_comm, List.reverse_eq_iff] at shape
      simpa [List.reverse_eq_iff] using shape.2.symm
  · next _ other => exact (other line.reverse rfl).elim

theorem stripLineEnd_isPrefix (line : Text) : stripLineEnd line <+: line := by
  unfold stripLineEnd
  split
  · next rest shape =>
      rw [List.reverse_eq_iff] at shape
      exact ⟨['\r', '\n'], by simp [shape]⟩
  · next rest _ shape =>
      rw [List.reverse_eq_iff] at shape
      exact ⟨['\n'], by simp [shape]⟩
  · exact List.prefix_refl line

/-- The line feed at least is taken off. -/
theorem stripLineEnd_concat_isPrefix (line : Text) :
    stripLineEnd (line ++ ['\n']) <+: line := by
  by_cases ends : line.getLast? = some '\r'
  · rcases List.getLast?_eq_some_iff.mp ends with ⟨front, rfl⟩
    have stripped : stripLineEnd (front ++ ['\r'] ++ ['\n']) = front := by
      simp [stripLineEnd]
    rw [stripped]
    exact List.prefix_append _ _
  · have whole := stripLineEnd_concat ends
    exact whole.symm ▸ List.prefix_refl line

/-- A line feed can only end a piece. -/
theorem exists_of_mem_splitInclusive {text piece : Text}
    (member : piece ∈ splitInclusive text) :
    ∃ front, '\n' ∉ front ∧ (piece = front ∨ piece = front ++ ['\n']) := by
  induction text generalizing piece with
  | nil => cases member
  | cons char rest induction =>
      rw [splitInclusive] at member
      split at member
      · next newline =>
          rcases List.mem_cons.mp member with rfl | later
          · exact ⟨[], by simp, .inr (by rw [newline]; rfl)⟩
          · exact induction later
      · next other =>
          split at member
          · rw [List.mem_singleton.mp member]
            exact ⟨[char], by simpa using Ne.symm other, .inl rfl⟩
          · next line more shape =>
              rw [shape] at induction
              rcases List.mem_cons.mp member with rfl | later
              · rcases induction List.mem_cons_self with
                  ⟨front, absent, whole⟩
                refine ⟨char :: front, ?_, ?_⟩
                · simpa [absent] using Ne.symm other
                · rcases whole with rfl | rfl
                  · exact .inl rfl
                  · exact .inr rfl
              · exact induction (List.mem_cons_of_mem _ later)

theorem newline_notMem_of_mem_lines {text line : Text}
    (member : line ∈ lines text) : '\n' ∉ line := by
  rcases List.mem_map.mp member with ⟨piece, inPieces, rfl⟩
  rcases exists_of_mem_splitInclusive inPieces with
    ⟨front, absent, rfl | rfl⟩
  · exact fun newline => absent ((stripLineEnd_isPrefix _).mem newline)
  · exact fun newline =>
      absent ((stripLineEnd_concat_isPrefix _).mem newline)

/-- Lines that are terminated one by one are split again. -/
theorem lines_flatMap {parts : List Text}
    (oneLine : ∀ part ∈ parts, '\n' ∉ part)
    (plain : ∀ part ∈ parts, part.getLast? ≠ some '\r') :
    lines (parts.flatMap (· ++ ['\n'])) = parts := by
  induction parts with
  | nil => rfl
  | cons part others induction =>
      rw [List.flatMap_cons, List.append_assoc, List.singleton_append,
        lines_append (oneLine part List.mem_cons_self),
        stripLineEnd_concat (plain part List.mem_cons_self),
        induction (fun other member =>
            oneLine other (List.mem_cons_of_mem _ member))
          (fun other member => plain other (List.mem_cons_of_mem _ member))]

/-! ## Decimal numbers -/

/-- `Display` of an unsigned integer. -/
def decimal (number : Nat) : Text :=
  Nat.toDigits 10 number

/-- The value of a nonempty string of decimal digits. -/
def parseDigits (text : Text) : Option Nat :=
  if text ≠ [] ∧ text.all Char.isDigit then
    some (Nat.ofDigitChars 10 text 0)
  else
    none

/-- Take the plus sign off that a number may start with. -/
def stripSign (text : Text) : Text :=
  match text with
  | '+' :: rest => rest
  | _ => text

/-- `FromStr` of an unsigned integer type whose values lie below `bound`. -/
def parseUnsigned (bound : Nat) (text : Text) : Option Nat :=
  match parseDigits (stripSign text) with
  | some number => if number < bound then some number else none
  | none => none

/-- `str::parse::<u16>`. -/
def parseU16 (text : Text) : Option UInt16 :=
  (parseUnsigned (2 ^ 16) text).map UInt16.ofNat

theorem decimal_ne_nil (number : Nat) : decimal number ≠ [] :=
  Nat.toDigits_ne_nil

theorem isDigit_of_mem_decimal {number : Nat} {char : Char}
    (member : char ∈ decimal number) : char.isDigit = true :=
  Nat.isDigit_of_mem_toDigits (by decide) (by decide) member

theorem isWhitespace_of_isDigit {char : Char}
    (digit : char.isDigit = true) : isWhitespace char = false := by
  simp only [Char.isDigit, ge_iff_le, Bool.and_eq_true,
    decide_eq_true_eq] at digit
  have low : 48 ≤ char.toNat := UInt32.le_iff_toNat_le.mp digit.1
  have high : char.toNat ≤ 57 := UInt32.le_iff_toNat_le.mp digit.2
  simp only [isWhitespace, Bool.or_eq_false_iff, Bool.and_eq_false_iff,
    decide_eq_false_iff_not, beq_eq_false_iff_ne]
  omega

/-- A number starts with a digit. -/
theorem decimal_eq_cons (number : Nat) :
    ∃ first rest, decimal number = first :: rest ∧
      first.isDigit = true := by
  rcases List.exists_cons_of_ne_nil (decimal_ne_nil number) with
    ⟨first, rest, shape⟩
  have member : first ∈ decimal number := by simp [shape]
  exact ⟨first, rest, shape, isDigit_of_mem_decimal member⟩

/-- A number ends with a digit. -/
theorem decimal_eq_concat (number : Nat) :
    ∃ initial last, decimal number = initial ++ [last] ∧
      last.isDigit = true := by
  rcases (List.eq_nil_or_concat (decimal number)).resolve_left
      (decimal_ne_nil number) with
    ⟨initial, last, shape⟩
  rw [List.concat_eq_append] at shape
  have member : last ∈ decimal number := by simp [shape]
  exact ⟨initial, last, shape, isDigit_of_mem_decimal member⟩

theorem trim_decimal (number : Nat) :
    trim (decimal number) = decimal number := by
  rcases decimal_eq_cons number with ⟨first, rest, starts, firstDigit⟩
  rcases decimal_eq_concat number with ⟨initial, last, ends, lastDigit⟩
  exact trim_eq_self starts ends (isWhitespace_of_isDigit firstDigit)
    (isWhitespace_of_isDigit lastDigit)

theorem comma_notMem_decimal (number : Nat) : ',' ∉ decimal number := by
  intro member
  have := isDigit_of_mem_decimal member
  simp [Char.isDigit] at this

theorem length_decimal_le {number digits : Nat} (positive : 0 < digits)
    (small : number < 10 ^ digits) :
    (decimal number).length ≤ digits :=
  (Nat.length_toDigits_le_iff (by decide) positive).mpr small

theorem parseDigits_decimal (number : Nat) :
    parseDigits (decimal number) = some number := by
  have allDigits : (decimal number).all Char.isDigit = true := by
    rw [List.all_eq_true]
    exact fun _ member => isDigit_of_mem_decimal member
  rw [parseDigits, if_pos ⟨decimal_ne_nil number, allDigits⟩]
  exact congrArg some Nat.ofDigitChars_ten_toDigits

/-- Digits carry no sign. -/
theorem stripSign_of_isDigit {text : Text}
    (digits : ∀ char ∈ text, char.isDigit = true) :
    stripSign text = text := by
  unfold stripSign
  split
  · next rest shape =>
      have digit := digits '+' List.mem_cons_self
      simp [Char.isDigit] at digit
  · rfl

theorem stripSign_decimal (number : Nat) :
    stripSign (decimal number) = decimal number :=
  stripSign_of_isDigit fun _ member => isDigit_of_mem_decimal member

theorem parseUnsigned_decimal {bound number : Nat} (small : number < bound) :
    parseUnsigned bound (decimal number) = some number := by
  rw [parseUnsigned, stripSign_decimal, parseDigits_decimal]
  simp [small]

@[simp]
theorem parseU16_decimal (number : UInt16) :
    parseU16 (decimal number.toNat) = some number := by
  rw [parseU16, parseUnsigned_decimal number.toNat_lt]
  simp

/-- A number in decimal notation, with or without a plus sign before it. -/
def IsDecimal (text : Text) (number : Nat) : Prop :=
  ∃ digits, (text = digits ∨ text = '+' :: digits) ∧ digits ≠ [] ∧
    (∀ char ∈ digits, char.isDigit = true) ∧
    Nat.ofDigitChars 10 digits 0 = number

theorem parseDigits_eq_some_iff {text : Text} {number : Nat} :
    parseDigits text = some number ↔
      text ≠ [] ∧ (∀ char ∈ text, char.isDigit = true) ∧
        Nat.ofDigitChars 10 text 0 = number := by
  rw [parseDigits]
  split
  · next digits =>
      rw [List.all_eq_true] at digits
      exact ⟨fun read => ⟨digits.1, digits.2, Option.some.inj read⟩,
        fun shape => congrArg some shape.2.2⟩
  · next other =>
      rw [List.all_eq_true] at other
      constructor
      · intro read
        cases read
      · rintro ⟨nonempty, digits, -⟩
        exact (other ⟨nonempty, digits⟩).elim

theorem parseDigits_stripSign_eq_some_iff {text : Text} {number : Nat} :
    parseDigits (stripSign text) = some number ↔ IsDecimal text number := by
  rw [parseDigits_eq_some_iff]
  constructor
  · intro read
    refine ⟨stripSign text, ?_, read⟩
    unfold stripSign
    split
    · exact .inr rfl
    · exact .inl rfl
  · rintro ⟨digits, rfl | rfl, nonempty, allDigits, value⟩
    · rw [stripSign_of_isDigit allDigits]
      exact ⟨nonempty, allDigits, value⟩
    · exact ⟨nonempty, allDigits, value⟩

/-- A number is read exactly from its notations, if it fits the type. -/
theorem parseUnsigned_eq_some_iff {bound number : Nat} {text : Text} :
    parseUnsigned bound text = some number ↔
      IsDecimal text number ∧ number < bound := by
  rw [parseUnsigned]
  constructor
  · intro read
    split at read
    · next value digits =>
        split at read
        · next small =>
            cases read
            exact ⟨parseDigits_stripSign_eq_some_iff.mp digits, small⟩
        · cases read
    · cases read
  · rintro ⟨written, small⟩
    simp [parseDigits_stripSign_eq_some_iff.mpr written, small]

theorem parseU16_eq_some_iff {text : Text} {number : UInt16} :
    parseU16 text = some number ↔ IsDecimal text number.toNat := by
  rw [parseU16, Option.map_eq_some_iff]
  constructor
  · rintro ⟨value, read, rfl⟩
    rcases parseUnsigned_eq_some_iff.mp read with ⟨shape, small⟩
    rwa [UInt16.toNat_ofNat', Nat.mod_eq_of_lt small]
  · intro shape
    exact ⟨number.toNat,
      parseUnsigned_eq_some_iff.mpr ⟨shape, number.toNat_lt⟩,
      UInt16.ofNat_toNat⟩

end KubectlSshuttle.Lib.RustText
