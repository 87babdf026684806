import KubectlSshuttle.Lib.YamlPrinter

/-!
# What plain scalars stand for

The core schema of YAML 1.2: null, the booleans, integers and floating point
numbers in their notations, and strings.  For scalars that begin with a letter
or a digit the notations are described by a grammar.
-/

namespace KubectlSshuttle.Lib.Yaml

open KubectlSshuttle.Lib.RustText

/-- A resolved scalar; numbers keep their notation. -/
inductive Scalar where
  | null
  | bool (value : Bool)
  | int (text : Text)
  | float (text : Text)
  | str (text : Text)
deriving DecidableEq

/-- The spellings of null. -/
def nullWords : List Text :=
  [[], "~".toList, "null".toList, "Null".toList, "NULL".toList]

/-- The spellings of true. -/
def trueWords : List Text :=
  ["true".toList, "True".toList, "TRUE".toList]

/-- The spellings of false. -/
def falseWords : List Text :=
  ["false".toList, "False".toList, "FALSE".toList]

/-- The text behind a sign. -/
def dropSign : Text → Text
  | '+' :: rest | '-' :: rest => rest
  | text => text

/-- At least one digit, and nothing else. -/
def isDigits (text : Text) : Bool :=
  !text.isEmpty && text.all Char.isDigit

/-- The digits of an octal number. -/
def isOctDigit (char : Char) : Bool :=
  '0' ≤ char && char ≤ '7'

/-- The digits of a hexadecimal number. -/
def isHexDigit (char : Char) : Bool :=
  char.isDigit || ('a' ≤ char && char ≤ 'f') || ('A' ≤ char && char ≤ 'F')

/-- `[-+]? [0-9]+`, `0o [0-7]+` or `0x [0-9a-fA-F]+` -/
def isInt (text : Text) : Bool :=
  match text with
  | '0' :: 'o' :: digits => !digits.isEmpty && digits.all isOctDigit
  | '0' :: 'x' :: digits => !digits.isEmpty && digits.all isHexDigit
  | _ => isDigits (dropSign text)

/-- `( [eE] [-+]? [0-9]+ )?` -/
def isExponent : Text → Bool
  | [] => true
  | mark :: rest => (mark == 'e' || mark == 'E') && isDigits (dropSign rest)

/-- `( \. [0-9]+ | [0-9]+ ( \. [0-9]* )? ) ( [eE] [-+]? [0-9]+ )?` -/
def isUnsignedFloat (text : Text) : Bool :=
  let whole := text.takeWhile Char.isDigit
  match text.dropWhile Char.isDigit with
  | '.' :: rest =>
      (!whole.isEmpty || rest.head?.any Char.isDigit) &&
        isExponent (rest.dropWhile Char.isDigit)
  | rest => !whole.isEmpty && isExponent rest

/-- A number with a fraction or an exponent, an infinity or no number. -/
def isFloat (text : Text) : Bool :=
  isUnsignedFloat (dropSign text) ||
    [".inf".toList, ".Inf".toList, ".INF".toList].contains (dropSign text) ||
    [".nan".toList, ".NaN".toList, ".NAN".toList].contains text

/-- The tag of a plain scalar: the first rule that fits, or a string. -/
def resolve (text : Text) : Scalar :=
  if nullWords.contains text then .null
  else if trueWords.contains text then .bool true
  else if falseWords.contains text then .bool false
  else if isInt text then .int text
  else if isFloat text then .float text
  else .str text

/-- The scalar at the end of a path, resolved. -/
def Node.scalarAt (document : Node) (path : List Step) : Option Scalar :=
  match document.follow path with
  | some (.plain text) => some (resolve text)
  | _ => none

/-! ## The grammar of numerals -/

/-- A nonempty run of digits. -/
def IsDigits (text : Text) : Prop :=
  text ≠ [] ∧ ∀ char ∈ text, char.isDigit = true

/-- An optional point with digits behind it. -/
inductive IsFraction : Text → Prop where
  | absent : IsFraction []
  | present {digits : Text} (digit : ∀ char ∈ digits, char.isDigit = true) :
      IsFraction ('.' :: digits)

/-- An optional exponent. -/
inductive IsExponent : Text → Prop where
  | absent : IsExponent []
  | present {mark : Char} {sign digits : Text}
      (marked : mark = 'e' ∨ mark = 'E')
      (signed : sign = [] ∨ sign = ['+'] ∨ sign = ['-'])
      (digit : IsDigits digits) : IsExponent (mark :: (sign ++ digits))

/-- The numbers that begin with a digit. -/
inductive IsNumeral : Text → Prop where
  | decimal {whole fraction exponent : Text} (digit : IsDigits whole)
      (broken : IsFraction fraction) (scaled : IsExponent exponent) :
      IsNumeral (whole ++ (fraction ++ exponent))
  | octal {digits : Text} (nonempty : digits ≠ [])
      (digit : ∀ char ∈ digits, isOctDigit char = true) :
      IsNumeral ('0' :: 'o' :: digits)
  | hexadecimal {digits : Text} (nonempty : digits ≠ [])
      (digit : ∀ char ∈ digits, isHexDigit char = true) :
      IsNumeral ('0' :: 'x' :: digits)

/-- The texts that do not stand for themselves. -/
def IsReserved (text : Text) : Prop :=
  text ∈ nullWords ++ trueWords ++ falseWords ∨ IsNumeral text

theorem isDigits_iff {text : Text} : isDigits text = true ↔ IsDigits text := by
  simp [isDigits, IsDigits, List.all_eq_true]

theorem dropSign_of_isDigits {text : Text} (digits : IsDigits text) :
    dropSign text = text := by
  unfold dropSign
  split
  · next rest => exact absurd (digits.2 '+' List.mem_cons_self) (by decide)
  · next rest => exact absurd (digits.2 '-' List.mem_cons_self) (by decide)
  · rfl

theorem exists_sign (text : Text) :
    ∃ sign, (sign = [] ∨ sign = ['+'] ∨ sign = ['-']) ∧
      text = sign ++ dropSign text := by
  unfold dropSign
  split
  · exact ⟨['+'], .inr (.inl rfl), rfl⟩
  · exact ⟨['-'], .inr (.inr rfl), rfl⟩
  · exact ⟨[], .inl rfl, rfl⟩

theorem isExponent_iff {text : Text} :
    isExponent text = true ↔ IsExponent text := by
  constructor
  · intro accepted
    cases text with
    | nil => exact .absent
    | cons mark rest =>
        simp only [isExponent, Bool.and_eq_true, Bool.or_eq_true, beq_iff_eq,
          isDigits_iff] at accepted
        rcases exists_sign rest with ⟨sign, signed, whole⟩
        rw [whole]
        exact .present accepted.1 signed accepted.2
  · rintro (_ | @⟨mark, sign, digits, marked, signed, digit⟩)
    · rfl
    · have dropped : dropSign (sign ++ digits) = digits := by
        rcases signed with rfl | rfl | rfl
        · exact dropSign_of_isDigits digit
        · rfl
        · rfl
      rw [isExponent, dropped, isDigits_iff.mpr digit]
      rcases marked with rfl | rfl <;> rfl

/-- Digits end where something else begins. -/
theorem span_digits {whole rest : Text}
    (digit : ∀ char ∈ whole, char.isDigit = true)
    (stops : ∀ char, rest.head? = some char → char.isDigit = false) :
    (whole ++ rest).takeWhile Char.isDigit = whole ∧
      (whole ++ rest).dropWhile Char.isDigit = rest := by
  rw [List.takeWhile_append_of_pos digit, List.dropWhile_append_of_pos digit]
  cases rest with
  | nil => simp
  | cons char others =>
      have other : ¬ char.isDigit = true := by simp [stops char rfl]
      rw [List.takeWhile_cons_of_neg other, List.dropWhile_cons_of_neg other,
        List.append_nil]
      exact ⟨rfl, rfl⟩

theorem head_of_isExponent {exponent : Text} (scaled : IsExponent exponent) :
    ∀ char, exponent.head? = some char → char = 'e' ∨ char = 'E' := by
  intro char first
  cases scaled with
  | absent => cases first
  | present marked signed digit => exact Option.some.inj first ▸ marked

theorem stops_exponent {exponent : Text} (scaled : IsExponent exponent) :
    ∀ char, exponent.head? = some char → char.isDigit = false := by
  intro char first
  rcases head_of_isExponent scaled char first with rfl | rfl <;> rfl

/-- Floating point numbers that do not begin with their point. -/
theorem isUnsignedFloat_iff {text : Text} (noPoint : text.head? ≠ some '.') :
    isUnsignedFloat text = true ↔
      ∃ whole fraction exponent, text = whole ++ (fraction ++ exponent) ∧
        IsDigits whole ∧ IsFraction fraction ∧ IsExponent exponent := by
  have digits (other : Text) :
      ∀ char ∈ other.takeWhile Char.isDigit, char.isDigit = true :=
    fun char member => List.mem_takeWhile_imp member
  constructor
  · intro accepted
    have split : text.takeWhile Char.isDigit ++ text.dropWhile Char.isDigit =
        text := List.takeWhile_append_dropWhile
    rw [isUnsignedFloat] at accepted
    split at accepted
    · next rest shape =>
        simp only [Bool.and_eq_true, isExponent_iff] at accepted
        have nonempty : text.takeWhile Char.isDigit ≠ [] := by
          intro none
          rw [none, List.nil_append, shape] at split
          exact noPoint (split ▸ rfl)
        refine ⟨text.takeWhile Char.isDigit,
          '.' :: rest.takeWhile Char.isDigit, rest.dropWhile Char.isDigit,
          ?_, ⟨nonempty, digits text⟩, .present (digits rest), accepted.2⟩
        rw [List.cons_append, List.takeWhile_append_dropWhile, ← shape, split]
    · next other =>
        simp only [Bool.and_eq_true, isExponent_iff] at accepted
        refine ⟨text.takeWhile Char.isDigit, [], text.dropWhile Char.isDigit,
          split.symm, ⟨?_, digits text⟩, .absent, accepted.2⟩
        simpa using accepted.1
  · rintro ⟨whole, fraction, exponent, rfl, digit, broken, scaled⟩
    have scale := isExponent_iff.mpr scaled
    have present : (!whole.isEmpty) = true := by simpa using digit.1
    cases broken with
    | absent =>
        have span := span_digits digit.2 (stops_exponent scaled)
        rw [List.nil_append, isUnsignedFloat, span.1, span.2]
        split
        · next rest =>
            rcases head_of_isExponent scaled '.' rfl with point | point <;>
              exact absurd point (by decide)
        · rw [present, scale]
          rfl
    | @present fractional fractionDigit =>
        have point (char : Char)
            (first : ('.' :: (fractional ++ exponent)).head? = some char) :
            char.isDigit = false :=
          Option.some.inj first ▸ rfl
        have span := span_digits digit.2 point
        have inner := span_digits fractionDigit (stops_exponent scaled)
        rw [List.cons_append, isUnsignedFloat, span.1, span.2, present]
        simp [inner.2, scale]

/-! ## Scalars that begin with a letter or a digit -/

theorem dropSign_of_isAlphanum {char : Char} {rest : Text}
    (alphanum : char.isAlphanum = true) :
    dropSign (char :: rest) = char :: rest := by
  unfold dropSign
  split
  · next shape =>
      cases (List.cons.inj shape).1
      exact absurd alphanum (by decide)
  · next shape =>
      cases (List.cons.inj shape).1
      exact absurd alphanum (by decide)
  · rfl

theorem isFloat_iff {char : Char} {rest : Text}
    (alphanum : char.isAlphanum = true) :
    isFloat (char :: rest) = true ↔
      ∃ whole fraction exponent,
        char :: rest = whole ++ (fraction ++ exponent) ∧
        IsDigits whole ∧ IsFraction fraction ∧ IsExponent exponent := by
  have other : char ≠ '.' := by
    rintro rfl
    exact absurd alphanum (by decide)
  have words (list : List Text)
      (pointed : ∀ word ∈ list, word.head? = some '.') :
      list.contains (char :: rest) = false := by
    rw [Bool.eq_false_iff, ne_eq, List.contains_iff_mem]
    exact fun member => other (Option.some.inj (pointed _ member))
  rw [isFloat, dropSign_of_isAlphanum alphanum, words _ (by decide),
    words _ (by decide), Bool.or_false, Bool.or_false]
  exact isUnsignedFloat_iff fun first => other (Option.some.inj first)

theorem isInt_iff {char : Char} {rest : Text}
    (alphanum : char.isAlphanum = true) :
    isInt (char :: rest) = true ↔
      IsDigits (char :: rest) ∨
      (∃ digits, char :: rest = '0' :: 'o' :: digits ∧ digits ≠ [] ∧
        ∀ digit ∈ digits, isOctDigit digit = true) ∨
      ∃ digits, char :: rest = '0' :: 'x' :: digits ∧ digits ≠ [] ∧
        ∀ digit ∈ digits, isHexDigit digit = true := by
  have notDigits (letter : Char) (digits : Text)
      (other : letter.isDigit = false) :
      ¬ IsDigits ('0' :: letter :: digits) := fun whole =>
    absurd (whole.2 letter (by simp)) (by simp [other])
  unfold isInt
  split
  · next digits shape =>
      rw [shape]
      simp [notDigits 'o' digits rfl, List.all_eq_true]
  · next digits shape =>
      rw [shape]
      simp [notDigits 'x' digits rfl, List.all_eq_true]
  · next notOctal notHexadecimal =>
      rw [dropSign_of_isAlphanum alphanum, isDigits_iff]
      refine ⟨.inl, ?_⟩
      rintro (digits | ⟨digits, shape, -⟩ | ⟨digits, shape, -⟩)
      · exact digits
      · exact (notOctal digits shape).elim
      · exact (notHexadecimal digits shape).elim

/-- A number is what the grammar derives. -/
theorem isNumeral_iff {char : Char} {rest : Text}
    (alphanum : char.isAlphanum = true) :
    IsNumeral (char :: rest) ↔
      isInt (char :: rest) = true ∨ isFloat (char :: rest) = true := by
  rw [isInt_iff alphanum, isFloat_iff alphanum]
  constructor
  · intro numeral
    generalize whole : char :: rest = text at numeral
    cases numeral with
    | decimal digit broken scaled =>
        exact .inr ⟨_, _, _, rfl, digit, broken, scaled⟩
    | octal nonempty digit =>
        exact .inl (.inr (.inl ⟨_, rfl, nonempty, digit⟩))
    | hexadecimal nonempty digit =>
        exact .inl (.inr (.inr ⟨_, rfl, nonempty, digit⟩))
  · rintro ((digits | ⟨digits, shape, nonempty, digit⟩ |
      ⟨digits, shape, nonempty, digit⟩) |
      ⟨whole, fraction, exponent, shape, digit, broken, scaled⟩)
    · have numeral := IsNumeral.decimal digits .absent .absent
      rwa [List.append_nil, List.append_nil] at numeral
    · exact shape ▸ .octal nonempty digit
    · exact shape ▸ .hexadecimal nonempty digit
    · exact shape ▸ .decimal digit broken scaled

theorem isInk_of_isAlphanum {char : Char}
    (alphanum : char.isAlphanum = true) : isInk char = true := by
  have between (low high : UInt32) (above : 0x21 ≤ low.toNat)
      (within : high.toNat ≤ 0x7E)
      (range : low ≤ char.val ∧ char.val ≤ high) : isInk char = true := by
    have first : 0x21 ≤ char.toNat :=
      le_trans above (UInt32.le_iff_toNat_le.mp range.1)
    have last : char.toNat ≤ 0x7E :=
      le_trans (UInt32.le_iff_toNat_le.mp range.2) within
    simp [isInk, first, last]
  rcases Bool.or_eq_true_iff.mp alphanum with letter | digit
  · rcases Bool.or_eq_true_iff.mp letter with upper | lower
    · exact between 65 90 (by decide) (by decide) (of_decide_eq_true upper)
    · rcases Bool.and_eq_true_iff.mp lower with ⟨low, high⟩
      exact between 97 122 (by decide) (by decide)
        ⟨of_decide_eq_true low, of_decide_eq_true high⟩
  · rcases Bool.and_eq_true_iff.mp digit with ⟨low, high⟩
    exact between 48 57 (by decide) (by decide)
      ⟨of_decide_eq_true low, of_decide_eq_true high⟩

theorem isIndicator_of_isAlphanum {char : Char}
    (alphanum : char.isAlphanum = true) : isIndicator char = false := by
  have indicators : "-?:,[]\x7b\x7d#&*!|>'\"%@\x60".toList.all
      (!·.isAlphanum) = true := by
    decide
  rw [isIndicator, Bool.eq_false_iff, ne_eq, List.contains_iff_mem]
  intro member
  have other := List.all_eq_true.mp indicators char member
  simp [alphanum] at other

theorem isPlainRest_of_isInk {first : Char} {rest : Text}
    (ink : ∀ char ∈ first :: rest, isInk char = true)
    (last : (first :: rest).getLast? ≠ some ':') :
    isPlainRest first rest = true := by
  have noSpace (char : Char) (black : isInk char = true) : char ≠ ' ' := by
    rintro rfl
    exact absurd black (by decide)
  induction rest generalizing first with
  | nil =>
      have colon : first ≠ ':' := fun colon => last (by rw [colon]; rfl)
      simp [isPlainRest, colon, noSpace first (ink first (by simp))]
  | cons next others induction =>
      rw [List.forall_mem_cons] at ink
      rw [List.getLast?_cons_cons] at last
      have black := ink.2 next List.mem_cons_self
      simp [isPlainRest, black, noSpace next black, noSpace first ink.1,
        induction ink.2 last]

/-- A text without white space is plain, unless a colon ends it. -/
theorem isPlain_of_isInk {first : Char} {rest : Text}
    (alphanum : first.isAlphanum = true)
    (ink : ∀ char ∈ rest, isInk char = true)
    (last : (first :: rest).getLast? ≠ some ':') :
    isPlain (first :: rest) = true := by
  have black := isInk_of_isAlphanum alphanum
  have plain := isPlainRest_of_isInk (List.forall_mem_cons.mpr ⟨black, ink⟩)
    last
  have inert := isIndicator_of_isAlphanum alphanum
  have front : isPlainFirst (first :: rest) = true := by
    rw [isPlainFirst]
    split
    · next leading =>
        simp only [Bool.or_eq_true, beq_iff_eq] at leading
        rcases leading with (rfl | rfl) | rfl <;>
          exact absurd alphanum (by decide)
    · simp [black, inert]
  rw [isPlain, front]
  simpa using plain

/-- A scalar stands for itself if it is neither a word nor a number. -/
theorem resolve_eq_str_iff {char : Char} {rest : Text}
    (alphanum : char.isAlphanum = true) :
    resolve (char :: rest) = .str (char :: rest) ↔
      ¬ IsReserved (char :: rest) := by
  rw [IsReserved, isNumeral_iff alphanum, List.mem_append, List.mem_append]
  simp only [resolve, List.contains_iff_mem]
  split
  · next word => simp [word]
  · split
    · next word => simp [word]
    · split
      · next word => simp [word]
      · split
        · next number => simp [number]
        · split
          · next number => simp [number]
          · simp [*]

end KubectlSshuttle.Lib.Yaml
