import KubectlSshuttle.Lib.RustText

/-!
# How a POSIX shell reads a simple command

A shell cuts a command text into words, one character after the other: blanks
end a word, quotes and backslashes protect characters, operators end the
command, and a number sign in front of a word starts a comment.  The words are
then expanded, and what is left of them is the argument vector.

What the result depends on besides the text (variables, the output of other
commands, home directories, the files at hand) is an environment.
-/

namespace KubectlSshuttle.Lib.Shell

open KubectlSshuttle.Lib.RustText

/-! ## Characters -/

/-- Space and tab separate words. -/
def isBlank (char : Char) : Bool :=
  char == ' ' || char == '\t'

/-- The characters that operators are made of, and the end of a line. -/
def isOperator (char : Char) : Bool :=
  "\n;&|<>()".toList.contains char

/-- What the quoting characters are. -/
def isQuoting (char : Char) : Bool :=
  "\\'\"".toList.contains char

/-- What a dollar sign has to be followed by to start an expansion. -/
def startsExpansion (char : Char) : Bool :=
  char.isAlphanum || "_@*#?$!-\x7b(".toList.contains char

/-- An expansion of a variable or a command starts here. -/
def isExpansion (char : Char) (next : Option Char) : Bool :=
  char == '`' || (char == '$' && next.any startsExpansion)

/-- What a backslash protects between double quotes. -/
def isEscapable (char : Char) : Bool :=
  "$`\"\\\n".toList.contains char

/-! ## Cutting a text into words -/

/-- A character of a word, and whether it is quoted. -/
structure WordChar where
  char : Char
  quoted : Bool
deriving DecidableEq

/-- A word remembers which of its characters were quoted. -/
abbrev Word := List WordChar

/-- The word without its quoting. -/
def Word.text (word : Word) : Text :=
  word.map WordChar.char

/-- A word of which nothing is quoted. -/
def bare (text : Text) : Word :=
  text.map fun char => ⟨char, false⟩

/-- Where the shell stands in the text. -/
inductive Mode where
  | between
  | word
  /-- behind a backslash, within a word or between words -/
  | escaped (started : Bool)
  | single
  | double
  | doubleEscaped
  | comment
deriving DecidableEq

/-- Why a text is not cut into words. -/
inductive Trouble where
  /-- it is not one simple command on one line -/
  | notSimple
  /-- a quotation does not end -/
  | unfinished
  /-- it has expansions of variables or commands -/
  | expansions
deriving DecidableEq

/-- What the shell does with one character. -/
inductive Action where
  | keep (quoted : Bool) (after : Mode)
  | drop (after : Mode)
  /-- the word ends, and the character is dropped -/
  | cut
  | fail (trouble : Trouble)
deriving DecidableEq

/-- A character without quotes around it that is not a blank. -/
def unquoted (started : Bool) (char : Char) (next : Option Char) : Action :=
  if isOperator char then .fail .notSimple
  else if char = '\\' then .drop (.escaped started)
  else if char = '\'' then .drop .single
  else if char = '"' then .drop .double
  else if isExpansion char next then .fail .expansions
  else .keep false .word

/-- What one character does, given the one behind it. -/
def step (mode : Mode) (char : Char) (next : Option Char) : Action :=
  match mode with
  | .between =>
      if isBlank char then .drop .between
      else if char = '#' then .drop .comment
      else unquoted false char next
  | .word => if isBlank char then .cut else unquoted true char next
  | .escaped started =>
      -- a protected line feed joins the lines
      if char = '\n' then .drop (if started then .word else .between)
      else .keep true .word
  | .single => if char = '\'' then .drop .word else .keep true .single
  | .double =>
      if char = '"' then .drop .word
      else if char = '\\' ∧ next.any isEscapable then .drop .doubleEscaped
      else if isExpansion char next then .fail .expansions
      else .keep true .double
  | .doubleEscaped =>
      if char = '\n' then .drop .double else .keep true .double
  | .comment => if char = '\n' then .fail .notSimple else .drop .comment

/-- Put a character in front of the first word. -/
def push (char : WordChar) : List Word → List Word
  | [] => [[char]]
  | word :: words => (char :: word) :: words

/-- What a text that ends there leaves of the words. -/
def finish : Mode → Except Trouble (List Word)
  | .between | .comment => .ok []
  | .word => .ok [[]]
  | .escaped _ | .single | .double | .doubleEscaped => .error .unfinished

/-- The words of a text; the first is the rest of the one it starts in. -/
def lex (mode : Mode) : Text → Except Trouble (List Word)
  | [] => finish mode
  | char :: rest =>
      match step mode char rest.head? with
      | .keep quoted after => (lex after rest).map (push ⟨char, quoted⟩)
      | .drop after => lex after rest
      | .cut => (lex .between rest).map ([] :: ·)
      | .fail trouble => .error trouble

/-! ## Expanding the words -/

/-- What the reading of a text depends on. -/
structure Environment where
  /-- what becomes of a text with expansions of variables or commands -/
  expanded : Text → Option (List Text)
  /-- the home directory of a user; the own one for the empty name -/
  home : Text → Option Text
  /-- the file names that match a pattern -/
  pathnames : Word → List Text

/-- A slash that was not quoted. -/
def isSlash (char : WordChar) : Bool :=
  char == ⟨'/', false⟩

/-- A tilde in front of an unquoted login name stands for a directory. -/
def expandTilde (home : Text → Option Text) : Word → Word
  | [] => []
  | first :: rest =>
      let login := rest.takeWhile fun char => !isSlash char
      if first = ⟨'~', false⟩ ∧ ¬ login.any WordChar.quoted then
        match home (Word.text login) with
        | none => first :: rest
        | some directory =>
            directory.map (fun char => ⟨char, true⟩) ++
              rest.drop login.length
      else first :: rest

/-- A bracket is closed before a slash, with a character in between. -/
def closesBracket (rest : Word) : Bool :=
  let body :=
    match rest with
    | ⟨'!', false⟩ :: body => body
    | body => body
  ((body.takeWhile fun char => !isSlash char).drop 1).contains ⟨']', false⟩

/-- The word is a pattern for file names. -/
def isPattern : Word → Bool
  | [] => false
  | char :: rest =>
      (char == ⟨'*', false⟩ || char == ⟨'?', false⟩ ||
        (char == ⟨'[', false⟩ && closesBracket rest)) || isPattern rest

/-- A pattern without a match stands for itself. -/
def expandWord (environment : Environment) (word : Word) : List Text :=
  let word := expandTilde environment.home word
  if isPattern word then
    match environment.pathnames word with
    | [] => [word.text]
    | names => names
  else [word.text]

/--
The argument vector of the program that a command text runs; `none` where the
text is no simple command on a line.  The first word is taken for the name of a
program; reserved words and assignments are not looked for.
-/
def argumentVector (environment : Environment) (command : Text) :
    Option (List Text) :=
  match lex .between command with
  | .ok words => some (words.flatMap (expandWord environment))
  | .error .expansions => environment.expanded command
  | .error _ => none

/-! ## What a step does -/

section Steps

variable {mode after : Mode} {char : Char} {next : Option Char}
  {started quoted : Bool}

theorem unquoted_eq_keep (kept : unquoted started char next =
    .keep quoted after) :
    quoted = false ∧ after = .word ∧ isOperator char = false ∧
      isQuoting char = false ∧ isExpansion char next = false := by
  unfold unquoted at kept
  split at kept
  · cases kept
  · next operator =>
      split at kept
      · cases kept
      · next backslash =>
          split at kept
          · cases kept
          · next single =>
              split at kept
              · cases kept
              · next double =>
                  split at kept
                  · cases kept
                  · next expansion =>
                      cases kept
                      refine ⟨rfl, rfl, by simpa using operator, ?_,
                        by simpa using expansion⟩
                      simp [isQuoting, backslash, single, double]

theorem unquoted_of_plain (operator : isOperator char = false)
    (quoting : isQuoting char = false)
    (expansion : isExpansion char next = false) :
    unquoted started char next = .keep false .word := by
  simp only [isQuoting, List.contains_eq_mem, decide_eq_false_iff_not]
    at quoting
  have apart : ¬ char = '\\' ∧ ¬ char = '\'' ∧ ¬ char = '"' := by
    refine ⟨?_, ?_, ?_⟩ <;> rintro rfl <;> exact quoting (by decide)
  simp [unquoted, operator, expansion, apart]

/-- Only quoting characters are dropped outside blanks and comments. -/
theorem unquoted_eq_drop (dropped : unquoted started char next =
    .drop after) : after ≠ .comment ∧ isQuoting char = true := by
  unfold unquoted at dropped
  split at dropped
  · cases dropped
  · split at dropped
    · next backslash =>
        cases dropped
        exact ⟨Mode.noConfusion, by rw [backslash]; decide⟩
    · split at dropped
      · next single =>
          cases dropped
          exact ⟨Mode.noConfusion, by rw [single]; decide⟩
      · split at dropped
        · next double =>
            cases dropped
            exact ⟨Mode.noConfusion, by rw [double]; decide⟩
        · split at dropped <;> cases dropped

theorem unquoted_ne_cut : unquoted started char next ≠ .cut := by
  unfold unquoted
  split_ifs <;> simp

/-- Outside comments, what is dropped opens a comment, or has a purpose. -/
theorem step_eq_drop (outside : mode ≠ .comment)
    (drops : step mode char next = .drop after) :
    (after = .comment ∧ char = '#') ∨
      (after ≠ .comment ∧ (isBlank char = true ∨ isQuoting char = true ∨
        char = '\n')) := by
  cases mode with
  | between =>
      simp only [step] at drops
      split at drops
      · next blank =>
          cases drops
          exact .inr ⟨Mode.noConfusion, .inl blank⟩
      · split at drops
        · next sign =>
            cases drops
            exact .inl ⟨rfl, sign⟩
        · rcases unquoted_eq_drop drops with ⟨apart, quoting⟩
          exact .inr ⟨apart, .inr (.inl quoting)⟩
  | word =>
      simp only [step] at drops
      split at drops
      · cases drops
      · rcases unquoted_eq_drop drops with ⟨apart, quoting⟩
        exact .inr ⟨apart, .inr (.inl quoting)⟩
  | escaped started =>
      simp only [step] at drops
      split at drops
      · next newline =>
          cases drops
          refine .inr ⟨?_, .inr (.inr newline)⟩
          cases started <;> exact Mode.noConfusion
      · cases drops
  | single =>
      simp only [step] at drops
      split at drops
      · next quote =>
          cases drops
          exact .inr ⟨Mode.noConfusion, .inr (.inl (by rw [quote]; decide))⟩
      · cases drops
  | double =>
      simp only [step] at drops
      split at drops
      · next quote =>
          cases drops
          exact .inr ⟨Mode.noConfusion, .inr (.inl (by rw [quote]; decide))⟩
      · split at drops
        · next backslash =>
            cases drops
            exact .inr ⟨Mode.noConfusion,
              .inr (.inl (by rw [backslash.1]; decide))⟩
        · split at drops <;> cases drops
  | doubleEscaped =>
      simp only [step] at drops
      split at drops
      · next newline =>
          cases drops
          exact .inr ⟨Mode.noConfusion, .inr (.inr newline)⟩
      · cases drops
  | comment => exact (outside rfl).elim

/-- Only a blank ends a word. -/
theorem step_eq_cut (cuts : step mode char next = .cut) :
    mode = .word ∧ isBlank char = true := by
  cases mode with
  | word =>
      simp only [step] at cuts
      split at cuts
      · next blank => exact ⟨rfl, blank⟩
      · exact (unquoted_ne_cut cuts).elim
  | between =>
      simp only [step] at cuts
      split_ifs at cuts
      exact (unquoted_ne_cut cuts).elim
  | _ =>
      simp only [step] at cuts
      split_ifs at cuts

/-- A character that is kept leads into a word. -/
theorem step_eq_keep (keeps : step mode char next = .keep quoted after) :
    mode ≠ .comment ∧ after ≠ .comment := by
  cases mode with
  | between =>
      simp only [step] at keeps
      split_ifs at keeps
      rw [(unquoted_eq_keep keeps).2.1]
      exact ⟨Mode.noConfusion, Mode.noConfusion⟩
  | word =>
      simp only [step] at keeps
      split_ifs at keeps
      rw [(unquoted_eq_keep keeps).2.1]
      exact ⟨Mode.noConfusion, Mode.noConfusion⟩
  | comment =>
      simp only [step] at keeps
      split_ifs at keeps
  | _ =>
      simp only [step] at keeps
      split_ifs at keeps
      all_goals
        cases keeps
        exact ⟨Mode.noConfusion, Mode.noConfusion⟩

end Steps

/-! ## The characters that are dropped -/

/-- The characters of a text that reach no word. -/
def dropped (mode : Mode) : Text → Text
  | [] => []
  | char :: rest =>
      match step mode char rest.head? with
      | .keep _ after => dropped after rest
      | .drop after => char :: dropped after rest
      | .cut => char :: dropped .between rest
      | .fail _ => []

/-- The characters of all words. -/
def letters (words : List Word) : Text :=
  words.flatMap Word.text

theorem letters_push (char : WordChar) (words : List Word) :
    letters (push char words) = char.char :: letters words := by
  cases words <;> rfl

section Dropped

variable {mode : Mode} {text : Text} {words : List Word}

theorem ok_of_map {Value Other : Type} {change : Value → Other}
    {result : Except Trouble Value} {other : Other}
    (mapped : result.map change = .ok other) :
    ∃ value, result = .ok value ∧ change value = other := by
  cases result with
  | error trouble => cases mapped
  | ok value => exact ⟨value, rfl, Except.ok.inj mapped⟩

/-- Every character of the text is dropped, or one of a word. -/
theorem perm_of_lex (read : lex mode text = .ok words) :
    text.Perm (dropped mode text ++ letters words) := by
  induction text generalizing mode words with
  | nil =>
      cases mode <;> simp only [lex, finish] at read <;> cases read <;> rfl
  | cons char rest induction =>
      rw [lex] at read
      rw [dropped]
      split at read
      · next quoted after keeps =>
          rcases ok_of_map read with ⟨others, later, rfl⟩
          rw [letters_push]
          exact ((induction later).cons char).trans List.perm_middle.symm
      · next after drops => exact (induction read).cons char
      · next cuts =>
          rcases ok_of_map read with ⟨others, later, rfl⟩
          exact (induction later).cons char
      · cases read

/-- Any other character than these is dropped only in a comment. -/
structure Ordinary (char : Char) : Prop where
  blank : isBlank char = false
  quoting : isQuoting char = false
  newline : char ≠ '\n'

theorem sign_of_dropped (read : lex mode text = .ok words)
    (outside : mode ≠ .comment) {char : Char} (ordinary : Ordinary char)
    (lost : char ∈ dropped mode text) : '#' ∈ dropped mode text := by
  induction text generalizing mode words with
  | nil => cases lost
  | cons first rest induction =>
      rw [lex] at read
      rw [dropped] at lost ⊢
      cases action : step mode first rest.head? with
      | keep quoted after =>
          rw [action] at read lost
          rcases ok_of_map read with ⟨others, later, rfl⟩
          exact induction later (step_eq_keep action).2 lost
      | drop after =>
          rw [action] at read lost
          rcases step_eq_drop outside action with
            ⟨_, rfl⟩ | ⟨apart, purpose⟩
          · exact List.mem_cons_self
          · rcases List.mem_cons.mp lost with rfl | later
            · rcases purpose with blank | quoting | newline
              · exact absurd blank (by simp [ordinary.blank])
              · exact absurd quoting (by simp [ordinary.quoting])
              · exact (ordinary.newline newline).elim
            · exact List.mem_cons_of_mem _ (induction read apart later)
      | cut =>
          rw [action] at read lost
          rcases ok_of_map read with ⟨others, later, rfl⟩
          rcases List.mem_cons.mp lost with rfl | within
          · have blank := (step_eq_cut action).2
            exact absurd blank (by simp [ordinary.blank])
          · exact List.mem_cons_of_mem _
              (induction later Mode.noConfusion within)
      | fail trouble =>
          rw [action] at lost
          cases lost

end Dropped

/-! ## Words without quotes -/

/-- Nothing in the word, up to its end, is special to the shell. -/
def isRawTail : Text → Bool
  | [] => true
  | char :: rest =>
      !isBlank char && !isOperator char && !isQuoting char &&
        !isExpansion char rest.head? && isRawTail rest

/-- A word that the shell cuts out as it is. -/
structure IsRaw (word : Text) : Prop where
  nonempty : word ≠ []
  tail : isRawTail word = true
  start : word.head? ≠ some '#'

theorem isRaw_iff {word : Text} :
    IsRaw word ↔ word ≠ [] ∧ isRawTail word = true ∧
      word.head? ≠ some '#' := by
  constructor
  · exact fun raw => ⟨raw.nonempty, raw.tail, raw.start⟩
  · rintro ⟨nonempty, tail, start⟩
    exact ⟨nonempty, tail, start⟩

instance (word : Text) : Decidable (IsRaw word) :=
  decidable_of_iff _ isRaw_iff.symm

section Raw

variable {word rest : Text} {words : List Word}

theorem isExpansion_of_blank {char separator : Char}
    (blank : isBlank separator = true)
    (inert : isExpansion char none = false) :
    isExpansion char (some separator) = false := by
  simp only [isBlank, Bool.or_eq_true, beq_iff_eq] at blank
  simp only [isExpansion, Option.any_none, Bool.and_false,
    Bool.or_false] at inert
  rcases blank with rfl | rfl
  · simp [isExpansion, inert, show startsExpansion ' ' = false by decide]
  · simp [isExpansion, inert, show startsExpansion '\t' = false by decide]

theorem isRawTail_cons {char : Char} :
    isRawTail (char :: rest) = true ↔
      isBlank char = false ∧ isOperator char = false ∧
        isQuoting char = false ∧ isExpansion char rest.head? = false ∧
          isRawTail rest = true := by
  simp [isRawTail, and_assoc]

theorem step_word_of_plain {char : Char} {next : Option Char}
    (blank : isBlank char = false) (operator : isOperator char = false)
    (quoting : isQuoting char = false)
    (expansion : isExpansion char next = false) :
    step .word char next = .keep false .word := by
  rw [step, blank]
  exact unquoted_of_plain operator quoting expansion

/-- A raw word at the end of the text. -/
theorem lex_word_end (raw : isRawTail word = true) :
    lex .word word = .ok [bare word] := by
  induction word with
  | nil => rfl
  | cons char rest induction =>
      rcases isRawTail_cons.mp raw with
        ⟨blank, operator, quoting, expansion, later⟩
      rw [lex, step_word_of_plain blank operator quoting expansion]
      dsimp only
      rw [induction later]
      rfl

/-- What follows a raw word does not make an expansion of its end. -/
theorem isExpansion_append {char separator : Char}
    (blank : isBlank separator = true)
    (inert : isExpansion char word.head? = false) :
    isExpansion char (word ++ separator :: rest).head? = false := by
  cases word with
  | nil => exact isExpansion_of_blank blank inert
  | cons next others => exact inert

/-- A raw word in front of a blank. -/
theorem lex_word_blank (raw : isRawTail word = true) {separator : Char}
    (isSeparator : isBlank separator = true)
    (read : lex .between rest = .ok words) :
    lex .word (word ++ separator :: rest) = .ok (bare word :: words) := by
  induction word with
  | nil =>
      have cuts : step .word separator rest.head? = .cut :=
        if_pos isSeparator
      rw [List.nil_append, lex, cuts]
      dsimp only
      rw [read]
      rfl
  | cons char others induction =>
      rcases isRawTail_cons.mp raw with
        ⟨blank, operator, quoting, expansion, later⟩
      rw [List.cons_append, lex, step_word_of_plain blank operator quoting
        (isExpansion_append isSeparator expansion)]
      dsimp only
      rw [induction later]
      rfl

/-- A word starts with a character that it could go on with. -/
theorem lex_between_eq {char : Char} (blank : isBlank char = false)
    (sign : char ≠ '#') (operator : isOperator char = false)
    (quoting : isQuoting char = false)
    (expansion : isExpansion char rest.head? = false) :
    lex .between (char :: rest) = lex .word (char :: rest) := by
  have starts : step .between char rest.head? = .keep false .word := by
    rw [step, if_neg (by simp [blank]), if_neg sign]
    exact unquoted_of_plain operator quoting expansion
  rw [lex, lex, starts,
    step_word_of_plain blank operator quoting expansion]

/-- Cutting out a raw word begins like going on with it. -/
theorem IsRaw.lex_start (raw : IsRaw word) {behind : Text}
    (ends : ∀ separator ∈ behind.head?, isBlank separator = true) :
    lex .between (word ++ behind) = lex .word (word ++ behind) := by
  cases word with
  | nil => exact (raw.nonempty rfl).elim
  | cons char others =>
      rcases isRawTail_cons.mp raw.tail with
        ⟨blank, operator, quoting, expansion, _⟩
      have sign : char ≠ '#' := fun same =>
        raw.start (congrArg some same)
      refine lex_between_eq blank sign operator quoting ?_
      cases behind with
      | nil => rwa [← List.append_nil others] at expansion
      | cons separator rest =>
          exact isExpansion_append (ends separator rfl) expansion

theorem IsRaw.lex_end (raw : IsRaw word) :
    lex .between word = .ok [bare word] := by
  have start : lex .between (word ++ []) = lex .word (word ++ []) :=
    raw.lex_start fun separator found => by cases found
  rw [List.append_nil] at start
  exact start.trans (lex_word_end raw.tail)

theorem IsRaw.lex_blank (raw : IsRaw word) {separator : Char}
    (isSeparator : isBlank separator = true)
    (read : lex .between rest = .ok words) :
    lex .between (word ++ separator :: rest) =
      .ok (bare word :: words) := by
  rw [raw.lex_start (by simpa using isSeparator)]
  exact lex_word_blank raw.tail isSeparator read

/-- The character is never special, whatever follows it. -/
def isInert (char : Char) : Bool :=
  !isBlank char && !isOperator char && !isQuoting char &&
    !"`$*?[".toList.contains char

/-- Inert characters in front make no difference. -/
theorem isRawTail_append {front : Text} (inert : front.all isInert = true) :
    isRawTail (front ++ word) = isRawTail word := by
  induction front with
  | nil => rfl
  | cons char others induction =>
      rw [List.all_cons, Bool.and_eq_true] at inert
      simp only [isInert, Bool.and_eq_true, Bool.not_eq_true'] at inert
      rcases inert.1 with ⟨⟨⟨blank, operator⟩, quoting⟩, special⟩
      have apart : char ≠ '`' ∧ char ≠ '$' := by
        constructor <;> rintro rfl <;> exact absurd special (by decide)
      rw [List.cons_append, isRawTail, induction inert.2]
      simp [blank, operator, quoting, isExpansion, apart]

theorem isPattern_append {front : Text} (inert : front.all isInert = true) :
    isPattern (bare (front ++ word)) = isPattern (bare word) := by
  induction front with
  | nil => rfl
  | cons char others induction =>
      rw [List.all_cons, Bool.and_eq_true] at inert
      simp only [isInert, Bool.and_eq_true, Bool.not_eq_true'] at inert
      have apart : char ≠ '*' ∧ char ≠ '?' ∧ char ≠ '[' := by
        refine ⟨?_, ?_, ?_⟩ <;> rintro rfl <;>
          exact absurd inert.1.2 (by decide)
      have first : bare (char :: others ++ word) =
          ⟨char, false⟩ :: bare (others ++ word) := rfl
      rw [first, isPattern, induction inert.2]
      simp [apart]

/-! ## Words that are joined -/

/-- Words with a space between them. -/
def join (words : List Text) : Text :=
  " ".toList.intercalate words

theorem join_cons_cons (first second : Text) (others : List Text) :
    join (first :: second :: others) =
      first ++ ' ' :: join (second :: others) := by
  simp [join, List.intercalate]

/-- Raw words are cut apart again. -/
theorem lex_join {words : List Text} (raw : ∀ word ∈ words, IsRaw word) :
    lex .between (join words) = .ok (words.map bare) := by
  induction words with
  | nil => rfl
  | cons first others induction =>
      have firstRaw := raw first List.mem_cons_self
      cases others with
      | nil =>
          have single : join [first] = first := by
            simp [join, List.intercalate]
          rw [single]
          exact firstRaw.lex_end
      | cons second others =>
          rw [join_cons_cons]
          exact firstRaw.lex_blank rfl (induction fun word member =>
            raw word (List.mem_cons_of_mem _ member))

/-- Joining adds spaces only. -/
theorem count_join {char : Char} (apart : char ≠ ' ')
    (words : List Text) :
    (join words).count char = words.flatten.count char := by
  induction words with
  | nil => rfl
  | cons first others induction =>
      cases others with
      | nil => simp [join, List.intercalate]
      | cons second others =>
          rw [join_cons_cons, List.count_append,
            List.count_cons_of_ne apart.symm, induction,
            ← List.count_append]
          rfl

/-- Besides the spaces, the shell drops what it puts into no word. -/
theorem count_dropped_join {words : List Text} {found : List Word}
    {char : Char} (read : lex .between (join words) = .ok found)
    (apart : char ≠ ' ') :
    (dropped .between (join words)).count char +
        (found.map Word.text).flatten.count char =
      words.flatten.count char := by
  rw [← count_join apart words, (perm_of_lex read).count_eq char,
    List.count_append, letters, List.flatMap_def]

/-! ## Only raw words lose nothing but spaces -/

/-- The words are what raw words are read as. -/
def AllRaw (words : List Word) : Prop :=
  ∀ word ∈ words, ∃ raw, IsRaw raw ∧ word = bare raw

theorem isExpansion_shorter {char : Char} {short : Text}
    (front : short <+: rest) (inert : isExpansion char rest.head? = false) :
    isExpansion char short.head? = false := by
  cases short with
  | nil =>
      simp only [isExpansion, Bool.or_eq_false_iff] at inert
      simp [isExpansion, inert.1]
  | cons next others =>
      rcases front with ⟨more, rfl⟩
      exact inert

/-- The first word, read on from within, is raw as far as it goes. -/
structure RawFrom (text : Text) (words : List Word) (word : Text)
    (others : List Word) : Prop where
  shape : words = bare word :: others
  tail : isRawTail word = true
  front : word <+: text
  later : AllRaw others

/-- One more character of a word that is kept without quotes. -/
theorem RawFrom.cons {char : Char} {others : List Word}
    (raw : RawFrom rest words word others)
    (blank : isBlank char = false) (operator : isOperator char = false)
    (quoting : isQuoting char = false)
    (expansion : isExpansion char rest.head? = false) :
    RawFrom (char :: rest) (push ⟨char, false⟩ words) (char :: word)
      others where
  shape := by
    rw [raw.shape]
    rfl
  tail := isRawTail_cons.mpr ⟨blank, operator, quoting,
    isExpansion_shorter raw.front expansion, raw.tail⟩
  front := List.cons_prefix_cons.mpr ⟨rfl, raw.front⟩
  later := raw.later

/-- From within a word, a reading that drops only spaces is raw. -/
def RawWithin (text : Text) : Prop :=
  ∀ words, lex .word text = .ok words →
    (∀ char ∈ dropped .word text, char = ' ') →
      ∃ word others, RawFrom text words word others

/-- A word that goes on with a character kept without quotes. -/
theorem RawWithin.keep {char : Char} {started quoted : Bool} {after : Mode}
    (within : RawWithin rest) (blank : ¬ isBlank char = true)
    (kept : unquoted started char rest.head? = .keep quoted after)
    (read : (lex after rest).map (push ⟨char, quoted⟩) = .ok words)
    (spaces : ∀ char ∈ dropped after rest, char = ' ') :
    ∃ word others, RawFrom (char :: rest) words (char :: word) others := by
  rw [Bool.not_eq_true] at blank
  rcases unquoted_eq_keep kept with
    ⟨rfl, rfl, operator, quoting, expansion⟩
  rcases ok_of_map read with ⟨others, later, rfl⟩
  rcases within others later spaces with ⟨word, more, raw⟩
  exact ⟨word, more, raw.cons blank operator quoting expansion⟩

/-- The induction is on the text, for both places where a word can start. -/
theorem raw_of_dropped (text : Text) :
    RawWithin text ∧
      ∀ words, lex .between text = .ok words →
        (∀ char ∈ dropped .between text, char = ' ') → AllRaw words := by
  induction text with
  | nil =>
      refine ⟨fun words read _ => ⟨[], [], ?_⟩, fun words read _ => ?_⟩
      · rcases Except.ok.inj read with rfl
        exact ⟨rfl, rfl, List.prefix_refl _, fun word member => by cases member⟩
      · rcases Except.ok.inj read with rfl
        exact fun word member => by cases member
  | cons char rest induction =>
      rcases induction with ⟨within, outside⟩
      constructor
      · intro words read spaces
        rw [lex] at read
        rw [dropped] at spaces
        cases action : step .word char rest.head? with
        | keep quoted after =>
            rw [action] at read spaces
            simp only [step] at action
            split at action
            · cases action
            · next blank =>
                rcases within.keep blank action read spaces with
                  ⟨word, others, raw⟩
                exact ⟨_, _, raw⟩
        | drop after =>
            rw [action] at spaces
            have space := spaces char List.mem_cons_self
            subst space
            cases action
        | cut =>
            rw [action] at read spaces
            rcases ok_of_map read with ⟨others, later, rfl⟩
            have more := outside others later fun char member =>
              spaces char (List.mem_cons_of_mem _ member)
            exact ⟨[], others, rfl, rfl, List.nil_prefix, more⟩
        | fail trouble =>
            rw [action] at read
            cases read
      · intro words read spaces
        rw [lex] at read
        rw [dropped] at spaces
        cases action : step .between char rest.head? with
        | keep quoted after =>
            rw [action] at read spaces
            simp only [step] at action
            split at action
            · cases action
            · next blank =>
                split at action
                · cases action
                · next sign =>
                    rcases within.keep blank action read spaces with
                      ⟨word, others, raw⟩
                    rw [raw.shape]
                    intro other member
                    rcases List.mem_cons.mp member with rfl | member
                    · refine ⟨_, ⟨List.cons_ne_nil _ _, raw.tail, ?_⟩, rfl⟩
                      simpa using sign
                    · exact raw.later other member
        | drop after =>
            rw [action] at read spaces
            have space := spaces char List.mem_cons_self
            subst space
            cases action
            exact outside words read fun char member =>
              spaces char (List.mem_cons_of_mem _ member)
        | cut => exact Mode.noConfusion (step_eq_cut action).1
        | fail trouble =>
            rw [action] at read
            cases read

theorem text_bare (text : Text) : (bare text).text = text := by
  simp [bare, Word.text, Function.comp_def]

/-- Joined words are read back exactly if they are raw. -/
theorem lex_join_iff {words : List Text} :
    (lex .between (join words)).map (List.map Word.text) = .ok words ↔
      ∀ word ∈ words, IsRaw word := by
  constructor
  · intro read
    rcases ok_of_map read with ⟨found, read, same⟩
    have spaces : ∀ char ∈ dropped .between (join words), char = ' ' := by
      intro char lost
      by_contra apart
      have counted := count_dropped_join read apart
      rw [same] at counted
      have positive := List.count_pos_iff.mpr lost
      omega
    have raw := (raw_of_dropped _).2 found read spaces
    intro word member
    rw [← same] at member
    rcases List.mem_map.mp member with ⟨_, inFound, rfl⟩
    rcases raw _ inFound with ⟨word, isRaw, rfl⟩
    rw [text_bare]
    exact isRaw
  · intro raw
    rw [lex_join raw]
    simp [Except.map, Function.comp_def, text_bare]

end Raw

/-! ## Words that are not expanded -/

/-- The word, without quotes, is neither a home directory nor a pattern. -/
structure Unexpanded (word : Text) : Prop where
  tilde : word.head? ≠ some '~'
  pattern : isPattern (bare word) = false

theorem unexpanded_iff {word : Text} :
    Unexpanded word ↔ word.head? ≠ some '~' ∧
      isPattern (bare word) = false := by
  constructor
  · exact fun unexpanded => ⟨unexpanded.tilde, unexpanded.pattern⟩
  · rintro ⟨tilde, pattern⟩
    exact ⟨tilde, pattern⟩

instance (word : Text) : Decidable (Unexpanded word) :=
  decidable_of_iff _ unexpanded_iff.symm

section Expansion

variable {word : Text} {words : List Text}

theorem expandTilde_bare (home : Text → Option Text)
    (tilde : word.head? ≠ some '~') :
    expandTilde home (bare word) = bare word := by
  cases word with
  | nil => rfl
  | cons char rest =>
      have apart : char ≠ '~' := fun same => tilde (congrArg some same)
      simp [bare, expandTilde, apart]

theorem Unexpanded.expandWord_eq (unexpanded : Unexpanded word)
    (environment : Environment) :
    expandWord environment (bare word) = [word] := by
  rw [expandWord, expandTilde_bare _ unexpanded.tilde]
  simp only [unexpanded.pattern, Bool.false_eq_true, if_false, text_bare]

/-- An environment in which nothing is found. -/
def barren : Environment where
  expanded _ := none
  home _ := none
  pathnames _ := []

/-- Every user has an empty home directory. -/
def homes : Environment :=
  { barren with home := fun _ => some [] }

/-- Every pattern matches one file. -/
def files : Environment :=
  { barren with pathnames := fun word => [word.text ++ ['x']] }

theorem expandTilde_none (word : Word) :
    expandTilde (fun _ => none) word = word := by
  cases word with
  | nil => rfl
  | cons first rest =>
      rw [expandTilde]
      split <;> rfl

theorem expandWord_barren (word : Word) :
    expandWord barren word = [word.text] := by
  simp [expandWord, barren, expandTilde_none]

theorem expandWord_homes (word : Word) :
    expandWord homes word = [(expandTilde homes.home word).text] := by
  unfold expandWord
  by_cases pattern : isPattern (expandTilde homes.home word) = true
  · exact if_pos pattern
  · exact if_neg pattern

theorem expandWord_files (word : Word) :
    expandWord files word =
      [if isPattern word then word.text ++ ['x'] else word.text] := by
  simp only [expandWord, files, barren, expandTilde_none]
  split <;> rfl

/-- A tilde is not left standing. -/
theorem expandTilde_homes_ne (tilde : word.head? = some '~') :
    (expandTilde homes.home (bare word)).text ≠ word := by
  rcases List.head?_eq_some_iff.mp tilde with ⟨rest, rfl⟩
  have unquoted : ∀ login : Word, login <+: bare rest →
      login.any WordChar.quoted = false := by
    intro login front
    rw [List.any_eq_false]
    intro char member
    rcases List.mem_map.mp (front.mem member) with ⟨_, _, rfl⟩
    exact Bool.false_ne_true
  have bareLogin := unquoted _
    (List.takeWhile_prefix fun char => !isSlash char)
  have shape : bare ('~' :: rest) = ⟨'~', false⟩ :: bare rest := rfl
  rw [shape, expandTilde, if_pos ⟨rfl, by rw [bareLogin]; decide⟩]
  intro same
  have size := congrArg List.length same
  simp only [homes, List.map_nil, List.nil_append, Word.text,
    List.length_map, List.length_drop, bare, List.length_cons] at size
  omega

/-- Where nothing is found, the words are those that are cut out. -/
theorem lex_of_barren {command : Text}
    (same : argumentVector barren command = some words) :
    ∃ found, lex .between command = .ok found ∧
      found.map Word.text = words := by
  rw [argumentVector] at same
  split at same
  · next found read =>
      have texts : expandWord barren = fun word => [word.text] :=
        funext expandWord_barren
      rw [texts, ← List.map_eq_flatMap] at same
      exact ⟨found, read, Option.some.inj same⟩
  · cases same
  · cases same

theorem argumentVector_raw (raw : ∀ word ∈ words, IsRaw word)
    (environment : Environment) :
    argumentVector environment (join words) =
      some (words.flatMap fun word => expandWord environment (bare word)) := by
  rw [argumentVector, lex_join raw]
  simp [List.flatMap_map]

/-- An environment that makes one text of each word keeps none but its own. -/
theorem eq_of_argumentVector (raw : ∀ word ∈ words, IsRaw word)
    {environment : Environment} {change : Text → Text}
    (single : ∀ word, expandWord environment (bare word) = [change word])
    (same : argumentVector environment (join words) = some words) :
    ∀ word ∈ words, change word = word := by
  rw [argumentVector_raw raw, Option.some.injEq] at same
  simp only [single, ← List.map_eq_flatMap] at same
  exact List.map_inj_left.mp (same.trans (List.map_id words).symm)

/--
A program gets joined words as its arguments, whatever the environment,
exactly if the words are raw and nothing in them is expanded.
-/
theorem argumentVector_join_iff :
    (∀ environment, argumentVector environment (join words) = some words) ↔
      ∀ word ∈ words, IsRaw word ∧ Unexpanded word := by
  constructor
  · intro same
    have raw : ∀ word ∈ words, IsRaw word := by
      rcases lex_of_barren (same barren) with ⟨found, read, texts⟩
      rw [← lex_join_iff, read, Except.map, texts]
    intro word member
    refine ⟨raw word member, ?_, ?_⟩
    · intro tilde
      have kept := eq_of_argumentVector raw
        (fun word => expandWord_homes (bare word)) (same homes) word member
      exact expandTilde_homes_ne tilde kept
    · have kept := eq_of_argumentVector raw
        (fun word => expandWord_files (bare word)) (same files) word member
      rw [text_bare] at kept
      split at kept
      · have size := congrArg List.length kept
        simp at size
      · next pattern => simpa using pattern
  · intro plain environment
    rw [argumentVector_raw fun word member => (plain word member).1]
    have kept : words.flatMap
        (fun word => expandWord environment (bare word)) =
          words.flatMap fun word => [word] :=
      List.flatMap_congr fun word member =>
        (plain word member).2.expandWord_eq environment
    rw [kept, ← List.map_eq_flatMap, List.map_id']

end Expansion

end KubectlSshuttle.Lib.Shell
