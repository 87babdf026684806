import KubectlSshuttle.Lib.RustText

/-!
# Words of a text

What `splitWhitespace` makes of a text, as a relation that follows the text
from left to right: blanks, a word, and the rest, which starts with a blank
unless it is empty.  The other facts about words are inductions on it.
-/

namespace KubectlSshuttle.Lib.RustText

/-- Nothing but whitespace. -/
def Blank (text : Text) : Prop :=
  ∀ char ∈ text, isWhitespace char = true

/-- Something, and no whitespace in it. -/
structure IsWord (word : Text) : Prop where
  nonempty : word ≠ []
  ink : ∀ char ∈ word, isWhitespace char = false

/-- The words of a text, with the whitespace around them. -/
inductive Spaced : Text → List Text → Prop where
  | blank {text : Text} (blank : Blank text) : Spaced text []
  | word {front word rest : Text} {words : List Text} (blank : Blank front)
      (isWord : IsWord word)
      (ends : ∀ char ∈ rest.head?, isWhitespace char = true)
      (later : Spaced rest words) :
      Spaced (front ++ (word ++ rest)) (word :: words)

theorem Blank.append {front back : Text} (first : Blank front)
    (second : Blank back) : Blank (front ++ back) := by
  intro char member
  exact (List.mem_append.mp member).elim (first char) (second char)

/-! ## The relation and the function -/

theorem splitWhitespace_of_blank {front : Text} (blank : Blank front)
    (text : Text) :
    splitWhitespace (front ++ text) = splitWhitespace text := by
  induction front with
  | nil => rfl
  | cons char rest induction =>
      have here := blank char List.mem_cons_self
      rw [List.cons_append, splitWhitespace.eq_def]
      simp only [here, if_true]
      exact induction fun other member =>
        blank other (List.mem_cons_of_mem _ member)

theorem Spaced.splitWhitespace_eq {text : Text} {words : List Text}
    (spaced : Spaced text words) : splitWhitespace text = words := by
  induction spaced with
  | @blank text blank =>
      have none := splitWhitespace_of_blank blank []
      rwa [List.append_nil] at none
  | @word front word rest words blank isWord ends later induction =>
      rw [splitWhitespace_of_blank blank]
      cases rest with
      | nil =>
          have none : splitWhitespace [] = words := induction
          rw [List.append_nil,
            splitWhitespace_word isWord.nonempty isWord.ink, ← none]
          rfl
      | cons separator rest =>
          have single : Blank [separator] := by simpa [Blank] using ends
          have skipped := splitWhitespace_of_blank single rest
          rw [splitWhitespace_append isWord.nonempty isWord.ink
            (ends separator rfl), ← skipped]
          exact congrArg _ induction

theorem blank_takeWhile (text : Text) :
    Blank (text.takeWhile isWhitespace) := by
  intro char member
  exact List.mem_takeWhile_imp member

theorem spaced_splitWhitespace (text : Text) :
    Spaced text (splitWhitespace text) := by
  induction length : text.length using Nat.strong_induction_on
    generalizing text with
  | _ size induction =>
      have split : text.takeWhile isWhitespace ++
          text.dropWhile isWhitespace = text := List.takeWhile_append_dropWhile
      rcases shape : text.dropWhile isWhitespace with _ | ⟨first, others⟩
      · rw [shape, List.append_nil] at split
        have blank : Blank text := split ▸ blank_takeWhile text
        rw [(Spaced.blank blank).splitWhitespace_eq]
        exact .blank blank
      · have inked : isWhitespace first = false := by
          have head := List.head_dropWhile_not isWhitespace
            (l := text) (by simp [shape])
          simpa [shape] using head
        have whole : others.takeWhile (!isWhitespace ·) ++
            others.dropWhile (!isWhitespace ·) = others :=
          List.takeWhile_append_dropWhile
        have isWord : IsWord (first :: others.takeWhile (!isWhitespace ·)) := by
          refine ⟨by simp, ?_⟩
          intro char member
          rcases List.mem_cons.mp member with rfl | member
          · exact inked
          · simpa using List.mem_takeWhile_imp member
        have ends : ∀ char ∈ (others.dropWhile (!isWhitespace ·)).head?,
            isWhitespace char = true := by
          intro char found
          have stopped := List.head?_dropWhile_not (!isWhitespace ·) others
          rw [Option.mem_def.mp found] at stopped
          simpa using stopped
        have shorter : (others.dropWhile (!isWhitespace ·)).length < size := by
          have lengths := congrArg List.length split
          have parts := congrArg List.length whole
          rw [shape] at lengths
          simp only [List.length_append, List.length_cons] at lengths parts
          omega
        have later := induction _ shorter _ rfl
        have spaced := Spaced.word (blank_takeWhile text) isWord ends later
        rw [List.cons_append, whole, ← shape, split] at spaced
        rw [spaced.splitWhitespace_eq]
        exact spaced

/-! ## Words -/

theorem Spaced.isWord_of_mem {text word : Text} {words : List Text}
    (spaced : Spaced text words) (member : word ∈ words) : IsWord word := by
  induction spaced with
  | blank => cases member
  | word blank isWord ends later induction =>
      rcases List.mem_cons.mp member with rfl | member
      · exact isWord
      · exact induction member

theorem isWord_of_mem_splitWhitespace {text word : Text}
    (member : word ∈ splitWhitespace text) : IsWord word :=
  (spaced_splitWhitespace text).isWord_of_mem member

/-- Whitespace behind a text makes no word. -/
theorem Spaced.append_blank {text back : Text} {words : List Text}
    (spaced : Spaced text words) (blank : Blank back) :
    Spaced (text ++ back) words := by
  induction spaced with
  | blank first => exact .blank (first.append blank)
  | @word front word rest words first isWord ends later induction =>
      rw [List.append_assoc, List.append_assoc]
      refine .word first isWord ?_ induction
      intro char found
      cases rest with
      | nil => exact blank char (List.mem_of_mem_head? found)
      | cons separator others => exact ends char found

/-! ## Trimming -/

/-- What `trim` takes off on both sides. -/
theorem exists_trim (text : Text) :
    ∃ front back, text = front ++ (trim text ++ back) ∧ Blank front ∧
      Blank back := by
  have front : text.takeWhile isWhitespace ++ text.dropWhile isWhitespace =
      text := List.takeWhile_append_dropWhile
  have back : trim text ++ (text.dropWhile isWhitespace).rtakeWhile
      isWhitespace = text.dropWhile isWhitespace :=
    List.rdropWhile_append_rtakeWhile
  refine ⟨_, _, (back ▸ front).symm, blank_takeWhile text, ?_⟩
  intro char member
  exact List.mem_rtakeWhile_imp member

theorem splitWhitespace_trim (text : Text) :
    splitWhitespace (trim text) = splitWhitespace text := by
  rcases exists_trim text with ⟨front, back, whole, first, last⟩
  have words := (spaced_splitWhitespace (trim text)).append_blank last
  have same := splitWhitespace_of_blank first (trim text ++ back)
  rw [← whole, words.splitWhitespace_eq] at same
  exact same.symm

theorem trim_of_blank {text : Text} (blank : Blank text) : trim text = [] := by
  have dropped : text.dropWhile isWhitespace = [] :=
    List.dropWhile_eq_nil_iff.mpr blank
  rw [trim, dropped]
  rfl

theorem IsWord.dropWhile_append {word : Text} (isWord : IsWord word)
    (rest : Text) :
    (word ++ rest).dropWhile isWhitespace = word ++ rest := by
  rcases List.exists_cons_of_ne_nil isWord.nonempty with
    ⟨first, others, starts⟩
  have inked := isWord.ink first (by simp [starts])
  rw [starts, List.cons_append, List.dropWhile_cons_of_neg (by simp [inked])]

theorem rdropWhile_append_of_blank {back : Text} (blank : Blank back)
    (text : Text) :
    (text ++ back).rdropWhile isWhitespace = text.rdropWhile isWhitespace := by
  rw [List.rdropWhile, List.rdropWhile, List.reverse_append]
  congr 1
  apply List.dropWhile_append_of_pos
  intro char member
  exact blank char (List.mem_reverse.mp member)

/-- Whitespace around a word is trimmed. -/
theorem IsWord.trim_surrounded {word front back : Text}
    (isWord : IsWord word) (first : Blank front) (last : Blank back) :
    trim (front ++ (word ++ back)) = word := by
  have ends := (List.dropLast_concat_getLast isWord.nonempty).symm
  have inked := isWord.ink _ (List.getLast_mem isWord.nonempty)
  rw [trim, List.dropWhile_append_of_pos first, isWord.dropWhile_append,
    rdropWhile_append_of_blank last, ends]
  exact List.rdropWhile_concat_neg _ _ _ (by simp [inked])

theorem IsWord.trim_eq {word : Text} (isWord : IsWord word) :
    trim word = word := by
  have nothing : Blank [] := fun char member => by cases member
  have same := isWord.trim_surrounded nothing nothing
  rwa [List.nil_append, List.append_nil] at same

/-- A text without whitespace at its ends and in it is its only word. -/
theorem eq_trim_of_ink {text : Text}
    (ink : ∀ char ∈ trim text, isWhitespace char = false) :
    splitWhitespace text = if trim text = [] then [] else [trim text] := by
  rw [← splitWhitespace_trim]
  split
  · next empty => rw [empty]; rfl
  · next nonempty => exact splitWhitespace_word nonempty ink

theorem trim_of_splitWhitespace_nil {text : Text}
    (none : splitWhitespace text = []) : trim text = [] := by
  have spaced := spaced_splitWhitespace text
  rw [none] at spaced
  cases spaced with
  | blank blank => exact trim_of_blank blank

/-- Around its only word a text has nothing but whitespace. -/
theorem trim_of_splitWhitespace_singleton {text word : Text}
    (one : splitWhitespace text = [word]) : trim text = word := by
  have spaced := spaced_splitWhitespace text
  rw [one] at spaced
  cases spaced with
  | word blank isWord ends later =>
      cases later with
      | blank last => exact isWord.trim_surrounded blank last

/-- The whitespace that ends a text, and the text in front of it. -/
theorem exists_blank_end (text : Text) :
    ∃ kept back, text = kept ++ back ∧ Blank back ∧
      ∀ nonempty : kept ≠ [],
        isWhitespace (kept.getLast nonempty) = false := by
  have split : text.rdropWhile isWhitespace ++
      text.rtakeWhile isWhitespace = text :=
    List.rdropWhile_append_rtakeWhile
  refine ⟨_, _, split.symm, ?_, ?_⟩
  · intro char member
    exact List.mem_rtakeWhile_imp member
  · intro nonempty
    simpa using List.rdropWhile_last_not isWhitespace text nonempty

/-- A trimmed text starts with its first word. -/
theorem trim_of_splitWhitespace_cons {text first : Text} {words : List Text}
    (shape : splitWhitespace text = first :: words) :
    ∃ rest, trim text = first ++ rest ∧ IsWord first ∧
      (∀ char ∈ rest.head?, isWhitespace char = true) ∧
      splitWhitespace rest = words ∧ (words = [] → rest = []) := by
  have spaced := spaced_splitWhitespace text
  rw [shape] at spaced
  cases spaced with
  | @word front _ behind _ blank isWord ends later =>
      rcases exists_blank_end behind with ⟨rest, back, rfl, last, inked⟩
      have stays : (first ++ rest).rdropWhile isWhitespace =
          first ++ rest := by
        rw [List.rdropWhile_eq_self_iff]
        intro nonempty
        by_cases empty : rest = []
        · have end_ := isWord.ink _ (List.getLast_mem isWord.nonempty)
          simp [empty, end_]
        · rw [List.getLast_append_of_ne_nil nonempty empty]
          simp [inked empty]
      have words_rest : splitWhitespace rest = words := by
        have same := (spaced_splitWhitespace rest).append_blank last
        rw [← same.splitWhitespace_eq, later.splitWhitespace_eq]
      refine ⟨rest, ?_, isWord, ?_, words_rest, ?_⟩
      · rw [trim, List.dropWhile_append_of_pos blank,
          isWord.dropWhile_append, ← List.append_assoc,
          rdropWhile_append_of_blank last, stays]
      · intro char found
        apply ends char
        rw [List.head?_append, Option.mem_def.mp found]
        rfl
      · rintro rfl
        by_contra nonempty
        have spaced := spaced_splitWhitespace rest
        rw [words_rest] at spaced
        cases spaced with
        | blank blank =>
            have end_ := blank _ (List.getLast_mem nonempty)
            rw [inked nonempty] at end_
            cases end_

/-! ## Cutting a text -/

/--
The words of a text that is cut where a character stops it.  A word is cut in
two by the first such character, and disappears if it starts with it.
-/
def cutWords (keep : Char → Bool) : List Text → List Text
  | [] => []
  | word :: words =>
      if word.all keep then word :: cutWords keep words
      else if word.takeWhile keep = [] then []
      else [word.takeWhile keep]

theorem Spaced.takeWhile {keep : Char → Bool}
    (keepsBlanks : ∀ char, isWhitespace char = true → keep char = true)
    {text : Text} {words : List Text} (spaced : Spaced text words) :
    Spaced (text.takeWhile keep) (cutWords keep words) := by
  have kept {front : Text} (blank : Blank front) :
      ∀ char ∈ front, keep char = true :=
    fun char member => keepsBlanks char (blank char member)
  induction spaced with
  | blank blank =>
      rw [List.takeWhile_eq_self_iff.mpr (kept blank)]
      exact .blank blank
  | @word front word rest words blank isWord ends later induction =>
      rw [List.takeWhile_append_of_pos (kept blank), cutWords]
      split
      · next whole =>
          rw [List.takeWhile_append_of_pos (List.all_eq_true.mp whole)]
          refine .word blank isWord ?_ induction
          intro char found
          cases rest with
          | nil => cases found
          | cons separator others =>
              have blankHead := ends separator rfl
              rw [List.takeWhile_cons_of_pos (keepsBlanks _ blankHead)]
                at found
              exact ends char found
      · next stopped =>
          have inside : (word ++ rest).takeWhile keep =
              word.takeWhile keep := by
            rw [List.takeWhile_append, if_neg]
            intro all
            apply stopped
            have same : word.takeWhile keep = word :=
              (List.takeWhile_prefix _).eq_of_length all
            exact List.all_eq_true.mpr (List.takeWhile_eq_self_iff.mp same)
          rw [inside]
          split
          · next empty =>
              rw [empty, List.append_nil]
              exact .blank blank
          · next nonempty =>
              have isFront : IsWord (word.takeWhile keep) :=
                ⟨nonempty, fun char member =>
                  isWord.ink char ((List.takeWhile_prefix _).mem member)⟩
              have nothing : Spaced [] [] :=
                .blank fun char member => by cases member
              have one := Spaced.word blank isFront
                (fun char found => by cases found) nothing
              rwa [List.append_nil] at one

theorem splitWhitespace_takeWhile {keep : Char → Bool}
    (keepsBlanks : ∀ char, isWhitespace char = true → keep char = true)
    (text : Text) :
    splitWhitespace (text.takeWhile keep) =
      cutWords keep (splitWhitespace text) :=
  ((spaced_splitWhitespace text).takeWhile keepsBlanks).splitWhitespace_eq

end KubectlSshuttle.Lib.RustText
