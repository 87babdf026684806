import Mathlib.Data.List.Basic
import Mathlib.Data.List.Infix

/-!
# Self-delimiting codes

A code is self-delimiting when a decoder that looks at the front of a stream
finds the end of the first word by itself, and accepts only encodings.  The
concatenation of encoded words then determines the words: it can be cut at any
point without ever decoding to a word that was not written, and a prefix
between two concatenations is a prefix between the words.
-/

namespace KubectlSshuttle.Lib

universe u v

/--
A code with a front decoder.  `Valid` says which words have an encoding that
the decoder accepts.
-/
structure SelfDelimiting (Symbol : Type u) (Word : Type v) where
  encode : Word → List Symbol
  decode : List Symbol → Option (Word × List Symbol)
  Valid : Word → Prop
  encode_ne_nil : ∀ word, encode word ≠ []
  decode_encode : ∀ word rest, Valid word →
    decode (encode word ++ rest) = some (word, rest)
  decode_sound : ∀ stream word rest, decode stream = some (word, rest) →
    Valid word ∧ stream = encode word ++ rest

namespace SelfDelimiting

variable {Symbol : Type u} {Word : Type v} (code : SelfDelimiting Symbol Word)

/-- The concatenated encodings of a list of words. -/
def encodeAll (words : List Word) : List Symbol :=
  words.flatMap code.encode

@[simp]
theorem encodeAll_nil : code.encodeAll [] = [] := rfl

@[simp]
theorem encodeAll_cons (word : Word) (rest : List Word) :
    code.encodeAll (word :: rest) =
      code.encode word ++ code.encodeAll rest := by
  simp [encodeAll]

@[simp]
theorem encodeAll_append (left right : List Word) :
    code.encodeAll (left ++ right) =
      code.encodeAll left ++ code.encodeAll right := by
  simp [encodeAll]

/-- Two encodings at the front of one stream are encodings of one word. -/
theorem encode_append_inj {first second : Word} {left right : List Symbol}
    (firstValid : code.Valid first) (secondValid : code.Valid second)
    (equal : code.encode first ++ left = code.encode second ++ right) :
    first = second ∧ left = right := by
  have firstRead := code.decode_encode first left firstValid
  have secondRead := code.decode_encode second right secondValid
  rw [equal, secondRead] at firstRead
  simp only [Option.some.injEq, Prod.mk.injEq] at firstRead
  exact ⟨firstRead.1.symm, firstRead.2.symm⟩

/--
What an encoding of `words` starts with: if the encoding of `part` is a prefix
of the encoding of `words`, then `part` is a prefix of `words`.
-/
theorem isPrefix_of_encodeAll_isPrefix {part words : List Word}
    (partValid : ∀ word ∈ part, code.Valid word)
    (valid : ∀ word ∈ words, code.Valid word)
    (shorter : code.encodeAll part <+: code.encodeAll words) :
    part <+: words := by
  induction part generalizing words with
  | nil => exact List.nil_prefix
  | cons first rest induction =>
      rcases shorter with ⟨tail, equal⟩
      cases words with
      | nil =>
          rw [encodeAll_cons, encodeAll_nil, List.append_assoc,
            List.append_eq_nil_iff] at equal
          exact (code.encode_ne_nil first equal.1).elim
      | cons second others =>
          rw [encodeAll_cons, encodeAll_cons, List.append_assoc] at equal
          rcases code.encode_append_inj
              (partValid first List.mem_cons_self)
              (valid second List.mem_cons_self) equal with
            ⟨rfl, equalRest⟩
          rw [List.cons_prefix_cons]
          refine ⟨rfl, induction ?_ ?_ ⟨tail, equalRest⟩⟩
          · exact fun word member =>
              partValid word (List.mem_cons_of_mem _ member)
          · exact fun word member =>
              valid word (List.mem_cons_of_mem _ member)

/--
Every prefix of a stream of encodings consists of whole words of the stream
and a strict prefix of the next one.
-/
theorem cut_of_isPrefix {part : List Symbol} {words : List Word}
    (shorter : part <+: code.encodeAll words) :
    ∃ whole rest cut, words = whole ++ rest ∧
      part = code.encodeAll whole ++ cut ∧
      ((cut = [] ∧ rest = []) ∨
        ∃ next others missing, rest = next :: others ∧
          missing ≠ [] ∧ cut ++ missing = code.encode next) := by
  induction words generalizing part with
  | nil =>
      have empty : part = [] := List.prefix_nil.mp shorter
      exact ⟨[], [], [], rfl, by simp [empty], Or.inl ⟨rfl, rfl⟩⟩
  | cons word rest induction =>
      rw [encodeAll_cons] at shorter
      rcases shorter with ⟨tail, equal⟩
      rcases List.append_eq_append_iff.mp equal with
        ⟨missing, wordShape, _⟩ | ⟨suffix, partShape, restShape⟩
      · by_cases nothing : missing = []
        · subst nothing
          have inside : ([] : List Symbol) <+: code.encodeAll rest :=
            List.nil_prefix
          rcases induction inside with
            ⟨whole, others, cut, split, shape, ending⟩
          refine ⟨word :: whole, others, cut, by simp [split], ?_, ending⟩
          rw [encodeAll_cons, List.append_assoc, ← shape,
            List.append_nil]
          simpa using wordShape.symm
        · exact
            ⟨[], word :: rest, part, rfl, by simp,
              Or.inr ⟨word, rest, missing, rfl, nothing, wordShape.symm⟩⟩
      · rcases induction ⟨tail, restShape.symm⟩ with
          ⟨whole, others, cut, split, shape, ending⟩
        refine ⟨word :: whole, others, cut, by simp [split], ?_, ending⟩
        rw [partShape, shape, encodeAll_cons, List.append_assoc]

end SelfDelimiting

end KubectlSshuttle.Lib
