/-! # Vocabularies

An enumeration that is written by fixed words has a vocabulary: the words, what each one means, and
the noun by which an unknown word is reported.
-/

namespace DdlTree

/-- The words of an enumeration. Two words may have one meaning. -/
structure Vocabulary (α : Type) where
  noun : String
  words : List (String × α)

/-- A word that its vocabulary does not hold. -/
structure UnknownWord where
  noun : String
  word : String
  deriving Repr, DecidableEq

/-- The report of an unknown word. -/
def UnknownWord.message (unknown : UnknownWord) : String :=
  s!"unknown {unknown.noun} {unknown.word}"

/-- The meaning of a word. -/
def Vocabulary.read {α : Type} (vocabulary : Vocabulary α) (word : String) :
    Except UnknownWord α :=
  match vocabulary.words.lookup word with
  | some meaning => .ok meaning
  | none => .error ⟨vocabulary.noun, word⟩

end DdlTree
