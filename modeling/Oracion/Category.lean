import Oracion.Text

/-!
# Categories of words

What a word can be in a sentence, with two markers that no word of the vocabulary
has: the end of the input, and a word that is not known.

## Main definitions

* `Category`, `Category.name` — the categories and the names they are printed with.
* `Category.lexical` — the categories that words of the vocabulary have, in the
  order in which a word is looked up.
-/

namespace Oracion

/-- What a token can be. -/
inductive Category where
  /-- An article, such as *el*. -/
  | article
  /-- A noun, such as *perro*. -/
  | noun
  /-- An adjective, such as *grande*. -/
  | adjective
  /-- A verb, such as *come*. -/
  | verb
  /-- The marker after the last word. -/
  | endOfInput
  /-- A word outside the vocabulary. -/
  | unknown
  deriving DecidableEq, Repr, Inhabited

namespace Category

/-- The name that a category is printed with. -/
def name : Category → String
  | article => "ARTICLE"
  | noun => "NOUN"
  | adjective => "ADJECTIVE"
  | verb => "VERB"
  | endOfInput => "END"
  | unknown => "UNKNOWN"

/-- The categories of vocabulary words, in the order in which a word is looked up. -/
def lexical : List Category := [article, noun, adjective, verb]

/-- Every category, the markers last. -/
def all : List Category := lexical ++ [endOfInput, unknown]

theorem mem_all (c : Category) : c ∈ all := by cases c <;> decide

/-- A category of vocabulary words is one that is no marker. -/
theorem mem_lexical_iff {c : Category} : c ∈ lexical ↔ c ≠ endOfInput ∧ c ≠ unknown := by
  cases c <;> decide

end Category
end Oracion
