import Oracion.Category
import Oracion.Vocabulary.WordSet

/-!
# Vocabularies

A vocabulary has a set of word forms for each of the four categories of words.  A
word is looked up in the sets in a fixed order and has the category of the first set
that holds it, so a vocabulary whose sets overlap still gives each word one category;
`Vocabulary.overlaps` names the words for which the order matters.

## Main definitions

* `Vocabulary`, `Vocabulary.contains`, `Vocabulary.classify` — the sets and the look-up.
* `Vocabulary.words`, `Vocabulary.entries` — the words in order.
* `Overlap`, `Vocabulary.overlaps` — the words that stand in two sets.
* `Vocabulary.spanish` — the closed vocabulary of the recognizer.
-/

namespace Oracion

/-- Four sets of word forms. -/
structure Vocabulary where
  /-- The articles. -/
  articles : WordSet
  /-- The nouns. -/
  nouns : WordSet
  /-- The adjectives. -/
  adjectives : WordSet
  /-- The verbs. -/
  verbs : WordSet
  deriving DecidableEq, Inhabited

/-- A word that stands in the sets of two categories. -/
structure Overlap where
  /-- The word. -/
  word : String
  /-- The category that the word is given. -/
  first : Category
  /-- The category that loses it. -/
  second : Category
  deriving DecidableEq, Repr, Inhabited

/-- The pairs of an earlier and a later item of a list. -/
def orderedPairs {α : Type} : List α → List (α × α)
  | [] => []
  | a :: as => as.map (a, ·) ++ orderedPairs as

namespace Vocabulary

/-- The set of words of a category; the markers have none. -/
def set (v : Vocabulary) : Category → WordSet
  | .article => v.articles
  | .noun => v.nouns
  | .adjective => v.adjectives
  | .verb => v.verbs
  | .endOfInput => .empty
  | .unknown => .empty

/-- The words of a category, in order. -/
def words (v : Vocabulary) (c : Category) : List String := (v.set c).words

/-- Whether a word is in the set of a category. -/
def contains (v : Vocabulary) (c : Category) (w : String) : Bool := (v.set c).contains w

/-- The first category whose set holds the word, or `unknown`. -/
def classify (v : Vocabulary) (w : String) : Category :=
  (Category.lexical.find? fun c => v.contains c w).getD .unknown

/-- How many words the four sets have together. -/
def size (v : Vocabulary) : Nat :=
  v.articles.size + v.nouns.size + v.adjectives.size + v.verbs.size

/-- Whether no set has a word. -/
def isEmpty (v : Vocabulary) : Bool := v.size == 0

/-- Every word with the category of its set, in the order of the words. -/
def entries (v : Vocabulary) : List (String × Category) :=
  (Category.lexical.flatMap fun c => (v.words c).map (·, c)).mergeSort fun a b => a.1 ≤ b.1

/-- The words that two sets share, by pairs of categories and then in order. -/
def overlaps (v : Vocabulary) : List Overlap :=
  (orderedPairs Category.lexical).flatMap fun p =>
    ((v.words p.1).filter (v.contains p.2)).map fun w => ⟨w, p.1, p.2⟩

@[simp] theorem contains_iff {v : Vocabulary} {c : Category} {w : String} :
    v.contains c w = true ↔ w ∈ v.words c := WordSet.contains_iff

/-! ### The built-in vocabulary -/

/-- The word forms that the recognizer knows. -/
def spanish : Vocabulary where
  articles := .ofList ["el", "la", "un", "una", "los", "las"]
  nouns := .ofList
    ["perro", "perros", "gato", "gatos", "niño", "niña", "niños", "niñas", "casa", "casas",
     "libro", "libros", "árbol", "árboles", "computadora", "computadoras", "carro", "carros",
     "hueso", "huesos"]
  adjectives := .ofList
    ["grande", "grandes", "pequeño", "pequeña", "pequeños", "pequeñas", "rojo", "roja", "rojos",
     "rojas", "azul", "azules", "hermoso", "hermosa", "hermosos", "hermosas", "viejo", "vieja",
     "viejos", "viejas", "nuevo", "nueva", "nuevos", "nuevas", "rápido", "rápida", "rápidos",
     "rápidas"]
  verbs := .ofList
    ["come", "comen", "lee", "leen", "ve", "ven", "quiere", "quieren", "tiene", "tienen", "busca",
     "buscan", "escribe", "escriben", "maneja", "manejan"]

end Vocabulary
end Oracion
