import Oracion.Analysis
import Oracion.Command

/-!
# The manual

The pages that the shell shows on demand: the grammar, the vocabulary, the commands
and some examples.

## Main definitions

* `grammarPage`, `vocabularyPage`, `helpPage`, `examplesPage` — the pages.
* `validExamples`, `invalidExamples` — the examples.
-/

namespace Oracion

/-- The rules of the grammar. -/
def grammarPage : String :=
  Text.joinLines
    ["Productions:",
     "",
     "  <sentence>   ::= <subject> <predicate>",
     "",
     "  <subject>    ::= <article> <noun>",
     "                 | <article> <noun> <adjective>",
     "                 | <article> <adjective> <noun>",
     "",
     "  <predicate>  ::= <verb> <complement>",
     "",
     "  <complement> ::= <article> <noun>",
     "                 | <article> <noun> <adjective>",
     "                 | <article> <adjective> <noun>",
     "",
     "Basic structure: SUBJECT + VERB + COMPLEMENT",
     "",
     "- Subject-verb-object order",
     "- Article required in subject and complement",
     "- At most one adjective per noun phrase",
     "- The adjective may come before or after the noun"]

/-- A list in groups of `n + 1` items; the last group may have fewer. -/
def groupsOf {α : Type} (n : Nat) (xs : List α) : List (List α) :=
  match xs with
  | [] => []
  | x :: xs => (x :: xs.take n) :: groupsOf n (xs.drop n)
termination_by xs.length
decreasing_by simp only [List.length_drop, List.length_cons]; omega

/-- The words of a category, eight on a line, under the name of the category. -/
def Vocabulary.categoryLines (v : Vocabulary) (c : Category) : List String :=
  (c.name ++ "S:") :: (groupsOf 7 (v.words c)).map (fun ws => "   " ++ ", ".intercalate ws) ++ [""]

/-- The words of a vocabulary by category. -/
def Vocabulary.page (v : Vocabulary) : String :=
  Text.joinLines
    (Category.lexical.flatMap v.categoryLines ++ ["Total words: " ++ toString v.size])

/-- The words of the built-in vocabulary by category. -/
def vocabularyPage : String := Vocabulary.spanish.page

/-- The commands with what they do. -/
def helpPage : String :=
  Text.joinLines
    ("Commands:" ::
      Command.listing.map (fun (name, what) => "  " ++ Text.padRight 10 name ++ " " ++ what) ++
      ["Anything else is analyzed as a sentence."])

/-! ### Examples -/

/-- Sentences of the grammar. -/
def validExamples : List String :=
  ["el perro come un hueso",
   "la niña lee el libro",
   "un gato grande ve la casa",
   "el niño pequeño quiere un libro rojo",
   "una computadora nueva tiene el carro",
   "los perros buscan las casas"]

/-- Texts that are no sentences, each with what is wrong with it. -/
def invalidExamples : List (String × String) :=
  [("el perro grande", "missing predicate"),
   ("come el libro", "missing subject"),
   ("el grande perro come libro", "complement without article"),
   ("perro el come un libro", "wrong word order"),
   ("el perro muy grande come el libro", "'muy' is not in the vocabulary"),
   ("python es genial", "no word is in the vocabulary"),
   ("el libro azul hermoso lee la niña", "two adjectives in one noun phrase")]

/-- A sign for the verdict on a text. -/
def verdictSign (text : String) : String := if (analyze text).isValid then "✓" else "✗"

/-- The examples with their verdicts. -/
def examplesPage : String :=
  Text.joinLines
    (["VALID EXAMPLES"] ++
      validExamples.mapIdx (fun i s => toString (i + 1) ++ ". " ++ verdictSign s ++ " " ++ s) ++
      ["", "INVALID EXAMPLES"] ++
      (invalidExamples.mapIdx fun i (s, reason) =>
        [toString (i + 1) ++ ". " ++ verdictSign s ++ " " ++ s, "   reason: " ++ reason]).flatten)

end Oracion
