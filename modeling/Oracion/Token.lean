import Oracion.Vocabulary

/-!
# Tokens

A token is a word with its category and its place.  The tokens of a text are its
words in lower case, numbered from zero, and a marker after the last.

## Main definitions

* `Token`, `Token.endAt` — tokens, and the marker that closes the tokens of a text.
* `Vocabulary.tokenize`, `tokenize` — the tokens of a text.
* `Token.categories`, `Token.unknowns` — what a list of tokens shows of them.
-/

namespace Oracion

/-- A word of the input as the recognizer sees it. -/
structure Token where
  /-- What the word is. -/
  category : Category
  /-- The word. -/
  text : String
  /-- How many words come before it. -/
  position : Nat
  deriving DecidableEq, Repr, Inhabited

namespace Token

/-- The marker after `count` words. -/
def endAt (count : Nat) : Token := ⟨.endOfInput, "", count⟩

/-- Whether a token marks the end of the input. -/
def isEnd (t : Token) : Bool := t.category == .endOfInput

/-- Whether a token is a word outside the vocabulary. -/
def isUnknown (t : Token) : Bool := t.category == .unknown

/-- How a token is listed: its category in a column, then the word in quotes. -/
def describe (t : Token) : String :=
  "[" ++ Text.padRight 9 t.category.name ++ "] '" ++ t.text ++ "'"

/-- The categories of a list of tokens. -/
def categories (ts : List Token) : List Category := ts.map Token.category

/-- The tokens that are words outside the vocabulary. -/
def unknowns (ts : List Token) : List Token := ts.filter isUnknown

/-- The tokens that are words, known or not. -/
def proper (ts : List Token) : List Token := ts.filter fun t => !t.isEnd

@[simp] theorem category_endAt (n : Nat) : (endAt n).category = .endOfInput := rfl

@[simp] theorem isEnd_endAt (n : Nat) : (endAt n).isEnd = true := rfl

end Token

/-- Words as tokens: each with its category, numbered from zero. -/
def Vocabulary.tokensOf (v : Vocabulary) (ws : List String) : List Token :=
  ws.mapIdx fun i w => ⟨v.classify w, w, i⟩

/-- The tokens of a text under a vocabulary: the words of the text in lower case, and
the marker after them. -/
def Vocabulary.tokenize (v : Vocabulary) (text : String) : List Token :=
  let ws := Text.words (Text.lower text)
  v.tokensOf ws ++ [Token.endAt ws.length]

/-- The tokens of a text under the built-in vocabulary. -/
def tokenize (text : String) : List Token := Vocabulary.spanish.tokenize text

end Oracion
