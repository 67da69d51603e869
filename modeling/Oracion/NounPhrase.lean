import Oracion.Token

/-!
# Noun phrases

A noun phrase is an article and a noun, with at most one adjective on either side of
the noun.  A machine with one token of lookahead recognizes it: from each state it
says which category has to come next, or that the phrase is complete.

## Main definitions

* `NounPhrase.Shape` — the three forms of a noun phrase.
* `NounPhrase.State`, `NounPhrase.Step`, `NounPhrase.State.next` — the machine.
* `NounPhrase`, `NounPhrase.ofTokens?` — noun phrases, and the one that a list of
  tokens spells.

## Main results

* `NounPhrase.State.remaining_lt` — each match brings the machine closer to its end.
-/

namespace Oracion
namespace NounPhrase

/-- Where the adjective of a noun phrase stands, if it has one. -/
inductive Shape where
  /-- Article and noun. -/
  | bare
  /-- Article, adjective and noun. -/
  | adjectiveFirst
  /-- Article, noun and adjective. -/
  | adjectiveLast
  deriving DecidableEq, Repr, Inhabited

namespace Shape

/-- The right-hand side of the rule that a shape stands for. -/
def production : Shape → String
  | bare => "<article> <noun>"
  | adjectiveFirst => "<article> <adjective> <noun>"
  | adjectiveLast => "<article> <noun> <adjective>"

/-- The name of a shape. -/
def name : Shape → String
  | bare => "bare"
  | adjectiveFirst => "leading-adjective"
  | adjectiveLast => "trailing-adjective"

/-- The categories of a noun phrase of this shape, in order. -/
def categories : Shape → List Category
  | bare => [.article, .noun]
  | adjectiveFirst => [.article, .adjective, .noun]
  | adjectiveLast => [.article, .noun, .adjective]

end Shape

/-! ### The machine -/

/-- How much of a noun phrase has been read. -/
inductive State where
  /-- Nothing. -/
  | start
  /-- The article. -/
  | pastArticle
  /-- The article and an adjective. -/
  | pastAdjective
  /-- The article and the noun. -/
  | pastNoun
  /-- All of it. -/
  | complete (shape : Shape)
  deriving DecidableEq, Repr, Inhabited

/-- What the machine asks for. -/
inductive Step where
  /-- The next token has to be of this category; then the machine is in this state. -/
  | expect (category : Category) (next : State)
  /-- The phrase is complete. -/
  | accept (shape : Shape)
  deriving DecidableEq, Repr, Inhabited

namespace State

/-- What to do in a state when the next token is of category `lookahead`. -/
def next : State → Category → Step
  | start, _ => .expect .article pastArticle
  | pastArticle, .adjective => .expect .adjective pastAdjective
  | pastArticle, _ => .expect .noun pastNoun
  | pastAdjective, _ => .expect .noun (complete .adjectiveFirst)
  | pastNoun, .adjective => .expect .adjective (complete .adjectiveLast)
  | pastNoun, _ => .accept .bare
  | complete shape, _ => .accept shape

/-- How many matches can still be asked for. -/
def remaining : State → Nat
  | start => 3
  | pastArticle => 2
  | pastAdjective => 1
  | pastNoun => 1
  | complete _ => 0

/-- Each match brings the machine closer to its end. -/
theorem remaining_lt {s t : State} {lookahead c : Category}
    (h : s.next lookahead = .expect c t) : t.remaining < s.remaining := by
  cases s <;> cases lookahead <;> simp only [next, Step.expect.injEq, reduceCtorEq] at h <;>
    obtain ⟨-, rfl⟩ := h <;> decide

/-- Runs the machine from a state over a list of tokens; the shape it accepts and the
tokens it leaves, or nothing if a token is not of the category asked for. -/
def scan (s : State) : List Token → Option (Shape × List Token)
  | [] =>
      match s.next .endOfInput with
      | .accept shape => some (shape, [])
      | .expect _ _ => none
  | t :: ts =>
      match s.next t.category with
      | .accept shape => some (shape, t :: ts)
      | .expect c s' => if c = t.category then s'.scan ts else none

end State
end NounPhrase

/-! ### Noun phrases -/

/-- The words of a noun phrase and how they are arranged. -/
structure NounPhrase where
  /-- The article. -/
  article : String
  /-- The adjective, if there is one. -/
  adjective : Option String
  /-- The noun. -/
  noun : String
  /-- Where the adjective stands. -/
  shape : NounPhrase.Shape
  deriving DecidableEq, Repr, Inhabited

namespace NounPhrase

/-- The text of the first token of a category. -/
def firstText? (ts : List Token) (c : Category) : Option String :=
  (ts.find? fun t => t.category == c).map Token.text

/-- The noun phrase that a list of tokens spells, markers of the end left aside.  The
whole list has to be the phrase. -/
def ofTokens? (tokens : List Token) : Option NounPhrase :=
  let ts := Token.proper tokens
  match State.start.scan ts with
  | some (shape, []) => do
      let article ← firstText? ts .article
      let noun ← firstText? ts .noun
      return ⟨article, firstText? ts .adjective, noun, shape⟩
  | _ => none

/-- The words of a noun phrase in order.  An adjective that the shape has no place for
is left out. -/
def words (np : NounPhrase) : List String :=
  match np.shape, np.adjective with
  | .adjectiveFirst, some adjective => [np.article, adjective, np.noun]
  | .adjectiveLast, some adjective => [np.article, np.noun, adjective]
  | _, _ => [np.article, np.noun]

/-- A noun phrase as text. -/
def render (np : NounPhrase) : String := " ".intercalate np.words

end NounPhrase
end Oracion
