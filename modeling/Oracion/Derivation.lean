import Oracion.Analysis

/-!
# Derivations

The derivation tree of a sentence.  It is read off the words of a valid analysis: what
stands before the first verb is the subject, the verb and what follows it is the
predicate.

## Main definitions

* `Label`, `Derivation` — the labels and the trees.
* `Derivation.ofAnalysis?` — the tree of a valid analysis.
* `Derivation.draw` — a tree as a picture, one line for each node.
-/

namespace Oracion

/-- What a node of a derivation stands for. -/
inductive Label where
  /-- The sentence. -/
  | sentence
  /-- Its subject. -/
  | subject
  /-- Its predicate. -/
  | predicate
  /-- The complement of its verb. -/
  | complement
  /-- A word of this category. -/
  | word (category : Category)
  deriving DecidableEq, Repr, Inhabited

/-- The name that a label is printed with. -/
def Label.name : Label → String
  | .sentence => "SENTENCE"
  | .subject => "SUBJECT"
  | .predicate => "PREDICATE"
  | .complement => "COMPLEMENT"
  | .word category => category.name

/-- A derivation tree. -/
inductive Derivation where
  /-- A node with its label, its word if it has one, and its children. -/
  | node (label : Label) (word : Option String) (children : List Derivation)
  deriving Repr, Inhabited

namespace Derivation

/-- The label of the root. -/
def label : Derivation → Label
  | node l _ _ => l

/-- The word of the root. -/
def word : Derivation → Option String
  | node _ w _ => w

/-- The children of the root. -/
def children : Derivation → List Derivation
  | node _ _ ts => ts

/-- A node without a word. -/
def branch (label : Label) (children : List Derivation) : Derivation := node label none children

/-- The node of a word. -/
def leaf (t : Token) : Derivation := node (.word t.category) (some t.text) []

/-- A list cut at its first verb: what comes before it, the verb, what comes after it. -/
def splitAtVerb : List Token → Option (List Token × Token × List Token)
  | [] => none
  | t :: ts =>
      if t.category = .verb then some ([], t, ts)
      else (splitAtVerb ts).map fun (before, verb, after) => (t :: before, verb, after)

/-- The children of a predicate: the verb, and a complement if a word follows. -/
def predicateParts (verb : Token) (after : List Token) : List Derivation :=
  if after.isEmpty then [leaf verb] else [leaf verb, branch .complement (after.map leaf)]

/-- The derivation of a valid analysis.  One without a verb has none. -/
def ofAnalysis? (a : Analysis) : Option Derivation :=
  if a.isValid then
    (splitAtVerb a.words).map fun (before, verb, after) =>
      branch .sentence
        [branch .subject (before.map leaf), branch .predicate (predicateParts verb after)]
  else none

/-! ### The picture -/

/-- The text of a node: its label, and its word in quotes if it has one. -/
def title : Derivation → String
  | node l none _ => l.name
  | node l (some w) _ => l.name ++ ": \"" ++ w ++ "\""

mutual

/-- The lines of what hangs below the root, each after `indent`. -/
def drawBelow (indent : String) : Derivation → List String
  | node _ _ ts => drawAll indent ts

/-- The lines of trees that hang side by side, each after `indent`.  The last tree has
a corner, the others a tee with a line down to the next. -/
def drawAll (indent : String) : List Derivation → List String
  | [] => []
  | t :: ts =>
      let connector := if ts.isEmpty then "└── " else "├── "
      let extension := if ts.isEmpty then "    " else "│   "
      (indent ++ connector ++ t.title) :: t.drawBelow (indent ++ extension) ++ drawAll indent ts

end

/-- A tree as a picture. -/
def draw (t : Derivation) : String := Text.joinLines (t.title :: t.drawBelow "")

end Derivation
end Oracion
