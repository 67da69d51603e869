import Oracion.Analysis.Page
import Oracion.Derivation

/-!
# A sentence step by step

The long form of an analysis: the tokens one by one, the rules that derive the
sentence or the reasons why there are none, and the derivation tree.

## Main definitions

* `spanRule` — the right-hand side of the rule that derives some words.
* `derivingRules` — the rules that derive a valid analysis.
* `explain` — the step-by-step analysis of a text.
-/

namespace Oracion

/-- The right-hand side that derives some words: that of the noun phrase they are, or
else their categories. -/
def spanRule (ts : List Token) : String :=
  match NounPhrase.ofTokens? ts with
  | some np => np.shape.production
  | none => " ".intercalate ((Token.categories ts).map fun c => "<" ++ Text.lower c.name ++ ">")

/-- The rules that derive the words of an analysis; none if it has no verb. -/
def derivingRules (a : Analysis) : List String :=
  match Derivation.splitAtVerb a.words with
  | none => []
  | some (before, _, after) =>
      ["<sentence> ::= <subject> <predicate>",
       "<subject> ::= " ++ spanRule before,
       "<predicate> ::= <verb> <complement>",
       "<complement> ::= " ++ spanRule after]

/-- Lines numbered from one. -/
def numbered (lead separator : String) (ls : List String) : List String :=
  ls.mapIdx fun i l => lead ++ toString (i + 1) ++ separator ++ l

/-- The second step: the rules applied, or what is wrong. -/
def syntaxLines (a : Analysis) : List String :=
  match a.verdict with
  | .valid =>
      ["  The sentence is syntactically valid", "", "  Rules applied:"] ++
        numbered "  " ". " (derivingRules a)
  | .invalid phase _ =>
      ["  The sentence is NOT valid", "  Failed phase: " ++ phase.name, "", "  Diagnostics:"] ++
        a.messages.map fun m => "    • " ++ m

/-- The step-by-step analysis of a text. -/
def explain (text : String) : String :=
  let rule := Text.times 70 "="
  let thin := Text.times 70 "-"
  let a := analyze text
  let treeLines :=
    match Derivation.ofAnalysis? a with
    | some t => ["", "STEP 3: DERIVATION TREE", thin, t.draw]
    | none => []
  Text.joinLines
    ([rule, "STEP-BY-STEP ANALYSIS: '" ++ text ++ "'", rule, "",
        "STEP 1: LEXICAL ANALYSIS (tokenization)", thin] ++
      numbered "  Token " ": " (a.words.map Token.describe) ++
      ["", "STEP 2: SYNTACTIC ANALYSIS", thin] ++
      syntaxLines a ++
      treeLines ++
      ["", rule])

end Oracion
