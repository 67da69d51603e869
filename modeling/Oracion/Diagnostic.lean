import Oracion.Category

/-!
# Diagnostics

Why a text is not a sentence.  Diagnostics are values: every text has an analysis, and
a rejected one carries these.

## Main definitions

* `Phase` — the phase of the analysis that rejects a text.
* `Diagnostic`, with `message`, `phase` and `position`.
-/

namespace Oracion

/-- A phase of the analysis. -/
inductive Phase where
  /-- Looking words up. -/
  | lexical
  /-- Matching categories against the grammar. -/
  | syntactic
  deriving DecidableEq, Repr, Inhabited

/-- The name of a phase. -/
def Phase.name : Phase → String
  | .lexical => "lexical"
  | .syntactic => "syntactic"

/-- One thing that is wrong with a text. -/
inductive Diagnostic where
  /-- A word is not in the vocabulary. -/
  | unknownWord (word : String) (position : Nat)
  /-- A token is not of the category that the grammar asks for. -/
  | unexpected (position : Nat) (expected found : Category) (text : String)
  /-- Something follows a complete sentence. -/
  | trailing (position : Nat) (text : String)
  deriving DecidableEq, Repr, Inhabited

namespace Diagnostic

/-- A diagnostic as text. -/
def message : Diagnostic → String
  | unknownWord word _ => "unrecognized word: '" ++ word ++ "'"
  | unexpected position expected found text =>
      "at position " ++ toString position ++ ": expected " ++ expected.name ++ " but found " ++
        found.name ++ " ('" ++ text ++ "')"
  | trailing _ text => "unexpected tokens after the end of the sentence: '" ++ text ++ "'"

/-- The phase that reports a diagnostic. -/
def phase : Diagnostic → Phase
  | unknownWord .. => .lexical
  | unexpected .. => .syntactic
  | trailing .. => .syntactic

/-- Where in the input the fault is. -/
def position : Diagnostic → Nat
  | unknownWord _ p => p
  | unexpected p .. => p
  | trailing p _ => p

end Diagnostic
end Oracion
