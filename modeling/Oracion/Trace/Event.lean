import Oracion.Category

/-!
# Events of an analysis

What an analysis reports of itself while it runs: where it starts and ends, what its
phases find, which rules of the grammar it enters and leaves, and each attempt to
match a token.

## Main definitions

* `Production` — the rules of the grammar that an analysis goes through.
* `Event`, `Event.kind` — what can be reported, and the name that a filter uses for it.
* `Event.render` — an event as text.
* `Record` — an event with its number, depth and time.
-/

namespace Oracion
namespace Trace

/-- A rule of the grammar. -/
inductive Production where
  /-- A whole sentence. -/
  | sentence
  /-- The noun phrase before the verb. -/
  | subject
  /-- The verb and what follows it. -/
  | predicate
  /-- The noun phrase after the verb. -/
  | complement
  deriving DecidableEq, Repr, Inhabited

/-- The symbol of a rule. -/
def Production.symbol : Production → String
  | .sentence => "<sentence>"
  | .subject => "<subject>"
  | .predicate => "<predicate>"
  | .complement => "<complement>"

/-- Something that an analysis reports. -/
inductive Event where
  /-- The analysis of a text starts. -/
  | analysisStart (source : String)
  /-- The text has so many tokens, the marker of the end included. -/
  | tokenized (count : Nat)
  /-- So many words are not in the vocabulary. -/
  | lexicalGate (unknown : Nat)
  /-- The matching of a rule starts. -/
  | productionEnter (production : Production)
  /-- The matching of a rule ends. -/
  | productionExit (production : Production) (success : Bool)
  /-- A token is of the category asked for. -/
  | matched (category : Category) (position : Nat)
  /-- A token is not of the category asked for. -/
  | mismatch (expected found : Category) (position : Nat)
  /-- Something follows a complete sentence. -/
  | trailingTokens (position : Nat)
  /-- The analysis ends. -/
  | analysisEnd (valid : Bool)
  deriving DecidableEq, Repr, Inhabited

namespace Event

/-- The name of an event's kind. -/
def kind : Event → String
  | analysisStart _ => "analysis-start"
  | tokenized _ => "tokenized"
  | lexicalGate _ => "lexical-gate"
  | productionEnter _ => "production-enter"
  | productionExit .. => "production-exit"
  | matched .. => "matched"
  | mismatch .. => "mismatch"
  | trailingTokens _ => "trailing-tokens"
  | analysisEnd _ => "analysis-end"

/-- An event as text. -/
def render : Event → String
  | analysisStart source => "=== ANALYZE '" ++ source ++ "' ==="
  | tokenized count => "tokenized into " ++ toString count ++ " tokens"
  | lexicalGate 0 => "lexical gate passed"
  | lexicalGate (n + 1) => "lexical gate FAILED (" ++ toString (n + 1) ++ " unknown)"
  | productionEnter p => ">> " ++ p.symbol
  | productionExit p success => "<< " ++ p.symbol ++ (if success then " OK" else " FAILED")
  | matched category position => "match " ++ category.name ++ " @" ++ toString position
  | mismatch expected found position =>
      "MISMATCH @" ++ toString position ++ ": wanted " ++ expected.name ++ ", saw " ++ found.name
  | trailingTokens position => "TRAILING tokens from @" ++ toString position
  | analysisEnd valid => if valid then "=== VALID ===" else "=== INVALID ==="

end Event

/-- An event as a tracer keeps it. -/
structure Record where
  /-- How many events the tracer kept before. -/
  id : Nat
  /-- How many rules were being matched. -/
  depth : Nat
  /-- The event. -/
  event : Event
  /-- Nanoseconds since the tracer was made, zero where no clock was read. -/
  nanos : Nat := 0
  deriving DecidableEq, Repr, Inhabited

end Trace
end Oracion
