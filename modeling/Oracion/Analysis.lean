import Oracion.Sentence.Recognizer

/-!
# Analyses

The analysis of a text: its tokens and a verdict.  A text with words outside the
vocabulary is rejected at once, with a diagnostic for each of them; any other text is
matched against the grammar.

## Main definitions

* `Verdict`, `Analysis` — the result for a text.
* `analyzeWith`, `analyze` — the analysis of a text.
-/

namespace Oracion

/-- Whether a text is a sentence, and if not in which phase it fails and why. -/
inductive Verdict where
  /-- It is a sentence. -/
  | valid
  /-- It is not. -/
  | invalid (phase : Phase) (diagnostics : List Diagnostic)
  deriving DecidableEq, Repr, Inhabited

/-- What is known of a text. -/
structure Analysis where
  /-- The text as it was given. -/
  source : String
  /-- Its tokens. -/
  tokens : List Token
  /-- Whether it is a sentence. -/
  verdict : Verdict
  deriving DecidableEq, Repr, Inhabited

namespace Analysis

/-- Whether the text is a sentence. -/
def isValid (a : Analysis) : Bool :=
  match a.verdict with
  | .valid => true
  | .invalid .. => false

/-- The phase that rejects the text. -/
def phase (a : Analysis) : Option Phase :=
  match a.verdict with
  | .valid => none
  | .invalid phase _ => some phase

/-- What is wrong with the text. -/
def diagnostics (a : Analysis) : List Diagnostic :=
  match a.verdict with
  | .valid => []
  | .invalid _ diagnostics => diagnostics

/-- The tokens of the text that are words. -/
def words (a : Analysis) : List Token := Token.proper a.tokens

/-- What is wrong with the text, as text. -/
def messages (a : Analysis) : List String := a.diagnostics.map Diagnostic.message

end Analysis

/-- The diagnostics of the lexical phase: one for each word outside the vocabulary. -/
def lexicalDiagnostics (ts : List Token) : List Diagnostic :=
  (Token.unknowns ts).map fun t => .unknownWord t.text t.position

/-- Analyzes a text and tells a tracer how. -/
def analyzeWith (text : String) (tracer : Tracer) : Analysis × Tracer :=
  let tracer := tracer.record (.analysisStart text)
  let tokens := tokenize text
  let tracer := tracer.record (.tokenized tokens.length)
  let unknown := lexicalDiagnostics tokens
  let tracer := tracer.record (.lexicalGate unknown.length)
  let (verdict, tracer) : Verdict × Tracer :=
    if unknown.isEmpty then
      let (outcome, tracer) := recognizeWith tokens tracer
      (if outcome.success then .valid else .invalid .syntactic outcome.diagnostics, tracer)
    else (.invalid .lexical unknown, tracer)
  let analysis : Analysis := ⟨text, tokens, verdict⟩
  (analysis, tracer.record (.analysisEnd analysis.isValid))

/-- Analyzes a text. -/
def analyze (text : String) : Analysis := (analyzeWith text .off).1

end Oracion
