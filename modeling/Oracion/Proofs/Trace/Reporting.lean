import Oracion.Analysis
import Oracion.Proofs.Sentence.Account

/-!
# What an analysis tells

An analysis tells a tracer what it does and never asks it anything.  So there is a list of
events, the same for all tracers, such that the result does not depend on the tracer and
the tracer ends up as if it had been told the events of the list one after the other.

## Main definitions

* `openingEvents text`, `analysisEvents text es` — the events with which the analysis of a
  text starts, and all of them.
* `Outcome.verdict` — the verdict of the recognizer.

## Main results

* `recognizeWith_eq_recordAll`, `analyzeWith_eq_recordAll` — **the result does not depend
  on the tracer, and neither do the events.**
-/

namespace Oracion

open Trace

/-! ### The recognizer and the analysis -/

/-- **The outcome does not depend on the tracer, and neither do the events.** -/
theorem recognizeWith_eq_recordAll (ts : List Token) :
    ∃ es, ∀ t, recognizeWith ts t = (recognize ts, t.recordAll es) := by
  obtain ⟨k, es, h⟩ := exists_chronicle ts
  exact ⟨es, h.tells⟩

/-- The verdict of the recognizer. -/
def Outcome.verdict (o : Outcome) : Verdict :=
  if o.success then .valid else .invalid .syntactic o.diagnostics

/-- The events with which the analysis of a text starts. -/
def openingEvents (text : String) : List Event :=
  [.analysisStart text, .tokenized (tokenize text).length,
    .lexicalGate (lexicalDiagnostics (tokenize text)).length]

/-- A text with unknown words is rejected for them. -/
theorem analyzeWith_of_unknown {text : String} (h : lexicalDiagnostics (tokenize text) ≠ [])
    (t : Tracer) :
    analyzeWith text t =
      (⟨text, tokenize text, .invalid .lexical (lexicalDiagnostics (tokenize text))⟩,
        (t.recordAll (openingEvents text)).record (.analysisEnd false)) := by
  rw [← List.isEmpty_eq_false_iff] at h
  simp only [analyzeWith, h]
  rfl

/-- A text without unknown words has the verdict of the recognizer. -/
theorem analyzeWith_of_known {text : String} (h : lexicalDiagnostics (tokenize text) = [])
    {t t' : Tracer} {o : Outcome}
    (ho : recognizeWith (tokenize text) (t.recordAll (openingEvents text)) = (o, t')) :
    analyzeWith text t =
      (⟨text, tokenize text, o.verdict⟩, t'.record (.analysisEnd o.success)) := by
  simp only [openingEvents, Tracer.recordAll_cons, Tracer.recordAll_nil, h] at ho
  simp only [analyzeWith, h, ho, List.isEmpty_nil, if_true]
  obtain ⟨success, diagnostics⟩ := o
  cases success <;> rfl

theorem analyze_of_unknown {text : String} (h : lexicalDiagnostics (tokenize text) ≠ []) :
    analyze text =
      ⟨text, tokenize text, .invalid .lexical (lexicalDiagnostics (tokenize text))⟩ := by
  rw [analyze, analyzeWith_of_unknown h]

theorem analyze_of_known {text : String} (h : lexicalDiagnostics (tokenize text) = []) :
    analyze text = ⟨text, tokenize text, (recognize (tokenize text)).verdict⟩ := by
  obtain ⟨es, hes⟩ := recognizeWith_eq_recordAll (tokenize text)
  rw [analyze, analyzeWith_of_known h (hes _)]

/-- An analysis keeps the text as it was given, and its tokens. -/
theorem source_tokens_analyze (text : String) :
    (analyze text).source = text ∧ (analyze text).tokens = tokenize text := by
  by_cases h : lexicalDiagnostics (tokenize text) = []
  · rw [analyze_of_known h]
    exact ⟨rfl, rfl⟩
  · rw [analyze_of_unknown h]
    exact ⟨rfl, rfl⟩

/-- The events of the analysis of a text, if `es` are those of the recognition of its
tokens. -/
def analysisEvents (text : String) (es : List Event) : List Event :=
  openingEvents text ++ (if lexicalDiagnostics (tokenize text) = [] then es else []) ++
    [.analysisEnd (analyze text).isValid]

theorem isValid_verdict (text : String) (ts : List Token) (o : Outcome) :
    (Analysis.mk text ts o.verdict).isValid = o.success := by
  obtain ⟨success, diagnostics⟩ := o
  cases success <;> rfl

/-- An analysis tells what the recognition tells, between events of its own. -/
theorem analyzeWith_of_recognition {text : String} {es : List Event}
    (h : ∀ t, recognizeWith (tokenize text) t = (recognize (tokenize text), t.recordAll es))
    (t : Tracer) :
    analyzeWith text t = (analyze text, t.recordAll (analysisEvents text es)) := by
  by_cases hknown : lexicalDiagnostics (tokenize text) = []
  · rw [analysisEvents, if_pos hknown, analyze_of_known hknown, isValid_verdict,
      analyzeWith_of_known hknown (h _), Tracer.recordAll_append, Tracer.recordAll_append]
    rfl
  · rw [analysisEvents, if_neg hknown, analyze_of_unknown hknown, analyzeWith_of_unknown hknown,
      List.append_nil, Tracer.recordAll_append]
    rfl

/-- **The analysis does not depend on the tracer, and neither do the events.** -/
theorem analyzeWith_eq_recordAll (text : String) :
    ∃ es, ∀ t, analyzeWith text t = (analyze text, t.recordAll es) := by
  obtain ⟨es, hes⟩ := recognizeWith_eq_recordAll (tokenize text)
  exact ⟨_, analyzeWith_of_recognition hes⟩

end Oracion
