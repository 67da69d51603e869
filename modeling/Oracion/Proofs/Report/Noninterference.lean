import Oracion.Proofs.Trace.Reporting
import Oracion.Report

/-!
# Tracing changes no result

A batch is analyzed with one tracer, so each text finds the tracer as the texts before have
left it.  No analysis shows that: a report holds for each text the analysis that the text
has on its own, whatever the tracer keeps, leaves out or echoes.  In particular a text can be
analyzed again from its entry in a report, with the same result.

## Main results

* `analyzeAll_eq_recordAll` — the analyses of a batch, and what its tracer is told.
* `tracing_changes_no_result` — **no outcome, analysis or report depends on the tracer.**
-/

namespace Oracion

open Trace

/-- The texts of a batch are analyzed each on its own, and the tracer is told of one after
the other. -/
theorem analyzeAll_eq_recordAll (texts : List String) :
    ∃ es, ∀ t, analyzeAll texts t = (texts.map analyze, t.recordAll es) := by
  induction texts with
  | nil => exact ⟨[], fun t => rfl⟩
  | cons text texts ih =>
    obtain ⟨es, hes⟩ := analyzeWith_eq_recordAll text
    obtain ⟨fs, hfs⟩ := ih
    refine ⟨es ++ fs, fun t => ?_⟩
    -- the rest of the batch finds the tracer as `text` has left it
    have hrest := hfs (t.recordAll es)
    simp only [analyzeAll, hes, hrest, List.map_cons, Tracer.recordAll_append]

namespace Report

/-- A report holds the analyses that the texts have on their own, in order. -/
theorem map_analysis_run (elapsed : Nat → Duration) (texts : List String) (t : Tracer) :
    (run elapsed texts t).1.map Entry.analysis = texts.map analyze := by
  obtain ⟨es, hes⟩ := analyzeAll_eq_recordAll texts
  simp only [run, hes]
  generalize texts.map analyze = as
  refine List.ext_getElem? fun i => ?_
  simp only [List.getElem?_map, List.getElem?_mapIdx, Option.map_map]
  exact congrFun Option.map_id _

end Report

/-- **Tracing changes no result.**  Whatever state a tracer is in and whatever it does with
events, texts have the same analyses and tokens the same outcomes as without it; a report
made with it holds for each text, in order, the analysis of that text, and to analyze the
source of an entry again gives the analysis of the entry. -/
theorem tracing_changes_no_result (t : Tracer) :
    (∀ text, (analyzeWith text t).1 = analyze text) ∧
      (∀ ts, (recognizeWith ts t).1 = recognize ts) ∧
      ∀ (elapsed : Nat → Duration) (texts : List String),
        let r := (Report.run elapsed texts t).1
        r.map Report.Entry.analysis = texts.map analyze ∧
          r.map (fun e => analyze e.analysis.source) = r.map Report.Entry.analysis := by
  refine ⟨fun text => ?_, fun ts => ?_, fun elapsed texts => ?_⟩
  · obtain ⟨es, hes⟩ := analyzeWith_eq_recordAll text
    rw [hes]
  · obtain ⟨es, hes⟩ := recognizeWith_eq_recordAll ts
    rw [hes]
  · intro r
    have hmap : r.map Report.Entry.analysis = texts.map analyze :=
      Report.map_analysis_run elapsed texts t
    refine ⟨hmap, ?_⟩
    calc r.map (fun e => analyze e.analysis.source)
        = (r.map Report.Entry.analysis).map fun a => analyze a.source := by
          rw [List.map_map]
          rfl
      _ = texts.map fun text => analyze (analyze text).source := by
          rw [hmap, List.map_map]
          rfl
      _ = texts.map analyze := by
          refine List.map_congr_left fun text _ => ?_
          rw [(source_tokens_analyze text).1]
      _ = r.map Report.Entry.analysis := hmap.symm

end Oracion
