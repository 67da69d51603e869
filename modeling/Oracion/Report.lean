import Oracion.Duration
import Oracion.Json.Codec

/-!
# Reports on many texts

A batch of texts is analyzed in order with one tracer.  The report keeps each analysis
with the time that it took; its summary counts verdicts and adds times up.

## Main definitions

* `corpusTexts` — the texts of a corpus: its lines that are neither blank nor comments.
* `Report`, `Report.run` — reports, and the report on a list of texts.
* `Report.jsonLines` — a report as lines of JSON.
* `Summary`, `Report.summary`, `Summary.render` — the aggregate of a report.
-/

namespace Oracion

/-- The texts of a corpus: its lines without the blanks around them, except those that
are empty or start with a number sign. -/
def corpusTexts (corpus : String) : List String :=
  ((Text.lines corpus).map Text.trim).filter fun l => !l.isEmpty && !Text.startsWith l "#"

/-- Analyzes texts one after the other with the same tracer. -/
def analyzeAll : List String → Tracer → List Analysis × Tracer
  | [], tracer => ([], tracer)
  | text :: texts, tracer =>
      let (a, tracer) := analyzeWith text tracer
      let (as, tracer) := analyzeAll texts tracer
      (a :: as, tracer)

/-- One text of a report. -/
structure Report.Entry where
  /-- Its analysis. -/
  analysis : Analysis
  /-- How long the analysis took. -/
  elapsed : Duration
  deriving DecidableEq, Repr, Inhabited

/-- The analyses of a batch, in order. -/
abbrev Report := List Report.Entry

/-- What a report comes to. -/
structure Summary where
  /-- How many texts there are. -/
  total : Nat := 0
  /-- How many of them are sentences. -/
  valid : Nat := 0
  /-- How many fail in the lexical phase. -/
  lexical : Nat := 0
  /-- How many fail in the syntactic phase. -/
  syntactic : Nat := 0
  /-- How long all analyses took together. -/
  totalTime : Duration := .zero
  /-- How long the longest took. -/
  maxTime : Duration := .zero
  deriving DecidableEq, Repr, Inhabited

namespace Report

/-- The report on texts that are analyzed with a tracer, where the `i`-th analysis takes
the time `elapsed i`. -/
def run (elapsed : Nat → Duration) (texts : List String) (tracer : Tracer) : Report × Tracer :=
  let (as, tracer) := analyzeAll texts tracer
  (as.mapIdx fun i a => ⟨a, elapsed i⟩, tracer)

/-- An entry as a document: the members of its analysis, and the time in whole
microseconds as far as they can be written. -/
def Entry.toJson (e : Entry) : Json :=
  .ofFields (e.analysis.fields ++
    [("elapsed_us", .ofNat (min e.elapsed.micros Decimal.maxWord))])

/-- A report as JSON, one document a line. -/
def jsonLines (r : Report) : String := Text.joinLines (r.map fun e => e.toJson.render)

end Report

namespace Summary

/-- Counts an entry. -/
def add (s : Summary) (e : Report.Entry) : Summary :=
  { total := s.total + 1
    valid := s.valid + if e.analysis.phase = none then 1 else 0
    lexical := s.lexical + if e.analysis.phase = some .lexical then 1 else 0
    syntactic := s.syntactic + if e.analysis.phase = some .syntactic then 1 else 0
    totalTime := s.totalTime.add e.elapsed
    maxTime := s.maxTime.max e.elapsed }

/-- The summary of nothing. -/
def empty : Summary := ⟨0, 0, 0, 0, .zero, .zero⟩

/-- The largest number of texts that a mean is taken of. -/
def maxShares : Nat := 4294967295

/-- How long an analysis took on average, in whole nanoseconds; zero where there is
nothing to share or too much. -/
def meanTime (s : Summary) : Duration :=
  if 0 < s.total ∧ s.total ≤ maxShares then s.totalTime.share s.total else .zero

/-- A part of the texts in percent, with one place. -/
def percent (s : Summary) (n : Nat) : String :=
  let value : Decimal.Binary :=
    if s.total = 0 then .ofNat 0
    else ((Decimal.Binary.ofNat n).mul (.ofNat 100)).div (.ofNat s.total)
  value.fixed 1

/-- A count with its percentage. -/
def counted (s : Summary) (n : Nat) : String :=
  toString n ++ " (" ++ s.percent n ++ "%)"

/-- A summary as text. -/
def render (s : Summary) : String :=
  Text.joinLines
    ["Inputs:     " ++ toString s.total,
     "Valid:      " ++ s.counted s.valid,
     "Lexical:    " ++ s.counted s.lexical,
     "Syntactic:  " ++ s.counted s.syntactic,
     "Total time: " ++ s.totalTime.render,
     "Mean time:  " ++ s.meanTime.render,
     "Max time:   " ++ s.maxTime.render]

end Summary

/-- A duration as a document. -/
def Duration.toJson (d : Duration) : Json :=
  .ofFields [("secs", .ofNat d.seconds), ("nanos", .ofNat d.subNanos)]

/-- A summary as a document. -/
def Summary.toJson (s : Summary) : Json :=
  .ofFields [("total", .ofNat s.total), ("valid", .ofNat s.valid), ("lexical", .ofNat s.lexical),
    ("syntactic", .ofNat s.syntactic), ("total_time", s.totalTime.toJson),
    ("max_time", s.maxTime.toJson)]

/-- The summary of a report. -/
def Report.summary (r : Report) : Summary := r.foldl Summary.add .empty

end Oracion
