import Oracion.Proofs.Analysis.Chronicle
import Oracion.Proofs.CommandLine.Arguments
import Oracion.Proofs.CommandLine.Batch

/-!
# Tracing a batch

One tracer goes through all texts of a batch and echoes what it is told.  Since the analysis of
a text leaves the depth of a tracer as it is, also where it fails inside a rule, each text is
echoed as a new tracer would echo it.  So to ask a run in batch mode for a trace changes neither
what it prints nor how it ends, and beside it stand the traces of the single texts.

## Main definitions

* `Trace.Config.echoes c d es` — the lines that are echoed of events that start at depth `d`.
* `Options.traced` — options with a trace asked for.

## Main results

* `Tracer.echoed_recordAll` — what a tracer echoes depends on what it does with events and on
  its depth alone.
* `echoText_analyzeAll` — **a batch is echoed text by text.**
* `CommandLine.run_append_trace` — **a trace changes nothing else, and is that of the texts.**
-/

namespace Oracion

open Trace

/-! ### What is echoed -/

/-- The lines that are echoed of events that start at depth `d`. -/
def Trace.Config.echoes (c : Config) (d : Nat) (es : List Event) : List String :=
  if c.enabled && c.echo then
    ((entriesFrom d es).filter fun x => c.keeps x.2).map fun x =>
      Text.times x.1 "  " ++ x.2.render
  else []

theorem Trace.Config.echoes_cons (c : Config) (d : Nat) (e : Event) (es : List Event) :
    c.echoes d (e :: es) = c.echoes d [e] ++ c.echoes (e.depthAfter d) es := by
  unfold echoes
  split
  · rw [← List.map_append, ← List.filter_append]
    rfl
  · rfl

namespace Tracer

theorem echoed_record (t : Tracer) (e : Event) :
    (t.record e).echoed.toList = t.echoed.toList ++ t.config.echoes t.depth [e] := by
  cases henabled : t.config.enabled with
  | false => simp [record_of_disabled henabled, Config.echoes, henabled]
  | true =>
    cases hkeeps : t.config.keeps e with
    | false => simp [record_of_left_out henabled hkeeps, Config.echoes, hkeeps]
    | true =>
      cases hecho : t.config.echo with
      | false => simp [record_of_kept henabled hkeeps, store, Config.echoes, hecho]
      | true =>
        simp [record_of_kept henabled hkeeps, store, Config.echoes, henabled, hkeeps, hecho,
          Layout.line_plain, Record.entry]

/-- **What a tracer echoes depends on what it does with events and on its depth alone.** -/
theorem echoed_recordAll (t : Tracer) (es : List Event) :
    (t.recordAll es).echoed.toList = t.echoed.toList ++ t.config.echoes t.depth es := by
  cases henabled : t.config.enabled with
  | false => simp [recordAll_of_disabled henabled, Config.echoes, henabled]
  | true =>
    induction es generalizing t with
    | nil => simp [Config.echoes]
    | cons e es ih =>
      have hdepth : (t.record e).depth = e.depthAfter t.depth := by
        rw [depth_record, henabled, if_pos rfl]
      have hrest := ih (t.record e) (by rw [config_record, henabled])
      rw [recordAll_cons, hrest, config_record, hdepth, echoed_record, List.append_assoc,
        ← Config.echoes_cons]

end Tracer

theorem Text.endLines_append (ls ls' : List String) :
    endLines (ls ++ ls') = endLines ls ++ endLines ls' := by
  simp [endLines]

/-! ### Text by text -/

/-- An analysis tells balanced events. -/
theorem exists_balanced_analysisEvents (text : String) :
    ∃ es, Balanced es ∧ ∀ t, analyzeWith text t = (analyze text, t.recordAll es) := by
  obtain ⟨k, h⟩ := exists_chronicle_recognitionEvents (tokenize text)
  exact ⟨_, balanced_analysisEvents text h.balanced, analyzeWith_of_recognition h.tells⟩

/-- A tracer at depth zero echoes of a text what a new tracer echoes, and is left as it was
found but for that. -/
theorem echoText_analyzeWith (text : String) {t : Tracer} (h : t.depth = 0) :
    (analyzeWith text t).2.depth = 0 ∧ (analyzeWith text t).2.config = t.config ∧
      (analyzeWith text t).2.echoText =
        t.echoText ++ (analyzeWith text (.new t.config)).2.echoText := by
  obtain ⟨es, hbalanced, hes⟩ := exists_balanced_analysisEvents text
  have hechoed := t.echoed_recordAll es
  have hnew := (Tracer.new t.config).echoed_recordAll es
  simp only [hes]
  refine ⟨?_, Tracer.config_recordAll t es, ?_⟩
  · rw [Tracer.depth_recordAll_of_balanced hbalanced, h]
  · rw [Tracer.echoText, hechoed, Text.endLines_append, Tracer.echoText, Tracer.echoText, hnew, h]
    rfl

/-- **A batch is echoed text by text.**  A tracer at depth zero echoes of each text what a new
tracer echoes of that text alone. -/
theorem echoText_analyzeAll (texts : List String) {t : Tracer} (h : t.depth = 0) :
    (analyzeAll texts t).2.echoText = t.echoText ++
      String.join (texts.map fun text => (analyzeWith text (.new t.config)).2.echoText) := by
  induction texts generalizing t with
  | nil => simp [analyzeAll, String.join]
  | cons text texts ih =>
    obtain ⟨hdepth, hconfig, hecho⟩ := echoText_analyzeWith text h
    -- the rest of the batch finds the tracer at depth zero again
    have hrest : (analyzeAll (text :: texts) t).2 =
        (analyzeAll texts (analyzeWith text t).2).2 := by
      simp only [analyzeAll]
    rw [hrest, ih hdepth, hconfig, hecho, List.map_cons, String.join_cons, String.append_assoc]

/-! ### Asking for a trace -/

namespace Options

/-- Options with a trace asked for. -/
def traced (o : Options) : Options := { o with trace := true }

@[simp] theorem help_traced (o : Options) : o.traced.help = o.help := rfl

@[simp] theorem version_traced (o : Options) : o.traced.version = o.version := rfl

@[simp] theorem batch_traced (o : Options) : o.traced.batch = o.batch := rfl

@[simp] theorem corpus_traced (o : Options) (inputs : Inputs) :
    o.traced.corpus inputs = o.corpus inputs := rfl

theorem take?_traced (o : Options) (argument : String) :
    o.traced.take? argument = (o.take? argument).map traced := by
  unfold take?
  split
  case h_11 =>
    -- an argument that is no option names a file, or is a fault
    split
    · rfl
    · rfl
  all_goals rfl

theorem takeAll_traced (o : Options) (arguments : List String) :
    o.traced.takeAll arguments = (o.takeAll arguments).map traced := by
  induction arguments generalizing o with
  | nil => rfl
  | cons a as ih =>
    simp only [takeAll, take?_traced]
    cases o.take? a with
    | none => rfl
    | some o' => exact ih o'

/-- Wherever it stands among the arguments, asking for a trace does that and no more. -/
theorem takeAll_append_trace (o : Options) (as bs : List String) :
    o.takeAll (as ++ "--trace" :: bs) = (o.takeAll (as ++ bs)).map traced := by
  induction as generalizing o with
  | nil => exact takeAll_traced o bs
  | cons a as ih =>
    simp only [List.cons_append, takeAll]
    cases o.take? a with
    | none => rfl
    | some o' => exact ih o'

theorem read_append_trace (as bs : List String) :
    read (as ++ "--trace" :: bs) = (read (as ++ bs)).map traced := by
  simp only [read, takeAll_append_trace]
  cases takeAll {} (as ++ bs) with
  | error fault => rfl
  | ok o =>
    show (if o.json && o.tree then _ else _) = Except.map traced (if o.json && o.tree then _ else _)
    split
    · rfl
    · rfl

/-- Arguments with a batch option among them ask for batch mode. -/
theorem batch_of_read {o : Options} {arguments : List String} (h : read arguments = .ok o)
    (hbatch : "-b" ∈ arguments ∨ "--batch" ∈ arguments) : o.batch = true := by
  apply ((reflects_of_read h).has .batch).mpr
  rcases hbatch with hmem | hmem
  · exact ⟨"-b", hmem, by decide⟩
  · exact ⟨"--batch", hmem, by decide⟩

/-- A report is printed alike with and without a trace. -/
theorem report_traced_fst (o : Options) (elapsed : Nat → Duration) (corpus : String) :
    (o.traced.report elapsed corpus).1 = (o.report elapsed corpus).1 := by
  by_cases h : corpus = ""
  · rw [h, report_empty, report_empty]
  · rw [report_of_ne h, report_of_ne h, Report.run_eq_mapIdx, Report.run_eq_mapIdx]
    rfl

/-- The trace of a report is that of its texts, one after the other. -/
theorem report_traced_snd (o : Options) (elapsed : Nat → Duration) (corpus : String) :
    (o.traced.report elapsed corpus).2 =
      String.join ((corpusTexts corpus).map fun text =>
        (analyzeWith text .echoing).2.echoText) := by
  by_cases h : corpus = ""
  · rw [h]
    rfl
  · have hecho := echoText_analyzeAll (corpusTexts corpus) (t := .echoing) rfl
    have hnothing : Tracer.echoing.echoText = "" := rfl
    have hrun : (Report.run elapsed (corpusTexts corpus) o.traced.tracer).2 =
        (analyzeAll (corpusTexts corpus) .echoing).2 := by
      simp only [Report.run]
      rfl
    rw [report_of_ne h, hrun, hecho, hnothing, String.empty_append]
    rfl

end Options

namespace CommandLine

/-- A run prints and ends as its first stage has it. -/
theorem run_congr {arguments arguments' : List String} {inputs : Inputs}
    {elapsed : Nat → Duration}
    (hstdout : (begin arguments inputs elapsed).stdout = (begin arguments' inputs elapsed).stdout)
    (hnext : (begin arguments inputs elapsed).next = (begin arguments' inputs elapsed).next) :
    (run arguments inputs elapsed).stdout = (run arguments' inputs elapsed).stdout ∧
      (run arguments inputs elapsed).status = (run arguments' inputs elapsed).status := by
  simp only [run, hnext, hstdout]
  cases (begin arguments' inputs elapsed).next with
  | done => exact ⟨rfl, rfl⟩
  | failed fault => exact ⟨rfl, rfl⟩
  | dialogue tracing withBanner =>
    dsimp only
    cases ((Dialogue.start tracing).run withBanner inputs.readings).ending with
    | left => exact ⟨rfl, rfl⟩
    | failed fault => exact ⟨rfl, rfl⟩

/-- In batch mode a trace changes neither what is printed nor what follows. -/
theorem beginWith_traced {o : Options} (h : o.batch = true) (inputs : Inputs)
    (elapsed : Nat → Duration) :
    (beginWith o.traced inputs elapsed).stdout = (beginWith o inputs elapsed).stdout ∧
      (beginWith o.traced inputs elapsed).next = (beginWith o inputs elapsed).next := by
  unfold beginWith
  by_cases hhelp : o.help = true
  · simp [hhelp]
  by_cases hversion : o.version = true
  · simp [hhelp, hversion]
  cases hcorpus : o.corpus inputs with
  | error fault => simp [hhelp, hversion, hcorpus]
  | ok corpus => simp [hhelp, hversion, hcorpus, h, o.report_traced_fst]

theorem begin_append_trace {as bs : List String} (h : "-b" ∈ as ++ bs ∨ "--batch" ∈ as ++ bs)
    (inputs : Inputs) (elapsed : Nat → Duration) :
    (begin (as ++ "--trace" :: bs) inputs elapsed).stdout =
        (begin (as ++ bs) inputs elapsed).stdout ∧
      (begin (as ++ "--trace" :: bs) inputs elapsed).next =
        (begin (as ++ bs) inputs elapsed).next := by
  simp only [begin, Options.read_append_trace]
  cases hread : Options.read (as ++ bs) with
  | error fault => exact ⟨rfl, rfl⟩
  | ok o => exact beginWith_traced (Options.batch_of_read hread h) inputs elapsed

/-- A run that is not asked about itself and ends well could read its corpus. -/
theorem exists_corpus_of_status {arguments : List String} {inputs : Inputs} {o : Options}
    {elapsed : Nat → Duration} (hread : Options.read arguments = .ok o) (hhelp : o.help = false)
    (hversion : o.version = false) (hstatus : (run arguments inputs elapsed).status = 0) :
    ∃ corpus, o.corpus inputs = .ok corpus := by
  cases hcorpus : o.corpus inputs with
  | ok corpus => exact ⟨corpus, rfl⟩
  | error fault =>
    have hfailed : (run arguments inputs elapsed).status = 1 := by
      simp [run, begin, beginWith, failure, hread, hhelp, hversion, hcorpus]
    omega

/-- **A trace changes nothing else, and is that of the texts.**  Wherever it stands among
arguments that ask for batch mode, asking for a trace leaves what is printed and the status as
they are, for any times that the analyses take.  If the run is not asked about itself and ends
well, a notice is printed beside it, and then for each text of the corpus, in order, what a new
tracer echoes of the analysis of that text alone. -/
theorem run_append_trace (as bs : List String) (inputs : Inputs) (elapsed : Nat → Duration)
    (h : "-b" ∈ as ++ bs ∨ "--batch" ∈ as ++ bs) :
    let plain := run (as ++ bs) inputs elapsed
    let traced := run (as ++ "--trace" :: bs) inputs elapsed
    traced.stdout = plain.stdout ∧ traced.status = plain.status ∧
      ∀ o, Options.read (as ++ "--trace" :: bs) = .ok o → o.help = false → o.version = false →
        traced.status = 0 →
        ∃ corpus, o.corpus inputs = .ok corpus ∧
          traced.stderr = traceNotice ++ String.join ((corpusTexts corpus).map fun text =>
            (analyzeWith text .echoing).2.echoText) := by
  intro plain traced
  obtain ⟨hstdout, hnext⟩ := begin_append_trace h inputs elapsed
  obtain ⟨hprinted, hstatus⟩ := run_congr hstdout hnext
  refine ⟨hprinted, hstatus, fun o hread hhelp hversion hzero => ?_⟩
  obtain ⟨corpus, hcorpus⟩ := exists_corpus_of_status hread hhelp hversion hzero
  refine ⟨corpus, hcorpus, ?_⟩
  -- the options are those without the trace, and the trace
  rw [Options.read_append_trace] at hread
  cases hplain : Options.read (as ++ bs) with
  | error fault => simp [hplain, Except.map] at hread
  | ok o₀ =>
    obtain rfl : o₀.traced = o := by simpa [hplain, Except.map] using hread
    have hbatch : o₀.traced.batch = true := Options.batch_of_read (o := o₀) hplain h
    have hrun : ReportsOn (as ++ "--trace" :: bs) inputs o₀.traced corpus := by
      refine ⟨?_, hbatch, hhelp, hversion, hcorpus⟩
      rw [Options.read_append_trace, hplain]
      rfl
    have hstderr := congrArg Exit.stderr (hrun.run_eq elapsed)
    rw [Options.report_traced_snd] at hstderr
    exact hstderr

/-- A text that fails inside a rule, and a sentence after it. -/
theorem run_append_trace_of_missing_verb :
    let corpus := "el perro\nel perro come un hueso\n"
    let inputs := Inputs.inFolder [] corpus.toUTF8
    ("-b" ∈ ["-b"] ++ ["--json"] ∨ "--batch" ∈ ["-b"] ++ ["--json"]) ∧
      (run (["-b"] ++ "--trace" :: ["--json"]) inputs fun _ => .zero).status = 0 ∧
      (run (["-b"] ++ "--trace" :: ["--json"]) inputs fun _ => .zero).stdout =
        (run (["-b"] ++ ["--json"]) inputs fun _ => .zero).stdout ∧
      (run (["-b"] ++ "--trace" :: ["--json"]) inputs fun _ => .zero).stderr =
        traceNotice ++ String.join [(analyzeWith "el perro" .echoing).2.echoText,
          (analyzeWith "el perro come un hueso" .echoing).2.echoText] := by
  intro corpus inputs
  have hbatch : "-b" ∈ ["-b"] ++ ["--json"] ∨ "--batch" ∈ ["-b"] ++ ["--json"] :=
    .inl List.mem_cons_self
  have hreports : ReportsOn (["-b"] ++ "--trace" :: ["--json"]) inputs
      { batch := true, trace := true, json := true } corpus :=
    ⟨by decide, rfl, rfl, rfl, decodeText_toUTF8 corpus⟩
  have hzero : (run (["-b"] ++ "--trace" :: ["--json"]) inputs fun _ => .zero).status = 0 :=
    congrArg Exit.status (hreports.run_eq _)
  have htexts : corpusTexts corpus = ["el perro", "el perro come un hueso"] := by decide
  obtain ⟨hstdout, -, hstderr⟩ :=
    run_append_trace ["-b"] ["--json"] inputs (fun _ => .zero) hbatch
  obtain ⟨corpus', hcorpus, hecho⟩ := hstderr _ hreports.read rfl rfl hzero
  have hsame : corpus = corpus' := Except.ok.inj (hreports.corpus.symm.trans hcorpus)
  rw [← hsame, htexts] at hecho
  exact ⟨hbatch, hzero, hstdout, hecho⟩

end CommandLine
end Oracion
