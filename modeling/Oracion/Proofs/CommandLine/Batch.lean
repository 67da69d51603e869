import Oracion.CommandLine
import Oracion.Proofs.Report.Lines

/-!
# Runs in batch mode

In batch mode a run ends with its first stage, so once its options are read and its corpus is
there, all that it prints is the report on the corpus.  With JSON asked for and no summary, what
is printed falls into one line for each text of the corpus, which says what there is to say of
the text.  The exception is a corpus that is not empty and still has no text, being all blank
lines and comments: then one empty line is printed.

## Main results

* `Text.lines_endLines` — texts one under the other have these texts as lines.
* `CommandLine.ReportsOn.run_eq` — what a run in batch mode comes to.
* `CommandLine.run_json_lines_iff` — **one line for each text, but for a corpus of none.**
-/

namespace Oracion

/-! ### Lines -/

namespace Chars

variable {α : Type} [DecidableEq α] {cr lf : α}

theorem splitLines_lf_cons (as : List α) :
    splitLines cr lf (lf :: as) = [] :: splitLines cr lf as := by
  cases as with
  | nil => simp [splitLines]
  | cons b as => simp [splitLines]

/-- An item that is neither of the marks belongs to the first line of what follows it. -/
theorem splitLines_cons_of_ne {a b : α} (hlf : a ≠ lf) (hcr : a ≠ cr) (as : List α) :
    splitLines cr lf (a :: b :: as) = consLine a (splitLines cr lf (b :: as)) := by
  simp [splitLines, hlf, hcr]

/-- What has neither of the marks in it and a line feed after it is a line. -/
theorem splitLines_append_lf_cons {l : List α} (hlf : lf ∉ l) (hcr : cr ∉ l) (as : List α) :
    splitLines cr lf (l ++ lf :: as) = l :: splitLines cr lf as := by
  induction l with
  | nil => exact splitLines_lf_cons as
  | cons a l ih =>
    rw [List.mem_cons, not_or] at hlf hcr
    have htail := ih hlf.2 hcr.2
    -- the line goes on, be it only to its end
    obtain ⟨b, bs, hb⟩ : ∃ b bs, l ++ lf :: as = b :: bs := by
      cases l with
      | nil => exact ⟨lf, as, rfl⟩
      | cons b l => exact ⟨b, l ++ lf :: as, rfl⟩
    rw [List.cons_append, hb, splitLines_cons_of_ne (Ne.symm hlf.1) (Ne.symm hcr.1), ← hb, htail]
    rfl

end Chars

namespace Text

theorem endLines_cons (l : String) (ls : List String) :
    endLines (l :: ls) = l ++ "\n" ++ endLines ls := by
  simp [endLines, String.join_cons]

/-- Texts without ends of lines that stand one under the other are the lines. -/
theorem lines_endLines {ls : List String} (h : ∀ l ∈ ls, '\n' ∉ l.toList ∧ '\r' ∉ l.toList) :
    lines (endLines ls) = ls := by
  induction ls with
  | nil => rfl
  | cons l ls ih =>
    rw [List.forall_mem_cons] at h
    have htoList : (endLines (l :: ls)).toList = l.toList ++ '\n' :: (endLines ls).toList := by
      simp [endLines_cons]
    rw [lines, Chars.lines, htoList, Chars.splitLines_append_lf_cons h.1.1 h.1.2, List.map_cons,
      String.ofList_toList]
    exact congrArg (l :: ·) (ih h.2)

/-- A line feed after the last of some texts makes up for the one that was left out. -/
theorem endLines_joinLines {ls : List String} (h : ls ≠ []) :
    endLines [joinLines ls] = endLines ls := by
  induction ls with
  | nil => exact absurd rfl h
  | cons l ls ih =>
    cases ls with
    | nil => rw [joinLines, String.intercalate_singleton]
    | cons l' ls =>
      have hrest := ih (List.cons_ne_nil _ _)
      rw [endLines_cons] at hrest ⊢
      rw [endLines_cons l, ← hrest]
      simp [joinLines, String.intercalate_cons_cons, String.append_assoc]

end Text

/-! ### Runs -/

/-- The bytes of a text are read as the text. -/
theorem decodeText_toUTF8 (text : String) : decodeText text.toUTF8 = .ok text := by
  have hvalid : text.toUTF8.IsValidUTF8 := text.isValidUTF8
  have htext : String.fromUTF8? text.toUTF8 = some text := dif_pos hvalid
  rw [decodeText, htext]

@[simp] theorem Options.report_empty (o : Options) (elapsed : Nat → Duration) :
    o.report elapsed "" = ("", "") := rfl

theorem Options.report_of_ne {corpus : String} (h : corpus ≠ "") (o : Options)
    (elapsed : Nat → Duration) :
    o.report elapsed corpus =
      (o.page (Report.run elapsed (corpusTexts corpus) o.tracer).1,
        (Report.run elapsed (corpusTexts corpus) o.tracer).2.echoText) := by
  rw [report, if_neg (by simpa using h)]

namespace CommandLine

variable {arguments : List String} {inputs : Inputs} {o : Options} {corpus : String}

/-- A run in batch mode that is not asked about itself and can read its corpus. -/
structure ReportsOn (arguments : List String) (inputs : Inputs) (o : Options) (corpus : String) :
    Prop where
  /-- The options are accepted. -/
  read : Options.read arguments = .ok o
  /-- The mode is batch. -/
  batch : o.batch = true
  /-- Help is not asked for. -/
  help : o.help = false
  /-- The version is not asked for. -/
  version : o.version = false
  /-- The files, or the standard input, can be read. -/
  corpus : o.corpus inputs = .ok corpus

/-- Such a run ends well and prints the report on its corpus. -/
theorem ReportsOn.run_eq (h : ReportsOn arguments inputs o corpus) (elapsed : Nat → Duration) :
    run arguments inputs elapsed =
      ⟨0, (o.report elapsed corpus).1,
        (if o.trace then traceNotice else "") ++ (o.report elapsed corpus).2⟩ := by
  simp [run, begin, beginWith, h.read, h.batch, h.help, h.version, h.corpus]

/-! ### JSON -/

/-- The lines of a printed report are the documents of its entries. -/
theorem lines_endLines_jsonLines {r : Report} (h : r ≠ []) :
    Text.lines (Text.endLines [r.jsonLines]) = r.map fun e => e.toJson.render := by
  have hne : (r.map fun e => e.toJson.render) ≠ [] := by simpa using h
  rw [Report.jsonLines, Text.endLines_joinLines hne]
  apply Text.lines_endLines
  intro l hl
  obtain ⟨e, -, rfl⟩ := List.mem_map.mp hl
  exact ⟨Report.notMem_render_of_control (by decide) e,
    Report.notMem_render_of_control (by decide) e⟩

/-- What is printed in JSON without a summary for a corpus that is not empty. -/
theorem ReportsOn.stdout_json (h : ReportsOn arguments inputs o corpus) (hne : corpus ≠ "")
    (hjson : o.json = true) (hsummary : o.summary = false) (elapsed : Nat → Duration) :
    (run arguments inputs elapsed).stdout =
      Text.endLines [(Report.run elapsed (corpusTexts corpus) o.tracer).1.jsonLines] := by
  rw [h.run_eq elapsed, Options.report_of_ne hne]
  simp [Options.page, hjson, hsummary]

/-- **In JSON there is one line for each text of the corpus, in order, and it says what there
is to say of the text, unless the corpus has no text and is not empty.**  In that case one
empty line is printed. -/
theorem run_json_lines_iff (h : ReportsOn arguments inputs o corpus) (hjson : o.json = true)
    (hsummary : o.summary = false) (elapsed : Nat → Duration) :
    let exit := run arguments inputs elapsed
    exit.status = 0 ∧
      ((Text.lines exit.stdout).map Report.Line.read? =
          (corpusTexts corpus).mapIdx (fun i text => some (Report.Line.about text (elapsed i))) ↔
        (corpusTexts corpus = [] → corpus = "")) ∧
      (corpusTexts corpus = [] → corpus ≠ "" → exit.stdout = "\n") := by
  intro exit
  have hstatus : exit.status = 0 := congrArg Exit.status (h.run_eq elapsed)
  refine ⟨hstatus, ?_⟩
  by_cases hcorpus : corpus = ""
  · -- an empty corpus is passed over
    subst hcorpus
    have hstdout : exit.stdout = "" := congrArg Exit.stdout (h.run_eq elapsed)
    rw [hstdout]
    exact ⟨⟨fun _ _ => rfl, fun _ => rfl⟩, fun _ hne => absurd rfl hne⟩
  have hstdout : exit.stdout = _ := h.stdout_json hcorpus hjson hsummary elapsed
  rw [hstdout]
  by_cases htexts : corpusTexts corpus = []
  · -- the report is empty, and its last line feed is all that is printed
    have hprinted :
        Text.endLines [(Report.run elapsed [] o.tracer).1.jsonLines] = "\n" := rfl
    have hline : Text.lines "\n" = [""] := by decide
    rw [htexts, hprinted, hline]
    refine ⟨⟨fun hlines => ?_, fun himp => absurd (himp rfl) hcorpus⟩, fun _ _ => rfl⟩
    exact absurd hlines (List.cons_ne_nil _ _)
  · have hne : (Report.run elapsed (corpusTexts corpus) o.tracer).1 ≠ [] := by
      rw [Report.run_eq_mapIdx]
      simpa using htexts
    rw [lines_endLines_jsonLines hne, Report.map_read?_run]
    exact ⟨⟨fun _ hnil => absurd hnil htexts, fun _ => rfl⟩, fun hnil => absurd hnil htexts⟩

/-- A comment, a blank line, and two texts of which the last has no end of line. -/
theorem run_json_lines_of_comment_and_texts :
    let corpus := "# dos\n\nel perro come un hueso\r\nel gato"
    let inputs := Inputs.inFolder [] corpus.toUTF8
    ReportsOn ["--json", "-b"] inputs { batch := true, json := true } corpus ∧
      (Text.lines (run ["--json", "-b"] inputs fun _ => .zero).stdout).map Report.Line.read? =
        [some (.about "el perro come un hueso" .zero), some (.about "el gato" .zero)] := by
  intro corpus inputs
  have h : ReportsOn ["--json", "-b"] inputs { batch := true, json := true } corpus :=
    ⟨by decide, rfl, rfl, rfl, decodeText_toUTF8 corpus⟩
  have htexts : corpusTexts corpus = ["el perro come un hueso", "el gato"] := by decide
  obtain ⟨-, hlines, -⟩ := run_json_lines_iff h rfl rfl fun _ => .zero
  rw [htexts] at hlines
  exact ⟨h, hlines.mpr nofun⟩

/-- A corpus of one comment has no text, and a line is printed. -/
theorem run_json_of_comment_prints_line :
    let corpus := "# solo un comentario\n"
    let inputs := Inputs.inFolder [] corpus.toUTF8
    ReportsOn ["-b", "--json"] inputs { batch := true, json := true } corpus ∧
      corpusTexts corpus = [] ∧
      Text.lines (run ["-b", "--json"] inputs fun _ => .zero).stdout = [""] := by
  intro corpus inputs
  have h : ReportsOn ["-b", "--json"] inputs { batch := true, json := true } corpus :=
    ⟨by decide, rfl, rfl, rfl, decodeText_toUTF8 corpus⟩
  have hstdout := h.stdout_json (by decide) rfl rfl fun _ => .zero
  have htexts : corpusTexts corpus = [] := by decide
  rw [htexts] at hstdout
  refine ⟨h, htexts, ?_⟩
  rw [hstdout]
  decide

end CommandLine
end Oracion
