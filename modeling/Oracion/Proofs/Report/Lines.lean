import Oracion.Proofs.Json.Tokens
import Oracion.Proofs.Report.Noninterference

/-!
# The lines of a report

A report is printed as one document a line.  No document holds a line feed, whatever its text
holds, so the lines fall apart where they were put together, and each can be read on its own:
it says of one text all that the analysis of the text says.

## Main definitions

* `Report.Line`, `Report.Line.read?` — what a line says, and how it is read.
* `Report.Line.about` — what there is to say of a text.

## Main results

* `Report.Line.read?_render` — the line of an entry is read back.
* `Report.jsonLines_decode` — **the lines of a report say what its texts come to, in order.**
-/

namespace Oracion

/-- The number that a numeral of digits stands for, however large. -/
def Json.natural? : Json → Option Nat
  | num numeral =>
      if numeral.toList.all Char.isDigit then some (Decimal.value numeral.toList) else none
  | _ => none

theorem Json.natural?_ofNat (n : Nat) : (Json.ofNat n).natural? = some n := by
  have hdigits : (toString n).toList.all Char.isDigit = true :=
    List.all_eq_true.mpr fun c hc => Decimal.isDigit_of_mem_toString hc
  rw [ofNat, natural?, if_pos hdigits, Decimal.value_toString]

namespace Report

/-- What a line of a report says of a text. -/
structure Line where
  /-- Whether the text is a sentence. -/
  valid : Bool
  /-- The phase that rejects it, if one does. -/
  phase : Option Phase
  /-- The text. -/
  source : String
  /-- Its tokens. -/
  tokens : List Token
  /-- What is wrong with it. -/
  diagnostics : List String
  /-- How long its analysis took, in microseconds. -/
  elapsedMicros : Nat
  deriving DecidableEq, Repr, Inhabited

namespace Line

/-- The token that is an object of its category, text and position. -/
def token? : Json → Option Token
  | .obj [(some "category", category), (some "text", text), (some "position", position)] => do
      return ⟨← Category.ofJson? category, ← text.text?, ← position.natural?⟩
  | _ => none

/-- The phase that a document names; `null` names none. -/
def phase? : Json → Option (Option Phase)
  | .null => some none
  | j => (Phase.ofJson? j).map some

/-- What an object says that has the six members of a line, in this order and no others. -/
def ofJson? : Json → Option Line
  | .obj [(some "valid", .bool valid), (some "phase", phase), (some "source", source),
      (some "tokens", .arr tokens), (some "diagnostics", .arr diagnostics),
      (some "elapsed_us", elapsed)] => do
      return ⟨valid, ← phase? phase, ← source.text?, ← tokens.mapM token?,
        ← diagnostics.mapM Json.text?, ← elapsed.natural?⟩
  | _ => none

/-- What a line says, if it is a document that says something of a text. -/
def read? (line : String) : Option Line := (Json.parse? line).bind ofJson?

/-- What there is to say of a text whose analysis takes a given time. -/
def about (text : String) (elapsed : Duration) : Line where
  valid := (analyze text).isValid
  phase := (analyze text).phase
  source := text
  tokens := (analyze text).tokens
  diagnostics := (analyze text).messages
  elapsedMicros := min elapsed.micros Decimal.maxWord

end Line

/-- What the line of an entry says. -/
def Entry.line (e : Entry) : Line :=
  ⟨e.analysis.isValid, e.analysis.phase, e.analysis.source, e.analysis.tokens,
    e.analysis.messages, min e.elapsed.micros Decimal.maxWord⟩

/-! ### Reading values back -/

namespace Line

theorem token?_toJson (t : Token) : token? t.toJson = some t := by
  have hcategory : Category.ofJson? t.category.toJson = some t.category :=
    Category.ofJsonName?_jsonName t.category
  simp [Token.toJson, Json.ofFields, token?, hcategory, Json.ofString, Json.text?,
    Json.natural?_ofNat]

theorem phase?_toJson (p : Option Phase) : phase? ((p.map Phase.toJson).getD .null) = some p := by
  cases p with
  | none => rfl
  | some p =>
    have hphase : Phase.ofJson? p.toJson = some p := Phase.ofName?_name p
    show (Phase.ofJson? p.toJson).map some = some (some p)
    rw [hphase]
    rfl

/-- What is read back one by one is read back as a list. -/
theorem mapM_map_eq_some {α β : Type} {write : α → β} {read : β → Option α}
    (h : ∀ a, read (write a) = some a) (as : List α) : (as.map write).mapM read = some as := by
  induction as with
  | nil => rfl
  | cons a as ih => simp [h, ih]

theorem ofJson?_toJson (e : Entry) : ofJson? e.toJson = some e.line := by
  have htokens := mapM_map_eq_some token?_toJson e.analysis.tokens
  have hdiagnostics : (e.analysis.messages.map Json.ofString).mapM Json.text? =
      some e.analysis.messages := by
    apply mapM_map_eq_some
    exact fun message => rfl
  simp [Entry.toJson, Analysis.fields, Json.ofFields, ofJson?, phase?_toJson, htokens,
    hdiagnostics, Json.natural?_ofNat]
  rfl

end Line

/-! ### The line of an entry -/

theorem written_entry (e : Entry) : e.toJson.Written := by
  have hphase : ((e.analysis.phase.map Phase.toJson).getD .null).Written := by
    cases e.analysis.phase
    · exact .null
    · exact .str _
  apply Json.written_ofFields
  simp only [Analysis.fields, List.cons_append, List.nil_append, List.forall_mem_cons]
  exact ⟨.bool _, hphase, .str _, Json.written_map Token.written_toJson _,
    Json.written_map (fun _ => .str _) _, .nat _, nofun⟩

/-- The line of an entry is read back. -/
theorem Line.read?_render (e : Entry) : read? e.toJson.render = some e.line := by
  rw [read?, Json.parse?_render (written_entry e), Option.bind_some, ofJson?_toJson]

/-! ### The lines of a report -/

/-- A report has an entry for each text, with the analysis of the text. -/
theorem run_eq_mapIdx (elapsed : Nat → Duration) (texts : List String) (t : Tracer) :
    (run elapsed texts t).1 = texts.mapIdx fun i text => ⟨analyze text, elapsed i⟩ := by
  obtain ⟨es, hes⟩ := analyzeAll_eq_recordAll texts
  simp only [run, hes]
  apply List.mapIdx_eq_iff.mpr
  intro i
  simp only [List.getElem?_mapIdx, List.getElem?_map, Option.map_map]
  rfl

/-- No line of a report holds a control character, a line feed least of all. -/
theorem notMem_render_of_control {c : Char} (h : c.toNat < 0x20) (e : Entry) :
    c ∉ e.toJson.render.toList := by
  intro hmem
  have hle := Json.le_toNat_of_mem_render (written_entry e) _ hmem
  omega

/-- The lines of a report that is not empty fall apart where they were put together. -/
theorem split_jsonLines {r : Report} (h : r ≠ []) :
    (r.jsonLines.split '\n').toList.map (·.copy) = r.map fun e => e.toJson.render := by
  have hfree : ∀ l ∈ r.map fun e => e.toJson.render, '\n' ∉ l.toList := by
    intro l hl
    obtain ⟨e, -, rfl⟩ := List.mem_map.mp hl
    exact notMem_render_of_control (by decide) e
  have hne : (r.map fun e => e.toJson.render) ≠ [] := by simpa using h
  exact (String.toList_split_intercalate hfree).trans (if_neg hne)

/-- What the documents of a report say, read one by one. -/
theorem map_read?_run (elapsed : Nat → Duration) (texts : List String) (t : Tracer) :
    ((run elapsed texts t).1.map fun e => e.toJson.render).map Line.read? =
      texts.mapIdx fun i text => some (Line.about text (elapsed i)) := by
  symm
  apply List.mapIdx_eq_iff.mpr
  intro i
  have hsource : ∀ text, (analyze text).source = text := fun text => (source_tokens_analyze text).1
  simp only [run_eq_mapIdx, List.getElem?_map, List.getElem?_mapIdx, Option.map_map,
    Function.comp_def, Line.read?_render, Entry.line, hsource, Line.about]

/-- **The lines of a report say what its texts come to, in order.**  Split at its line feeds,
the report on a list of texts that is not empty has one piece for each of them, and the piece
says whether the text is a sentence, which phase rejects it, what it is, its tokens, what is
wrong with it and how long its analysis took. -/
theorem jsonLines_decode (elapsed : Nat → Duration) (texts : List String) (t : Tracer)
    (h : texts ≠ []) :
    ((run elapsed texts t).1.jsonLines.split '\n').toList.map
        (fun piece => Line.read? piece.copy) =
      texts.mapIdx fun i text => some (Line.about text (elapsed i)) := by
  have hne : (run elapsed texts t).1 ≠ [] := by
    rw [run_eq_mapIdx]
    simpa using h
  rw [← map_read?_run elapsed texts t, ← split_jsonLines hne]
  simp only [List.map_map, Function.comp_def]

/-- A text of several lines with quotation marks and a backslash, and one of a control
character. -/
theorem jsonLines_decode_of_unprintable :
    ["el \"perro\"\n\\", "\x01"] ≠ [] ∧
      ((run (fun _ => .zero) ["el \"perro\"\n\\", "\x01"] .off).1.jsonLines.split '\n').toList.map
          (fun piece => Line.read? piece.copy) =
        ["el \"perro\"\n\\", "\x01"].mapIdx fun _ text => some (Line.about text .zero) := by
  have hne : ["el \"perro\"\n\\", "\x01"] ≠ [] := List.cons_ne_nil _ _
  exact ⟨hne, jsonLines_decode (fun _ => .zero) _ .off hne⟩

end Report
end Oracion
