import Oracion.CommandLine
import Oracion.Proofs.Chars.Lines
import Oracion.Proofs.CommandLine.Batch

/-!
# The texts of a corpus

The texts of a corpus are found line by line, and each line gives one text or none.  So putting
corpora one under the other puts their texts one after the other, wherever the seam falls: a
last line needs no end, and one that has an end only gets an empty line after it.  How lines end
does not matter either, because blanks around a text are taken away.

## Main results

* `corpusTexts_of_notMem`, `corpusTexts_line_append` — the texts of a line, and of a line with
  more lines after it.
* `corpusTexts_append_newline`, `corpusTexts_endLines`, `corpusTexts_joinLines` — corpora one
  under the other.
* `Inputs.fileTexts_eq` — the corpus that files make up.
* `corpusTexts_compose` — **the texts of a corpus are those of its parts.**
-/

namespace Oracion

/-! ### Line by line -/

/-- The first of some trimmed lines is a text unless it is empty or a comment. -/
theorem filter_text_cons (l : String) (ls : List String) :
    (l :: ls).filter (fun l => !l.isEmpty && !Text.startsWith l "#") =
      (if l = "" ∨ Text.startsWith l "#" = true then [] else [l]) ++
        ls.filter fun l => !l.isEmpty && !Text.startsWith l "#" := by
  by_cases hempty : l = ""
  · simp [hempty]
  · cases hcomment : Text.startsWith l "#" with
    | false => simp [hempty, hcomment]
    | true => simp [hcomment]

/-- A line is a text, blanks around it aside, unless it is empty or a comment. -/
theorem corpusTexts_of_notMem {l : String} (h : '\n' ∉ l.toList) :
    corpusTexts l =
      if Text.trim l = "" ∨ Text.startsWith (Text.trim l) "#" = true then [] else [Text.trim l] := by
  rw [corpusTexts, Text.lines_of_notMem h]
  by_cases hl : l = ""
  · subst hl
    rfl
  · rw [if_neg hl, List.map_cons, filter_text_cons, List.map_nil, List.filter_nil, List.append_nil]

/-- A line that has more lines after it gives what it gives alone. -/
theorem corpusTexts_line_append {l : String} (h : '\n' ∉ l.toList) (rest : String) :
    corpusTexts (l ++ "\n" ++ rest) = corpusTexts l ++ corpusTexts rest := by
  obtain ⟨l', htrim, hlines⟩ := Text.lines_line_append h rest
  rw [corpusTexts, hlines, List.map_cons, filter_text_cons, htrim, corpusTexts_of_notMem h]
  rfl

/-- **Corpora one under the other have the texts of both**, whatever stands at the seam. -/
theorem corpusTexts_append_newline (a b : String) :
    corpusTexts (a ++ "\n" ++ b) = corpusTexts a ++ corpusTexts b := by
  induction a using Text.line_induction with
  | last l h => exact corpusTexts_line_append h b
  | line l rest h ih =>
    have hassoc : l ++ "\n" ++ rest ++ "\n" ++ b = l ++ "\n" ++ (rest ++ "\n" ++ b) := by
      simp only [String.append_assoc]
    rw [hassoc, corpusTexts_line_append h, ih, corpusTexts_line_append h, List.append_assoc]

/-- So have any number of them, each with a line feed after it, -/
theorem corpusTexts_endLines (ls : List String) :
    corpusTexts (Text.endLines ls) = ls.flatMap corpusTexts := by
  induction ls with
  | nil => rfl
  | cons l ls ih => rw [Text.endLines_cons, corpusTexts_append_newline, ih, List.flatMap_cons]

/-- or with line feeds between them. -/
theorem corpusTexts_joinLines (ls : List String) :
    corpusTexts (Text.joinLines ls) = ls.flatMap corpusTexts :=
  Text.intercalate_of_append rfl corpusTexts_append_newline ls

/-- **How lines end does not matter.** -/
theorem corpusTexts_withReturns (s : String) : corpusTexts (Text.withReturns s) = corpusTexts s := by
  induction s using Text.line_induction with
  | last l h => rw [Text.withReturns_of_notMem h]
  | line l rest h ih =>
    have hreturn : '\n' ∉ (l ++ "\r").toList := by simpa using h
    rw [Text.withReturns_line_append h, corpusTexts_line_append hreturn, ih,
      corpusTexts_line_append h, corpusTexts_of_notMem hreturn, corpusTexts_of_notMem h,
      Text.trim_append_return]

/-! ### What a text of a corpus is -/

/-- What can be a text of a corpus: not empty, trimmed, on one line, and no comment. -/
structure IsCorpusText (l : String) : Prop where
  /-- It is not empty. -/
  ne_empty : l ≠ ""
  /-- There are no blanks around it. -/
  trimmed : Text.trim l = l
  /-- It has no line feed. -/
  one_line : '\n' ∉ l.toList
  /-- It is no comment. -/
  no_comment : Text.startsWith l "#" = false

theorem isCorpusText_of_mem_line {l x : String} (h : '\n' ∉ l.toList) (hx : x ∈ corpusTexts l) :
    IsCorpusText x := by
  rw [corpusTexts_of_notMem h] at hx
  split at hx
  · exact absurd hx List.not_mem_nil
  · next hkept =>
    obtain rfl := List.mem_singleton.mp hx
    rw [not_or, Bool.not_eq_true] at hkept
    exact ⟨hkept.1, Text.trim_trim l, fun hmem => h (Text.mem_of_mem_trim hmem), hkept.2⟩

theorem isCorpusText_of_mem {s x : String} (hx : x ∈ corpusTexts s) : IsCorpusText x := by
  induction s using Text.line_induction with
  | last l h => exact isCorpusText_of_mem_line h hx
  | line l rest h ih =>
    rw [corpusTexts_line_append h, List.mem_append] at hx
    rcases hx with hx | hx
    · exact isCorpusText_of_mem_line h hx
    · exact ih hx

/-- Such a text is the only one of the corpus that it is. -/
theorem IsCorpusText.corpusTexts_eq {l : String} (h : IsCorpusText l) : corpusTexts l = [l] := by
  rw [corpusTexts_of_notMem h.one_line, h.trimmed, if_neg]
  rw [not_or, Bool.not_eq_true]
  exact ⟨h.ne_empty, h.no_comment⟩

/-! ### Files -/

/-- The corpus that files make up: their texts, each with a line feed after it, if all can be
read. -/
theorem Inputs.fileTexts_eq (inputs : Inputs) (names : List String) :
    inputs.fileTexts names = (names.mapM inputs.fileText).map Text.endLines := by
  induction names with
  | nil => rfl
  | cons name names ih =>
    rw [fileTexts, List.mapM_cons]
    cases inputs.fileText name with
    | error fault => rfl
    | ok text =>
      rw [ih]
      cases names.mapM inputs.fileText with
      | error fault => rfl
      | ok texts => exact congrArg Except.ok (Text.endLines_cons text texts).symm

/-- **The texts of a corpus are those of its parts.**  Two corpora with a line feed between them
have the texts of the first and then those of the second.  The corpus that named files make up
is their texts, each with a line feed after it, so its texts are those of the files, in order.
Carriage returns before the line feeds change nothing.  Each text is not empty, trimmed, on one
line and no comment, and these texts put one under the other are a corpus with the same texts.
With this, all texts are known from those of a corpus without a line feed: it is itself the
text, once it is trimmed, if it is not empty then and no comment. -/
theorem corpusTexts_compose (o : Options) (inputs : Inputs) (a b : String) :
    corpusTexts (a ++ "\n" ++ b) = corpusTexts a ++ corpusTexts b ∧
      (o.takesStdin = false →
        o.corpus inputs = (o.files.mapM inputs.fileText).map Text.endLines ∧
          (o.corpus inputs).map corpusTexts =
            (o.files.mapM inputs.fileText).map fun texts => texts.flatMap corpusTexts) ∧
      corpusTexts (Text.withReturns a) = corpusTexts a ∧
      (∀ l ∈ corpusTexts a, IsCorpusText l) ∧
      corpusTexts (Text.joinLines (corpusTexts a)) = corpusTexts a ∧
      ('\n' ∉ a.toList →
        corpusTexts a =
          if Text.trim a = "" ∨ Text.startsWith (Text.trim a) "#" = true then []
          else [Text.trim a]) := by
  refine ⟨corpusTexts_append_newline a b, ?_, corpusTexts_withReturns a,
    fun l hl => isCorpusText_of_mem hl, ?_, fun h => corpusTexts_of_notMem h⟩
  · intro hstdin
    have hcorpus : o.corpus inputs = (o.files.mapM inputs.fileText).map Text.endLines := by
      rw [Options.corpus, hstdin, if_neg Bool.false_ne_true, Inputs.fileTexts_eq]
    refine ⟨hcorpus, ?_⟩
    rw [hcorpus]
    cases o.files.mapM inputs.fileText with
    | error fault => rfl
    | ok texts => exact congrArg Except.ok (corpusTexts_endLines texts)
  · have hself : ∀ l ∈ corpusTexts a, corpusTexts l = [l] :=
      fun l hl => (isCorpusText_of_mem hl).corpusTexts_eq
    rw [corpusTexts_joinLines, List.flatMap_congr hself, List.flatMap_singleton']

/-- Two files, of which the first ends with a carriage return and no line feed. -/
theorem corpusTexts_compose_of_files :
    let o : Options := { batch := true, files := ["a", "b"] }
    let first := "# uno\n el perro \r"
    let files := [("a", first.toUTF8), ("b", "\nel gato".toUTF8)]
    let inputs := Inputs.inFolder files "".toUTF8
    o.takesStdin = false ∧ "el perro" ∈ corpusTexts first ∧ '\n' ∉ "el gato".toList ∧
      (o.corpus inputs).map corpusTexts = .ok ["el perro", "el gato"] ∧
      IsCorpusText "el perro" ∧ corpusTexts "el gato" = ["el gato"] := by
  intro o first files inputs
  obtain ⟨-, hfiles, -, hmembers, -⟩ := corpusTexts_compose o inputs first ""
  obtain ⟨-, -, -, -, -, hline⟩ := corpusTexts_compose o inputs "el gato" ""
  have hread : inputs.file = (Disk.holding files "".toUTF8).read := rfl
  have ha : inputs.file "a" = .ok first.toUTF8 := by
    rw [hread]
    exact Disk.read_name (by decide) (by decide) (by decide) (by decide) (by decide) rfl
  have hb : inputs.file "b" = .ok "\nel gato".toUTF8 := by
    rw [hread]
    exact Disk.read_name (by decide) (by decide) (by decide) (by decide) (by decide) rfl
  have htexts : o.files.mapM inputs.fileText = .ok [first, "\nel gato"] := by
    simp only [o, List.mapM_cons, List.mapM_nil, Inputs.fileText, ha, hb, decodeText_toUTF8]
    rfl
  have hmem : "el perro" ∈ corpusTexts first := by decide
  refine ⟨rfl, hmem, by decide, ?_, hmembers _ hmem, (hline (by decide)).trans (by decide)⟩
  rw [(hfiles rfl).2, htexts]
  decide

end Oracion
