import Oracion.Highlight
import Oracion.Proofs.Analysis.Verdict
import Oracion.Proofs.Chars.Runs

/-!
# The colours of a line

A line that is typed is coloured word by word: each run of characters is put into lower case on
its own and looked up.  Its tokens come about the other way round: the line is put into lower
case as a whole and then split.  The two agree.  The runs of a line are as many as its tokens
without the marker, each token is the lower case of its run, also where that depends on the
place of a letter in its word, and the colour of a run is that of the category of its token.

## Main definitions

* `runs` — the words among pieces, as texts.
* `paintRuns` — pieces whose words have the colours of given categories.

## Main results

* `join_map_paintPiece` — a piece painted for its word is painted for the word's category.
* `highlight_paints_tokens` — **a line is shown in the colours of its tokens.**
-/

namespace Oracion

open Chars
open Vocabulary (spanish)

/-- The words among pieces, as texts. -/
def runs (ps : List Piece) : List String := (ps.filterMap Piece.word?).map String.ofList

/-- Pieces as text: each blank as it is, and each word between the colour of the next of the
categories and the escape that switches it off. -/
def paintRuns : List Piece → List Category → String
  | [], _ => ""
  | .blank b :: ps, cs => String.ofList [b] ++ paintRuns ps cs
  | .word w :: ps, [] => String.ofList w ++ paintRuns ps []
  | .word w :: ps, c :: cs => c.color ++ String.ofList w ++ plainStyle ++ paintRuns ps cs

/-- A piece painted for its word is painted for the category of the word's lower case. -/
theorem join_map_paintPiece (v : Vocabulary) (ps : List Piece) (rest : List Category) :
    String.join (ps.map v.paintPiece) =
      paintRuns ps ((runs ps).map (fun w => v.classify (Text.lower w)) ++ rest) := by
  induction ps with
  | nil => rfl
  | cons p ps ih =>
    rw [List.map_cons, String.join_cons, ih]
    cases p with
    | blank b => rfl
    | word w => rfl

/-- A line whose first character that is not blank is no colon is painted piece by piece. -/
theorem highlight_of_find? {line : String} {c : Char}
    (hc : line.toList.find? (fun d => !isBlank d) = some c) (hcolon : c ≠ ':') :
    highlight line = String.join ((pieces line.toList).map spanish.paintPiece) := by
  have hblank : Text.isBlank line = false := by
    have hmem := List.mem_of_find?_eq_some hc
    have hother : isBlank c = false := by simpa using List.find?_some hc
    rw [Text.isBlank, List.all_eq_false]
    exact ⟨c, hmem, by simp [hother]⟩
  have hcommand : isCommandLine line = false := by
    have hhead : (trimStart line.toList).head? = some c := by
      rw [← hc, List.find?_eq_head?_dropWhile_not, trimStart]
      simp only [Bool.not_not]
    obtain ⟨cs, hcs⟩ := List.head?_eq_some_iff.mp hhead
    rw [isCommandLine, hcs]
    simpa using hcolon
  rw [highlight, Vocabulary.highlight, hblank, hcommand]
  rfl

/-- **A line is shown in the colours of its tokens.**  A line falls apart into blanks and longest
runs of other characters in one way; there is one token for each run, and the marker; and the
text of each token is the lower case of its run.  If the first character that is not blank is no
colon, the line is shown with its blanks in place and each run between the colour of its token's
category and the escape that switches it off. -/
theorem highlight_paints_tokens (line : String) :
    ∃ ps, (∀ qs, IsSplit qs line.toList ↔ qs = ps) ∧
      (tokenize line).length = (runs ps).length + 1 ∧
      (tokenize line).map Token.text = (runs ps).map Text.lower ++ [""] ∧
      ∀ c, line.toList.find? (fun d => !isBlank d) = some c → c ≠ ':' →
        highlight line = paintRuns ps (Token.categories (tokenize line)) := by
  have htexts : (tokenize line).map Token.text =
      (runs (pieces line.toList)).map Text.lower ++ [""] := map_text_tokenize line
  have hlength : (tokenize line).length = (runs (pieces line.toList)).length + 1 := by
    simpa using congrArg List.length htexts
  refine ⟨pieces line.toList, fun qs => isSplit_iff, hlength, htexts, ?_⟩
  intro c hc hcolon
  -- the categories of the tokens are those that the runs have one by one
  have hcategories : Token.categories (tokenize line) =
      (runs (pieces line.toList)).map (fun w => spanish.classify (Text.lower w)) ++
        [.endOfInput] := by
    rw [categories_tokenize, lowerWords, List.map_map]
    rfl
  rw [highlight_of_find? hc hcolon, join_map_paintPiece spanish _ [.endOfInput], hcategories]

/-- A line with a word that is not known and ends in a capital sigma. -/
theorem highlight_paints_final_sigma :
    " El ΟΔΟΣ".toList.find? (fun d => !isBlank d) = some 'E' ∧
      (tokenize " El ΟΔΟΣ").map Token.text = ["el", "οδος", ""] ∧
        highlight " El ΟΔΟΣ" = " \x1b[36mEl\x1b[0m \x1b[4;31mΟΔΟΣ\x1b[0m" := by
  have hfirst : " El ΟΔΟΣ".toList.find? (fun d => !isBlank d) = some 'E' := by decide
  obtain ⟨ps, hps, -, htexts, hpaint⟩ := highlight_paints_tokens " El ΟΔΟΣ"
  obtain rfl := (hps _).mp (isSplit_pieces _)
  have hshown := hpaint 'E' hfirst (by decide)
  have hpieces : pieces " El ΟΔΟΣ".toList =
      [.blank ' ', .word ['E', 'l'], .blank ' ', .word ['Ο', 'Δ', 'Ο', 'Σ']] := by decide
  have hwords : lowerWords " El ΟΔΟΣ" = ["el", "οδος"] := by decide +kernel
  have hcategories : Token.categories (tokenize " El ΟΔΟΣ") =
      [.article, .unknown, .endOfInput] := by
    rw [categories_tokenize, hwords]
    simp [Vocabulary.classify, Category.lexical, Vocabulary.contains, Vocabulary.set, spanish]
  rw [hpieces, hcategories] at hshown
  exact ⟨hfirst, htexts.trans (congrArg (· ++ [""]) hwords), hshown⟩

end Oracion
