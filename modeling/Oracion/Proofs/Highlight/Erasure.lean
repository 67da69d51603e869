import Oracion.Highlight

/-!
# A line without its colours

A terminal takes what stands between an escape character and the next `m` for an instruction, and
shows the rest.  What it shows of a coloured line is the line: every instruction that is put in is
complete, so nothing of the line is swallowed by one, be there an `m` next to it or not, and no
character of the line is left out or moved.

That holds for the lines that have no escape character of their own, and for these alone: such a
character is never shown.

## Main definitions

* `Chars.escape` — the character that opens an instruction.
* `Chars.shown`, `Text.shown` — what a terminal shows of a text.
* `IsStyle` — a text that is one instruction, or none.

## Main results

* `Chars.shown_append` — text without escape characters is shown as it is.
* `IsStyle.shown_append` — an instruction is not shown.
* `shown_paintPiece_append` — a painted piece is shown as the piece.
* `highlight_shows_line` — **a coloured line is shown as the line.**
-/

namespace Oracion
namespace Chars

/-! ### What a terminal shows -/

/-- The character that opens an instruction to the terminal. -/
def escape : Char := '\x1b'

mutual

/-- What a terminal shows of a text: the text without the instructions, each of which goes from an
escape character to the next `m`. -/
def shown : List Char → List Char
  | [] => []
  | c :: cs => if c = escape then shownPast cs else c :: shown cs

/-- What a terminal shows of a text that starts inside an instruction. -/
def shownPast : List Char → List Char
  | [] => []
  | c :: cs => if c = 'm' then shown cs else shownPast cs

end

/-- **Text without escape characters is shown as it is**, and does not change how the rest is. -/
theorem shown_append {u : List Char} (hu : escape ∉ u) (v : List Char) :
    shown (u ++ v) = u ++ shown v := by
  induction u with
  | nil => rfl
  | cons c u ih =>
    rw [List.mem_cons, not_or] at hu
    rw [List.cons_append, shown, if_neg (Ne.symm hu.1), ih hu.2, List.cons_append]

theorem shown_of_notMem {u : List Char} (hu : escape ∉ u) : shown u = u := by
  have happend := shown_append hu []
  rwa [List.append_nil, shown, List.append_nil] at happend

/-- An instruction ends at its first `m`. -/
theorem shownPast_append {code : List Char} (hcode : 'm' ∉ code) (v : List Char) :
    shownPast (code ++ 'm' :: v) = shown v := by
  induction code with
  | nil => rw [List.nil_append, shownPast, if_pos rfl]
  | cons c code ih =>
    rw [List.mem_cons, not_or] at hcode
    rw [List.cons_append, shownPast, if_neg (Ne.symm hcode.1), ih hcode.2]

/-- No escape character is ever shown. -/
theorem escape_notMem_shown (cs : List Char) : escape ∉ shown cs ∧ escape ∉ shownPast cs := by
  induction cs with
  | nil => exact ⟨List.not_mem_nil, List.not_mem_nil⟩
  | cons c cs ih =>
    rw [shown, shownPast]
    constructor
    · split
      · exact ih.2
      · next hc =>
        rw [List.mem_cons, not_or]
        exact ⟨Ne.symm hc, ih.1⟩
    · split
      · exact ih.1
      · exact ih.2

end Chars

/-- What a terminal shows of a text. -/
def Text.shown (s : String) : String := String.ofList (Chars.shown s.toList)

open Chars

/-! ### Styles -/

/-- A text that is one instruction to the terminal, or none. -/
def IsStyle (s : String) : Prop :=
  s = "" ∨ ∃ code, 'm' ∉ code ∧ s.toList = Chars.escape :: code ++ ['m']

/-- An instruction is not shown, and nothing of what follows is taken for a part of it. -/
theorem IsStyle.shown_append {s : String} (hs : IsStyle s) (v : List Char) :
    shown (s.toList ++ v) = shown v := by
  rcases hs with rfl | ⟨code, hcode, hs⟩
  · rfl
  · rw [hs, List.append_assoc, List.cons_append, shown, if_pos rfl, List.singleton_append,
      shownPast_append hcode]

theorem isStyle_plain : IsStyle plainStyle := .inr ⟨['[', '0'], by decide, rfl⟩

theorem isStyle_bold : IsStyle boldStyle := .inr ⟨['[', '1'], by decide, rfl⟩

theorem Category.isStyle_color (c : Category) : IsStyle c.color := by
  cases c with
  | article => exact .inr ⟨['[', '3', '6'], by decide, rfl⟩
  | noun => exact .inr ⟨['[', '3', '2'], by decide, rfl⟩
  | adjective => exact .inr ⟨['[', '3', '3'], by decide, rfl⟩
  | verb => exact .inr ⟨['[', '1', ';', '3', '5'], by decide, rfl⟩
  | unknown => exact .inr ⟨['[', '4', ';', '3', '1'], by decide, rfl⟩
  | endOfInput => exact .inl rfl

/-- What stands between two instructions is shown as it is. -/
theorem shown_styled {s s' : String} (hs : IsStyle s) (hs' : IsStyle s') {u : List Char}
    (hu : Chars.escape ∉ u) (v : List Char) :
    shown (s.toList ++ u ++ s'.toList ++ v) = u ++ shown v := by
  rw [List.append_assoc, List.append_assoc, hs.shown_append, Chars.shown_append hu,
    hs'.shown_append]

/-! ### Lines -/

/-- A painted piece is shown as the piece. -/
theorem shown_paintPiece_append (v : Vocabulary) {p : Piece} (hp : Chars.escape ∉ p.chars)
    (cs : List Char) : shown ((v.paintPiece p).toList ++ cs) = p.chars ++ shown cs := by
  cases p with
  | blank c =>
    rw [Vocabulary.paintPiece, String.toList_ofList]
    exact Chars.shown_append hp cs
  | word w =>
    have hpainted : (v.paintPiece (.word w)).toList =
        (v.classify (Text.lower (String.ofList w))).color.toList ++ w ++ plainStyle.toList := by
      simp [Vocabulary.paintPiece, Vocabulary.paint]
    rw [hpainted]
    exact shown_styled (Category.isStyle_color _) isStyle_plain hp cs

/-- Painted pieces are shown as the pieces, one after the other. -/
theorem shown_join_paintPiece (v : Vocabulary) {ps : List Piece}
    (hps : ∀ p ∈ ps, Chars.escape ∉ p.chars) :
    shown (String.join (ps.map v.paintPiece)).toList = ps.flatMap Piece.chars := by
  induction ps with
  | nil => rfl
  | cons p ps ih =>
    obtain ⟨hp, hps⟩ := List.forall_mem_cons.mp hps
    rw [List.map_cons, String.join_cons, String.toList_append, shown_paintPiece_append v hp,
      ih hps, List.flatMap_cons]

/-- Whatever the vocabulary, a line without escape characters is shown as it is when it is
coloured. -/
theorem Vocabulary.shown_highlight (v : Vocabulary) {line : String}
    (hline : Chars.escape ∉ line.toList) : shown (v.highlight line).toList = line.toList := by
  rw [highlight]
  split
  · exact shown_of_notMem hline
  · split
    · have hbold := shown_styled isStyle_bold isStyle_plain hline []
      rw [List.append_nil] at hbold
      rw [String.toList_append, String.toList_append, hbold, shown, List.append_nil]
    · have hpieces : ∀ p ∈ pieces line.toList, Chars.escape ∉ p.chars := by
        intro p hp hmem
        refine hline ?_
        rw [← flatMap_chars_pieces line.toList]
        exact List.mem_flatMap.mpr ⟨p, hp, hmem⟩
      rw [shown_join_paintPiece v hpieces, flatMap_chars_pieces]

/-- **A coloured line is shown as the line.**  The lines for which that holds, be they blank,
commands or sentences, are those that have no escape character of their own. -/
theorem highlight_shows_line (line : String) :
    Text.shown (highlight line) = line ↔ '\x1b' ∉ line.toList := by
  constructor
  · intro hshown hmem
    rw [← hshown, Text.shown, String.toList_ofList] at hmem
    exact (escape_notMem_shown _).1 hmem
  · intro hline
    rw [Text.shown, highlight, Vocabulary.shown_highlight _ hline, String.ofList_toList]

end Oracion
