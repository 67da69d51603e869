import Oracion.Chars.Blank

/-!
# Pieces of a line

A text falls into blanks and words, a word being a longest run of characters none of
which is blank.  Splitting loses nothing: the pieces put together are the text.

## Main definitions

* `Piece` — a blank or a word.
* `pieces` — the pieces of a text, in order.
* `words` — the words among them.

## Main results

* `flatMap_chars_pieces` — the pieces put together are the text.
-/

namespace Oracion
namespace Chars

/-- A part of a text as a reader of words sees it. -/
inductive Piece where
  /-- One blank character. -/
  | blank (c : Char)
  /-- A run of characters that are not blank. -/
  | word (cs : List Char)
  deriving DecidableEq, Repr, Inhabited

/-- The characters that a piece stands for. -/
def Piece.chars : Piece → List Char
  | .blank c => [c]
  | .word cs => cs

/-- The word of a piece, if it is one. -/
def Piece.word? : Piece → Option (List Char)
  | .blank _ => none
  | .word cs => some cs

/-- Puts a character in front of split text: a blank stands alone, any other character
joins the word it touches. -/
def consPiece (c : Char) (ps : List Piece) : List Piece :=
  if isBlank c then .blank c :: ps
  else match ps with
    | .word w :: rest => .word (c :: w) :: rest
    | ps => .word [c] :: ps

/-- The pieces of a text, in order. -/
def pieces : List Char → List Piece
  | [] => []
  | c :: cs => consPiece c (pieces cs)

/-- The words of a text, in order. -/
def words (cs : List Char) : List (List Char) := (pieces cs).filterMap Piece.word?

@[simp] theorem pieces_nil : pieces [] = [] := rfl

@[simp] theorem pieces_cons (c : Char) (cs : List Char) :
    pieces (c :: cs) = consPiece c (pieces cs) := rfl

@[simp] theorem words_nil : words [] = [] := rfl

theorem flatMap_chars_consPiece (c : Char) (ps : List Piece) :
    (consPiece c ps).flatMap Piece.chars = c :: ps.flatMap Piece.chars := by
  unfold consPiece
  split
  · simp [Piece.chars]
  · split <;> simp [Piece.chars]

/-- **Splitting loses nothing.** -/
theorem flatMap_chars_pieces (cs : List Char) : (pieces cs).flatMap Piece.chars = cs := by
  induction cs with
  | nil => rfl
  | cons c cs ih => rw [pieces_cons, flatMap_chars_consPiece, ih]

end Chars
end Oracion
