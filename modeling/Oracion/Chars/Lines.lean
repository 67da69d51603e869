/-!
# Lines

A line ends at a line feed, or at a carriage return with a line feed right after it.
What follows the last end of line is a line only if it is not empty.  The rule is
the same for characters and for bytes, so the two marks are parameters.

## Main definitions

* `splitLines cr lf` — the lines of a sequence in which `cr` and `lf` are the marks.
* `lines` — the lines of a text.
-/

namespace Oracion
namespace Chars

/-- Puts an item in front of the first line. -/
def consLine {α : Type} (a : α) : List (List α) → List (List α)
  | [] => [[a]]
  | l :: ls => (a :: l) :: ls

/-- The lines of a sequence in which `lf`, or `cr` with `lf` right after it, ends a line. -/
def splitLines {α : Type} [DecidableEq α] (cr lf : α) : List α → List (List α)
  | [] => []
  | [a] => if a = lf then [[]] else [[a]]
  | a :: b :: as =>
      if a = lf then [] :: splitLines cr lf (b :: as)
      else if a = cr ∧ b = lf then [] :: splitLines cr lf as
      else consLine a (splitLines cr lf (b :: as))

/-- The lines of a text. -/
def lines (cs : List Char) : List (List Char) := splitLines '\r' '\n' cs

@[simp] theorem lines_nil : lines [] = [] := rfl

end Chars
end Oracion
