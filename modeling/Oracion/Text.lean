import Oracion.Chars.Backspace
import Oracion.Chars.Lines
import Oracion.Chars.Lower
import Oracion.Chars.Pieces

/-!
# Texts

The operations of `Oracion.Chars` on strings, and the few ways of setting a string
in a column.

## Main definitions

* `lower`, `trim`, `words`, `lines`, `clusters`, `withoutBackspaces` — as for lists of
  characters.
* `startsWith` — whether one text begins with another.
* `joinLines`, `endLines` — texts one under the other.
* `padRight`, `padLeft` — a text filled up to a width.
-/

namespace Oracion
namespace Text

/-- The lower case of a text. -/
def lower (s : String) : String := String.ofList (Chars.lower s.toList)

/-- A text without the blanks at either end. -/
def trim (s : String) : String := String.ofList (Chars.trim s.toList)

/-- Whether a text has no character other than blanks. -/
def isBlank (s : String) : Bool := s.toList.all Chars.isBlank

/-- The words of a text, in order. -/
def words (s : String) : List String := (Chars.words s.toList).map String.ofList

/-- The lines of a text, in order. -/
def lines (s : String) : List String := (Chars.lines s.toList).map String.ofList

/-- What a reader takes for the single characters of a text, in order. -/
def clusters (s : String) : List String := (Chars.clusters s.toList).map String.ofList

/-- A line after its backspaces have done their work. -/
def withoutBackspaces (s : String) : String := String.ofList (Chars.withoutBackspaces s.toList)

/-- Whether a text begins with another. -/
def startsWith (s start : String) : Bool := start.toList.isPrefixOf s.toList

/-- Texts one under the other, with no line feed after the last. -/
def joinLines (ls : List String) : String := "\n".intercalate ls

/-- Texts one under the other, each with its line feed. -/
def endLines (ls : List String) : String := String.join (ls.map (· ++ "\n"))

/-- The same text over and over. -/
def times (n : Nat) (s : String) : String := String.join (List.replicate n s)

/-- A text at the left of a column that is `width` characters wide. -/
def padRight (width : Nat) (s : String) : String := s ++ times (width - s.length) " "

/-- A text at the right of a column that is `width` characters wide, filled with `fill`. -/
def padLeft (width : Nat) (fill : String) (s : String) : String :=
  times (width - s.length) fill ++ s

/-- To begin with a text is to have its characters in front. -/
theorem startsWith_iff {s start : String} :
    startsWith s start = true ↔ start.toList <+: s.toList := List.isPrefixOf_iff_prefix

@[simp] theorem toList_lower (s : String) : (lower s).toList = Chars.lower s.toList := by
  simp [lower]

@[simp] theorem toList_trim (s : String) : (trim s).toList = Chars.trim s.toList := by
  simp [trim]

@[simp] theorem join_map_ofList (ks : List (List Char)) :
    String.join (ks.map String.ofList) = String.ofList ks.flatten := by
  apply String.toList_inj.1
  simp [String.toList_join, List.flatMap_map, List.flatMap_id']

theorem toList_times (n : Nat) (s : String) :
    (times n s).toList = (List.replicate n s.toList).flatten := by
  rw [times, String.toList_join, List.flatMap_replicate]

/-- The clusters of a text put together are the text. -/
@[simp] theorem join_clusters (s : String) : String.join (clusters s) = s := by
  simp [clusters]

end Text
end Oracion
