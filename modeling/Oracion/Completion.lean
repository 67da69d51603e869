import Oracion.Command
import Oracion.Token

/-!
# Completion

What the Tab key makes of a line.  The word in front of the cursor is compared, in
lower case, with the beginnings of the known words; pressing Tab again goes through the
candidates and after the last one back to what was typed.

The completer of a line editor is given the whole line and a place in it, an offset into its
bytes that falls between two characters, and finds the word in front of that place by going
back, character by character, to the nearest blank.  Going back from such a place leads to such
a place, whatever the width of the characters on the way.

## Main definitions

* `completionWords` — the words offered unless others are given.
* `fragment` — the unfinished word in front of the cursor.
* `candidates` — the words that complete it.
* `EditLine`, `EditLine.pressTab` — a line with a cursor, and Tab pressed some times.
* `EditLine.at` — a line with its cursor at a place.
* `wordStart` — the place where the word in front of a place starts.
* `completeAt` — that place, and the words that can go in there.

## Main results

* `mem_candidates`, `mem_completeAt` — which of the given words are offered.
-/

namespace Oracion

/-- The words of the vocabulary and the names of the commands, in order. -/
def completionWords : List String :=
  (WordSet.ofList
    (Category.lexical.flatMap Vocabulary.spanish.words ++ Command.listing.map Prod.fst)).words

/-- The unfinished word at the end of a text: what follows its last blank. -/
def fragment (before : String) : String :=
  String.ofList (before.toList.reverse.takeWhile fun c => !Chars.isBlank c).reverse

/-- What comes before the unfinished word at the end of a text. -/
def beforeFragment (before : String) : String :=
  String.ofList (before.toList.reverse.dropWhile fun c => !Chars.isBlank c).reverse

/-- The words that begin with the unfinished word at the end of a text. -/
def candidates (words : List String) (before : String) : List String :=
  words.filter fun w => Text.startsWith w (Text.lower (fragment before))

/-- A word is a candidate if it is given and begins with the lower case of the unfinished word. -/
theorem mem_candidates {words : List String} {before w : String} :
    w ∈ candidates words before ↔
      w ∈ words ∧ (Text.lower (fragment before)).toList <+: w.toList := by
  rw [candidates, List.mem_filter, Text.startsWith_iff]

/-- A line with a cursor in it. -/
structure EditLine where
  /-- What stands in front of the cursor. -/
  before : String
  /-- What stands after it. -/
  after : String
  deriving DecidableEq, Repr, Inhabited

namespace EditLine

/-- The line without its cursor. -/
def text (l : EditLine) : String := l.before ++ l.after

/-- A line with the cursor at its end. -/
def typed (text : String) : EditLine := ⟨text, ""⟩

/-- The cursor `n` clusters further left, but not past the start. -/
def moveLeft (l : EditLine) (n : Nat) : EditLine :=
  let ks := Text.clusters l.before
  let keep := ks.length - n
  ⟨String.join (ks.take keep), String.join (ks.drop keep) ++ l.after⟩

/-- Moving the cursor leaves the text as it is. -/
@[simp] theorem text_moveLeft (l : EditLine) (n : Nat) : (l.moveLeft n).text = l.text := by
  simp only [text, moveLeft, ← String.append_assoc, ← String.join_append, List.take_append_drop,
    Text.join_clusters]

/-- The line with a candidate in place of the unfinished word. -/
def accept (l : EditLine) (candidate : String) : String :=
  beforeFragment l.before ++ candidate ++ l.after

/-- The line after Tab has been pressed `presses` times: the candidates come up in turn,
and after the last of them the line as it was typed. -/
def pressTab (words : List String) (l : EditLine) (presses : Nat) : String :=
  let cs := candidates words l.before
  match presses with
  | 0 => l.text
  | n + 1 =>
      match cs[n % (cs.length + 1)]? with
      | some c => l.accept c
      | none => l.text

end EditLine

/-! ### Completing at a place -/

section Places

variable {line : String}

/-- A line with its cursor at a place. -/
def EditLine.at (pos : line.Pos) : EditLine := ⟨(line.sliceTo pos).copy, (line.sliceFrom pos).copy⟩

/-- The place where the word in front of a place starts: the nearest place at or before it that has
a blank in front of it, or the start of the line. -/
def wordStart (pos : line.Pos) : line.Pos :=
  if h : pos = line.startPos then pos
  else if Chars.isBlank ((pos.prev h).get String.Pos.prev_ne_endPos) then pos
  else wordStart (pos.prev h)
termination_by pos.down

/-- The completions at a place: where the word in front of it starts, and those of the given words
that begin with the lower case of what stands between the two places. -/
def completeAt (words : List String) (pos : line.Pos) : line.Pos × List String :=
  (wordStart pos,
    words.filter fun w => Text.startsWith w (Text.lower (String.extract (wordStart pos) pos)))

/-- A word is offered at a place if it is given and begins with the lower case of what stands
between the start of the word there and the place. -/
theorem mem_completeAt {words : List String} {pos : line.Pos} {w : String} :
    w ∈ (completeAt words pos).2 ↔
      w ∈ words ∧ (Text.lower (String.extract (wordStart pos) pos)).toList <+: w.toList := by
  rw [completeAt, List.mem_filter, Text.startsWith_iff]

end Places

end Oracion
