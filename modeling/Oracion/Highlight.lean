import Oracion.Token

/-!
# Highlighting

A line of input with each word in the colour of its category.  Colours are switched on
and off by terminal escapes around the word; no character of the line is changed.

## Main definitions

* `Category.color` — the escape that switches the colour of a category on.
* `highlight` — a line with its colours.
-/

namespace Oracion

/-- The escape that switches every colour off. -/
def plainStyle : String := "\x1b[0m"

/-- The escape that switches bold type on. -/
def boldStyle : String := "\x1b[1m"

/-- The escape that switches the colour of a category on. -/
def Category.color : Category → String
  | .article => "\x1b[36m"
  | .noun => "\x1b[32m"
  | .adjective => "\x1b[33m"
  | .verb => "\x1b[1;35m"
  | .unknown => "\x1b[4;31m"
  | .endOfInput => ""

/-- A word in the colour of its category, which is that of its lower case. -/
def Vocabulary.paint (v : Vocabulary) (word : String) : String :=
  (v.classify (Text.lower word)).color ++ word ++ plainStyle

/-- A piece of a line: a blank as it is, a word in its colour. -/
def Vocabulary.paintPiece (v : Vocabulary) : Chars.Piece → String
  | .blank c => String.ofList [c]
  | .word cs => v.paint (String.ofList cs)

/-- Whether a line is a command: its first character that is not blank is a colon. -/
def isCommandLine (line : String) : Bool :=
  match Chars.trimStart line.toList with
  | [] => false
  | c :: _ => c == ':'

/-- A line with its colours.  A command is bold as a whole. -/
def Vocabulary.highlight (v : Vocabulary) (line : String) : String :=
  if Text.isBlank line then line
  else if isCommandLine line then boldStyle ++ line ++ plainStyle
  else String.join ((Chars.pieces line.toList).map v.paintPiece)

/-- A line with its colours under the built-in vocabulary. -/
def highlight (line : String) : String := Vocabulary.spanish.highlight line

end Oracion
