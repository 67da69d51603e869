import Oracion.Fault.Place

/-!
# Faults

What can go wrong around the analysis, which itself never fails: files, the line
editor, the command line and the writing of documents.

## Main definitions

* `Fault`, `Fault.message` — the faults and their texts.
* `ReadFault`, `ReadFault.message` — why something cannot be read as text.
-/

namespace Oracion

/-- Something that keeps the program from its work. -/
inductive Fault where
  /-- Reading a file or the standard input failed. -/
  | io (detail : String)
  /-- Reading a line failed. -/
  | editor (detail : String)
  /-- The program was called in a way that makes no sense. -/
  | usage (detail : String)
  /-- Writing a document failed, perhaps at a place. -/
  | serialize (detail : Placed)
  deriving DecidableEq, Repr, Inhabited

/-- A fault as text. -/
def Fault.message : Fault → String
  | .io detail => "I/O error: " ++ detail
  | .editor detail => "line editor error: " ++ detail
  | .usage detail => detail
  | .serialize detail => "serialization error: " ++ detail.message

/-- Why something cannot be read as text. -/
inductive ReadFault where
  /-- There is no such file. -/
  | notFound
  /-- It is a directory. -/
  | isDirectory
  /-- A name in front of a slash is that of a file. -/
  | notDirectory
  /-- A name, or the whole path, is too long. -/
  | nameTooLong
  /-- Its bytes are no text. -/
  | notText
  /-- The system says so in its own words. -/
  | system (detail : String)
  deriving DecidableEq, Repr, Inhabited

/-- A reason as text. -/
def ReadFault.message : ReadFault → String
  | .notFound => "No such file or directory (os error 2)"
  | .isDirectory => "Is a directory (os error 21)"
  | .notDirectory => "Not a directory (os error 20)"
  | .nameTooLong => "File name too long (os error 36)"
  | .notText => "stream did not contain valid UTF-8"
  | .system detail => detail

end Oracion
