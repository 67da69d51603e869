import Oracion.Analysis
import Oracion.Decimal.Numeral
import Oracion.Json.Reader

/-!
# Values as JSON

How categories, phases, tokens and analyses are written as JSON, and how the first
three are read.

A name from a closed list is a string, and is also accepted as an object whose only
member has that name and the value `null`.  A token is an object with three members in
any order; members with other names are ignored, while one of the three that is missing
or stands twice is refused.  A token is also accepted as the array of its three values.

## Main definitions

* `Category.toJson`, `Phase.toJson`, `Token.toJson`, `Analysis.fields` — writing.
* `Category.ofJson?`, `Phase.ofJson?`, `Token.ofJson?` — reading.
-/

namespace Oracion

namespace Json

/-- The text of a string. -/
def text? : Json → Option String
  | str s => s
  | _ => none

/-- The number that a numeral of digits only stands for, if it has at most 64 bits. -/
def position? : Json → Option Nat
  | num numeral => Decimal.word? numeral.toList
  | _ => none

/-- The name that a string is, or that an object with the one value `null` has. -/
def name? : Json → Option String
  | str s => s
  | obj [(k, null)] => k
  | _ => none

end Json

namespace Category

/-- The name of a category in a document. -/
def jsonName : Category → String
  | article => "Article"
  | noun => "Noun"
  | adjective => "Adjective"
  | verb => "Verb"
  | endOfInput => "EndOfInput"
  | unknown => "Unknown"

/-- The category with a name. -/
def ofJsonName? (s : String) : Option Category := all.find? fun c => c.jsonName == s

/-- A category as a document. -/
def toJson (c : Category) : Json := .ofString c.jsonName

/-- The category that a document names. -/
def ofJson? (j : Json) : Option Category := j.name?.bind ofJsonName?

theorem ofJsonName?_jsonName (c : Category) : ofJsonName? c.jsonName = some c := by
  cases c <;> decide

end Category

namespace Phase

/-- The phase with a name. -/
def ofName? (s : String) : Option Phase := [lexical, syntactic].find? fun p => p.name == s

/-- A phase as a document. -/
def toJson (p : Phase) : Json := .ofString p.name

/-- The phase that a document names. -/
def ofJson? (j : Json) : Option Phase := j.name?.bind ofName?

theorem ofName?_name (p : Phase) : ofName? p.name = some p := by
  cases p <;> decide

end Phase

namespace Token

/-- A token as a document. -/
def toJson (t : Token) : Json :=
  .ofFields [("category", t.category.toJson), ("text", .ofString t.text),
    ("position", .ofNat t.position)]

/-- The value of the one member with a name; nothing if there is none or more than one. -/
def member? (members : List (Option String × Json)) (name : String) : Option Json :=
  match members.filter fun m => m.1 == some name with
  | [(_, j)] => some j
  | _ => none

/-- A token from the documents of its three values. -/
def ofValues? (category text position : Json) : Option Token := do
  return ⟨← Category.ofJson? category, ← text.text?, ← position.position?⟩

/-- The token that a document is.  The name of every member has to be a text, also of
one that is ignored. -/
def ofJson? : Json → Option Token
  | .arr [category, text, position] => ofValues? category text position
  | .obj members => do
      if members.all fun m => m.1.isSome then
        ofValues? (← member? members "category") (← member? members "text")
          (← member? members "position")
      else none
  | _ => none

end Token

/-- The members of an analysis as a document. -/
def Analysis.fields (a : Analysis) : List (String × Json) :=
  [("valid", .bool a.isValid),
   ("phase", (a.phase.map Phase.toJson).getD .null),
   ("source", .ofString a.source),
   ("tokens", .arr (a.tokens.map Token.toJson)),
   ("diagnostics", .arr (a.messages.map Json.ofString))]

/-- An analysis as a document. -/
def Analysis.toJson (a : Analysis) : Json := .ofFields a.fields

end Oracion
