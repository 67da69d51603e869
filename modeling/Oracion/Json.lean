import Oracion.Text

/-!
# JSON documents

A document as a tree.  Numbers are kept as their numerals and the members of an object
in their order, repeated names included, because what reads a document decides what it
makes of them.  A string literal may escape half of a surrogate pair; it then stands
for no text, which a reader that skips it need not know.

## Main definitions

* `Json` — documents.
* `Json.escape`, `Json.quote` — a text as a string literal.
* `Json.render` — a document without blanks.
-/

namespace Oracion

/-- A JSON document. -/
inductive Json where
  /-- The literal `null`. -/
  | null
  /-- The literals `true` and `false`. -/
  | bool (b : Bool)
  /-- A number, as its numeral. -/
  | num (numeral : String)
  /-- A string; `none` if the literal has half of a surrogate pair. -/
  | str (text : Option String)
  /-- An array. -/
  | arr (items : List Json)
  /-- An object, as its names and values in order. -/
  | obj (members : List (Option String × Json))
  deriving Repr, Inhabited

namespace Json

/-- A text as a document. -/
def ofString (s : String) : Json := str (some s)

/-- A natural number as a document. -/
def ofNat (n : Nat) : Json := num (toString n)

/-- An object whose names are texts. -/
def ofFields (fields : List (String × Json)) : Json := obj (fields.map fun (k, v) => (some k, v))

/-! ### Writing -/

/-- The digit of a number below sixteen. -/
def hexDigit (n : Nat) : Char := if n < 10 then Char.ofNat (48 + n) else Char.ofNat (87 + n)

/-- A character inside a string literal: quotes, backslashes and controls are escaped,
all else stands for itself. -/
def escape (c : Char) : List Char :=
  if c = '"' then ['\\', '"']
  else if c = '\\' then ['\\', '\\']
  else if c = '\x08' then ['\\', 'b']
  else if c = '\x0c' then ['\\', 'f']
  else if c = '\n' then ['\\', 'n']
  else if c = '\r' then ['\\', 'r']
  else if c = '\t' then ['\\', 't']
  else if c.toNat < 0x20 then
    ['\\', 'u', '0', '0', hexDigit (c.toNat / 16), hexDigit (c.toNat % 16)]
  else [c]

/-- A text as a string literal. -/
def quote (s : String) : String := "\"" ++ String.ofList (s.toList.flatMap escape) ++ "\""

/-- A string as a literal; half of a surrogate pair is written as its escape. -/
def renderText : Option String → String
  | some s => quote s
  | none => "\"\\ud800\""

mutual

/-- A document without blanks. -/
def render : Json → String
  | null => "null"
  | bool b => if b then "true" else "false"
  | num numeral => numeral
  | str text => renderText text
  | arr items => "[" ++ ",".intercalate (renderItems items) ++ "]"
  | obj members => "\x7b" ++ ",".intercalate (renderMembers members) ++ "\x7d"

/-- The items of an array. -/
def renderItems : List Json → List String
  | [] => []
  | j :: js => j.render :: renderItems js

/-- The members of an object. -/
def renderMembers : List (Option String × Json) → List String
  | [] => []
  | (k, j) :: ms => (renderText k ++ ":" ++ j.render) :: renderMembers ms

end

end Json
end Oracion
