import Oracion.Decimal.Numeral

/-!
# Places

A message may end by naming a place: `… at line 3 column 14`.  Such a message is taken
apart into what it says and where, and put together again with the numbers in their
plain form.  Lines are counted from one, so that line zero is no place.

## Main definitions

* `Placed` — a message and a place.
* `Placed.read` — takes a text apart.
* `Placed.message` — puts it together.
-/

namespace Oracion

/-- A message and a place. -/
structure Placed where
  /-- What is said. -/
  detail : String
  /-- The line, or zero for no place. -/
  line : Nat
  /-- The column in that line. -/
  column : Nat
  deriving DecidableEq, Repr, Inhabited

namespace Placed

/-- A text without a given end. -/
def dropEnd? (ending text : List Char) : Option (List Char) :=
  if ending.isSuffixOf text then some (text.take (text.length - ending.length)) else none

/-- The longest run of digits at the end of a text, and what comes before it. -/
def endDigits (text : List Char) : List Char × List Char :=
  ((text.reverse.takeWhile Char.isDigit).reverse, (text.reverse.dropWhile Char.isDigit).reverse)

/-- Takes apart a text that ends in a place. -/
def read? (text : List Char) : Option Placed := do
  let (column, rest) := endDigits text
  let rest ← dropEnd? " column ".toList rest
  let (line, rest) := endDigits rest
  let rest ← dropEnd? " at line ".toList rest
  return ⟨String.ofList rest, ← Decimal.word? line, ← Decimal.word? column⟩

/-- Takes a text apart; one that does not end in a place is all message. -/
def read (text : String) : Placed := (read? text.toList).getD ⟨text, 0, 0⟩

/-- A message with its place. -/
def message (p : Placed) : String :=
  if p.line = 0 then p.detail
  else p.detail ++ " at line " ++ toString p.line ++ " column " ++ toString p.column

end Placed
end Oracion
