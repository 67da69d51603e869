import Oracion.Json

/-!
# Reading JSON

A reader of JSON texts over lists of characters.  Each part of it takes what stands at
the front and gives the rest back; the recursion through arrays and objects is bounded
by the length of the text, which no nesting exceeds.

## Main definitions

* `Json.skipSpace` — what follows the space between symbols.
* `Json.readNumeral`, `Json.readText` — numerals and string literals.
* `Json.readValue` — the document at the front of a text.
* `Json.parse?` — the document that a text is.
-/

namespace Oracion
namespace Json

/-- Whether a character may stand between symbols. -/
def isSpace (c : Char) : Bool := c == ' ' || c == '\n' || c == '\t' || c == '\r'

/-- What follows the space at the front. -/
def skipSpace (cs : List Char) : List Char := cs.dropWhile isSpace

/-- What follows a given text at the front. -/
def dropText? : List Char → List Char → Option (List Char)
  | [], cs => some cs
  | _ :: _, [] => none
  | a :: as, c :: cs => if a = c then dropText? as cs else none

/-! ### Numerals -/

/-- Digits at the front, at least one. -/
def readDigits (cs : List Char) : Option (List Char × List Char) :=
  match cs.takeWhile Char.isDigit with
  | [] => none
  | ds => some (ds, cs.dropWhile Char.isDigit)

/-- The digits before the point: a zero alone, or digits that do not start with one. -/
def readWhole : List Char → Option (List Char × List Char)
  | '0' :: cs =>
      match cs with
      | [] => some (['0'], [])
      | c :: cs => if c.isDigit then none else some (['0'], c :: cs)
  | cs => readDigits cs

/-- The point and the digits after it, if there is a point. -/
def readFraction : List Char → Option (List Char × List Char)
  | '.' :: cs => (readDigits cs).map fun (ds, rest) => ('.' :: ds, rest)
  | cs => some ([], cs)

/-- The sign of an exponent, if there is one. -/
def readSign : List Char → List Char × List Char
  | '+' :: cs => (['+'], cs)
  | '-' :: cs => (['-'], cs)
  | cs => ([], cs)

/-- The exponent, if there is one. -/
def readExponent : List Char → Option (List Char × List Char)
  | [] => some ([], [])
  | c :: cs =>
      if c = 'e' ∨ c = 'E' then
        let (sign, rest) := readSign cs
        (readDigits rest).map fun (ds, rest) => (c :: sign ++ ds, rest)
      else some ([], c :: cs)

/-- A numeral without its sign. -/
def readUnsigned (cs : List Char) : Option (List Char × List Char) := do
  let (whole, cs) ← readWhole cs
  let (fraction, cs) ← readFraction cs
  let (exponent, cs) ← readExponent cs
  return (whole ++ fraction ++ exponent, cs)

/-- A numeral. -/
def readNumeral : List Char → Option (List Char × List Char)
  | '-' :: cs => (readUnsigned cs).map fun (ds, rest) => ('-' :: ds, rest)
  | cs => readUnsigned cs

/-! ### String literals -/

/-- The value of a hexadecimal digit. -/
def hexValue? (c : Char) : Option Nat :=
  if c.isDigit then some (c.toNat - 48)
  else if 'a' ≤ c ∧ c ≤ 'f' then some (c.toNat - 87)
  else if 'A' ≤ c ∧ c ≤ 'F' then some (c.toNat - 55)
  else none

/-- The value of four hexadecimal digits. -/
def hexUnit? (a b c d : Char) : Option Nat := do
  return ((← hexValue? a) * 16 + (← hexValue? b)) * 256 + (← hexValue? c) * 16 + (← hexValue? d)

/-- The character that a one-letter escape stands for. -/
def unescape? : Char → Option Char
  | '"' => some '"'
  | '\\' => some '\\'
  | '/' => some '/'
  | 'b' => some '\x08'
  | 'f' => some '\x0c'
  | 'n' => some '\n'
  | 'r' => some '\r'
  | 't' => some '\t'
  | _ => none

/-- A code unit of a string: a character, or half of a surrogate pair that an escape
has left behind. -/
inductive Unit16 where
  /-- A character. -/
  | char (c : Char)
  /-- The first half of a pair. -/
  | high (n : Nat)
  /-- The second half of a pair. -/
  | low (n : Nat)
  deriving DecidableEq, Repr, Inhabited

/-- The code unit with this number. -/
def Unit16.ofNat (n : Nat) : Unit16 :=
  if 0xD800 ≤ n ∧ n ≤ 0xDBFF then .high n
  else if 0xDC00 ≤ n ∧ n ≤ 0xDFFF then .low n
  else .char (Char.ofNat n)

/-- The units of a string literal up to the closing quote, and what follows it.
Controls have to be escaped. -/
def readUnits : List Char → Option (List Unit16 × List Char)
  | [] => none
  | '"' :: cs => some ([], cs)
  | '\\' :: 'u' :: a :: b :: c :: d :: cs =>
      match hexUnit? a b c d with
      | some n => (readUnits cs).map fun (us, rest) => (Unit16.ofNat n :: us, rest)
      | none => none
  | '\\' :: e :: cs =>
      match unescape? e with
      | some c => (readUnits cs).map fun (us, rest) => (.char c :: us, rest)
      | none => none
  | c :: cs =>
      if c = '\\' ∨ c.toNat < 0x20 then none
      else (readUnits cs).map fun (us, rest) => (.char c :: us, rest)

/-- The text that code units spell, if every half of a pair meets its other half. -/
def joinUnits : List Unit16 → Option (List Char)
  | [] => some []
  | .char c :: us => (joinUnits us).map (c :: ·)
  | .high h :: .low l :: us =>
      (joinUnits us).map (Char.ofNat (0x10000 + (h - 0xD800) * 0x400 + (l - 0xDC00)) :: ·)
  | .high _ :: _ => none
  | .low _ :: _ => none

/-- A string literal after its opening quote. -/
def readText (cs : List Char) : Option (Option String × List Char) :=
  (readUnits cs).map fun (us, rest) => ((joinUnits us).map String.ofList, rest)

/-! ### Documents -/

mutual

/-- The document at the front of a text, after space. -/
def readValue : Nat → List Char → Option (Json × List Char)
  | 0, _ => none
  | fuel + 1, cs =>
      match skipSpace cs with
      | [] => none
      | '"' :: cs => (readText cs).map fun (s, rest) => (.str s, rest)
      | '[' :: cs =>
          match skipSpace cs with
          | ']' :: rest => some (.arr [], rest)
          | cs => (readItems fuel cs).map fun (items, rest) => (.arr items, rest)
      | '\x7b' :: cs =>
          match skipSpace cs with
          | '\x7d' :: rest => some (.obj [], rest)
          | cs => (readMembers fuel cs).map fun (members, rest) => (.obj members, rest)
      | 'n' :: cs => (dropText? "ull".toList cs).map fun rest => (.null, rest)
      | 't' :: cs => (dropText? "rue".toList cs).map fun rest => (.bool true, rest)
      | 'f' :: cs => (dropText? "alse".toList cs).map fun rest => (.bool false, rest)
      | cs => (readNumeral cs).map fun (ds, rest) => (.num (String.ofList ds), rest)

/-- The items of an array, at least one, up to the closing bracket. -/
def readItems : Nat → List Char → Option (List Json × List Char)
  | 0, _ => none
  | fuel + 1, cs => do
      let (j, cs) ← readValue fuel cs
      match skipSpace cs with
      | ']' :: rest => return ([j], rest)
      | ',' :: cs =>
          let (js, rest) ← readItems fuel cs
          return (j :: js, rest)
      | _ => none

/-- The members of an object, at least one, up to the closing brace. -/
def readMembers : Nat → List Char → Option (List (Option String × Json) × List Char)
  | 0, _ => none
  | fuel + 1, cs => do
      match skipSpace cs with
      | '"' :: cs =>
          let (k, cs) ← readText cs
          match skipSpace cs with
          | ':' :: cs =>
              let (j, cs) ← readValue fuel cs
              match skipSpace cs with
              | '\x7d' :: rest => return ([(k, j)], rest)
              | ',' :: cs =>
                  let (ms, rest) ← readMembers fuel cs
                  return ((k, j) :: ms, rest)
              | _ => none
          | _ => none
      | _ => none

end

/-- The document that a text is, with space around it at most.  Every step into an array
or object, and on to the next item, takes a character, so twice the length of the text
bounds the depth of the recursion. -/
def parse? (text : String) : Option Json :=
  let cs := text.toList
  match readValue (2 * cs.length + 1) cs with
  | some (j, rest) => if (skipSpace rest).isEmpty then some j else none
  | none => none

end Json
end Oracion
