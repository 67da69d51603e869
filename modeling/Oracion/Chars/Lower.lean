import Oracion.Chars.Cased
import Oracion.Chars.CaseRuns

/-!
# Lower case

The full lower-case mapping of the character database.  Each character maps on its
own, with two exceptions: capital I with a dot becomes two characters, and the small
letter of a capital sigma depends on where it stands in its word.

## Main definitions

* `small` — the lower case of one character outside any context.
* `endsWord` — whether a capital sigma between two texts is the last letter of a word.
* `lower` — the lower case of a text.
-/

namespace Oracion
namespace Chars

/-- The capital sigma, whose small letter depends on its place. -/
def capitalSigma : Char := 'Σ'

/-- The number of the small letter of the character with number `n`; a character
without one keeps its own number. -/
def smallCode (n : Nat) : Nat :=
  match lowerRuns.find? (·.covers n) with
  | some r => r.image n
  | none => n

/-- The lower case of a character outside any context.  Capital I with a dot keeps
its dot as a combining mark. -/
def small (c : Char) : List Char :=
  if c = 'İ' then ['i', '\u0307'] else [Char.ofNat (smallCode c.toNat)]

/-! ### The two small sigmas -/

/-- Whether the first character that is not case-ignorable is a cased letter. -/
def meetsCased (cs : List Char) : Bool :=
  match cs.dropWhile caseIgnorable.holds with
  | [] => false
  | c :: _ => cased.holds c

/-- Whether a capital sigma is the last letter of a word: a cased letter comes before
it and none after it, case-ignorable characters aside.  `before` is read backwards
from the sigma. -/
def endsWord (before after : List Char) : Bool := meetsCased before && !meetsCased after

/-- The small letter of a capital sigma that stands between two texts. -/
def smallSigma (before after : List Char) : Char := if endsWord before after then 'ς' else 'σ'

/-! ### Texts -/

/-- The lower case of a text that follows `before`, which is read backwards. -/
def lowerAfter (before : List Char) : List Char → List Char
  | [] => []
  | c :: cs =>
      (if c = capitalSigma then [smallSigma before cs] else small c) ++ lowerAfter (c :: before) cs

/-- The lower case of a text. -/
def lower (cs : List Char) : List Char := lowerAfter [] cs

@[simp] theorem lowerAfter_nil (before : List Char) : lowerAfter before [] = [] := rfl

theorem lowerAfter_cons (before : List Char) (c : Char) (cs : List Char) :
    lowerAfter before (c :: cs) =
      (if c = capitalSigma then [smallSigma before cs] else small c) ++
        lowerAfter (c :: before) cs := rfl

@[simp] theorem lower_nil : lower [] = [] := rfl

end Chars
end Oracion
