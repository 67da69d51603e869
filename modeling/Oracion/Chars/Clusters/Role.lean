import Oracion.Chars.Clusters.Conjuncts
import Oracion.Chars.Clusters.Pictographs

/-!
# What a character does at the border of a cluster

The property *Grapheme_Cluster_Break* sorts characters by how they go together with
their neighbours.  Two more properties single out characters which that one leaves
aside: the pictographs, and the consonants that form conjuncts.  No character has two
of these roles.

## Main definitions

* `ClusterRole` — the roles.
* `ClusterRole.of` — the role of a character.
* `ClusterRole.inSyllable` — which letters of a Korean syllable follow which.
-/

namespace Oracion
namespace Chars

/-- The characters with *Grapheme_Cluster_Break* equal to *Control*, *CR* or *LF*. -/
def controls : Class :=
  [⟨0x0, 0x1F⟩, ⟨0x7F, 0x9F⟩, ⟨0xAD, 0xAD⟩, ⟨0x61C, 0x61C⟩, ⟨0x180E, 0x180E⟩, ⟨0x200B, 0x200B⟩,
   ⟨0x200E, 0x200F⟩, ⟨0x2028, 0x202E⟩, ⟨0x2060, 0x206F⟩, ⟨0xFEFF, 0xFEFF⟩, ⟨0xFFF0, 0xFFFB⟩,
   ⟨0x13430, 0x1343F⟩, ⟨0x1BCA0, 0x1BCA3⟩, ⟨0x1D173, 0x1D17A⟩, ⟨0xE0000, 0xE001F⟩,
   ⟨0xE0080, 0xE00FF⟩, ⟨0xE01F0, 0xE0FFF⟩]

/-- The regional indicators, two of which make a flag. -/
def flagLetters : Class := [⟨0x1F1E6, 0x1F1FF⟩]

/-- The consonants that begin a Korean syllable. -/
def syllableLeads : Class := [⟨0x1100, 0x115F⟩, ⟨0xA960, 0xA97C⟩]

/-- The vowels of a Korean syllable, and the vowel signs that behave like them. -/
def syllableVowels : Class :=
  [⟨0x1160, 0x11A7⟩, ⟨0xD7B0, 0xD7C6⟩, ⟨0x16D63, 0x16D63⟩, ⟨0x16D67, 0x16D6A⟩]

/-- The consonants that end a Korean syllable. -/
def syllableTails : Class := [⟨0x11A8, 0x11FF⟩, ⟨0xD7CB, 0xD7FB⟩]

/-- The Korean syllables that are single characters. -/
def syllables : Class := [⟨0xAC00, 0xD7A3⟩]

/-- What a character does at the border of a cluster. -/
inductive ClusterRole where
  /-- The carriage return. -/
  | carriageReturn
  /-- The line feed. -/
  | lineFeed
  /-- A control character, which stands alone. -/
  | control
  /-- It extends what stands in front of it. -/
  | extend
  /-- The zero-width joiner. -/
  | joiner
  /-- It stands beside what is in front of it. -/
  | spacingMark
  /-- It belongs to what comes after it. -/
  | prepend
  /-- Half a flag. -/
  | flagLetter
  /-- A consonant that begins a Korean syllable. -/
  | lead
  /-- A vowel of a Korean syllable. -/
  | vowel
  /-- A consonant that ends a Korean syllable. -/
  | tail
  /-- A Korean syllable without a last consonant. -/
  | openSyllable
  /-- A Korean syllable with a last consonant. -/
  | closedSyllable
  /-- A pictograph. -/
  | pictograph
  /-- A consonant that forms conjuncts. -/
  | consonant
  /-- None of these. -/
  | plain
  deriving DecidableEq, Repr, Inhabited

namespace ClusterRole

/-- The role of a character.  The syllables stand in blocks of 28, of which the first has
no last consonant. -/
def of (c : Char) : ClusterRole :=
  if c = '\r' then .carriageReturn
  else if c = '\n' then .lineFeed
  else if controls.holds c then .control
  else if c = Chars.joiner then .joiner
  else if extenders.holds c then .extend
  else if spacingMarks.holds c then .spacingMark
  else if prepended.holds c then .prepend
  else if flagLetters.holds c then .flagLetter
  else if syllableLeads.holds c then .lead
  else if syllableVowels.holds c then .vowel
  else if syllableTails.holds c then .tail
  else if syllables.holds c then
    if (c.toNat - 0xAC00) % 28 = 0 then .openSyllable else .closedSyllable
  else if pictographs.holds c then .pictograph
  else if conjunctConsonants.holds c then .consonant
  else .plain

/-- Whether a character stands apart from all its neighbours, a line feed after a carriage
return excepted. -/
def standsApart : ClusterRole → Bool
  | .carriageReturn | .lineFeed | .control => true
  | _ => false

/-- Whether a character goes with whatever stands in front of it. -/
def attaches : ClusterRole → Bool
  | .extend | .joiner | .spacingMark => true
  | _ => false

/-- Whether two letters follow one another in a Korean syllable. -/
def inSyllable : ClusterRole → ClusterRole → Bool
  | .lead, .lead | .lead, .vowel | .lead, .openSyllable | .lead, .closedSyllable => true
  | .openSyllable, .vowel | .openSyllable, .tail | .vowel, .vowel | .vowel, .tail => true
  | .closedSyllable, .tail | .tail, .tail => true
  | _, _ => false

end ClusterRole
end Chars
end Oracion
