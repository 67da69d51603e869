import Oracion.Proofs.Analysis.Extension
import Oracion.Proofs.Chars.Lines
import Oracion.Proofs.Chars.Runs
import Oracion.Proofs.Chars.Settled

/-!
# Canonical texts

The words of a text in lower case, put together with a blank between each two, are a text with
the same tokens.  So every text has a canonical one, and what is printed word by word is read as
it was meant.

## Main results

* `lowerWords_of_mem` — a word of a text in lower case is a text of that one word.
* `tokenize_intercalate` — **the words of a text in lower case have its tokens.**
-/

namespace Oracion

/-- The words of a text have characters, none of which is blank. -/
theorem Chars.proper_of_mem_words {cs w : List Char} (h : w ∈ words cs) :
    w ≠ [] ∧ ∀ c ∈ w, isBlank c = false := by
  obtain ⟨p, hp, hword⟩ := List.mem_filterMap.mp h
  have hproper : p.Proper := (isSplit_pieces cs).proper p hp
  cases p with
  | blank c => cases hword
  | word w' =>
    obtain rfl : w' = w := Option.some.inj hword
    exact hproper

/-- **A word of a text in lower case is a text of that one word.** -/
theorem lowerWords_of_mem {text w : String} (h : w ∈ lowerWords text) : lowerWords w = [w] := by
  obtain ⟨x, hx, rfl⟩ := List.mem_map.mp h
  obtain ⟨cs, hcs, rfl⟩ := List.mem_map.mp hx
  obtain ⟨hne, hblank⟩ := Chars.proper_of_mem_words hcs
  have hlower : Text.lower (String.ofList cs) = String.ofList (Chars.lower cs) := by
    rw [Text.lower, String.toList_ofList]
  have hwords : Text.words (Text.lower (String.ofList cs)) = [Text.lower (String.ofList cs)] := by
    rw [Text.words, Text.toList_lower, String.toList_ofList, Chars.words_lower,
      Chars.words_of_not_blank hblank, if_neg hne, hlower]
    rfl
  rw [lowerWords, hwords, List.map_singleton, Text.lower_lower]

/-- Texts with a blank between each two have the words of all. -/
theorem lowerWords_intercalate (texts : List String) :
    lowerWords (" ".intercalate texts) = texts.flatMap lowerWords :=
  Text.intercalate_of_append rfl lowerWords_append texts

/-- **The words of a text in lower case, with a blank between each two, have its tokens.** -/
theorem tokenize_intercalate (text : String) :
    tokenize (" ".intercalate (lowerWords text)) = tokenize text := by
  have hself : ∀ w ∈ lowerWords text, lowerWords w = [w] := fun w hw => lowerWords_of_mem hw
  have hwords : lowerWords (" ".intercalate (lowerWords text)) = lowerWords text := by
    rw [lowerWords_intercalate, List.flatMap_congr hself, List.flatMap_singleton']
  rw [tokenize_eq, hwords, ← tokenize_eq]

end Oracion
