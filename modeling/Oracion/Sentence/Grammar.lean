import Oracion.NounPhrase

/-!
# The grammar

Which sequences of categories are noun phrases and which are sentences, said without
the recognizer.  The language is finite: three noun phrases, and nine sentences.

## Main definitions

* `IsNounPhrase`, `IsSentence` — the two languages.
* `sentences` — all sentences.

## Main results

* `isSentence_iff_mem` — a sentence is one of the nine.
-/

namespace Oracion
namespace Grammar

open NounPhrase

/-- A sequence of categories is a noun phrase. -/
def IsNounPhrase (cs : List Category) : Prop := ∃ s : Shape, cs = s.categories

/-- A sequence of categories is a sentence: a noun phrase, a verb and a noun phrase. -/
def IsSentence (cs : List Category) : Prop :=
  ∃ subject complement, IsNounPhrase subject ∧ IsNounPhrase complement ∧
    cs = subject ++ .verb :: complement

/-- The three shapes of a noun phrase. -/
def shapes : List Shape := [.bare, .adjectiveFirst, .adjectiveLast]

/-- The nine sentences. -/
def sentences : List (List Category) :=
  shapes.flatMap fun s => shapes.map fun t => s.categories ++ .verb :: t.categories

theorem mem_shapes (s : Shape) : s ∈ shapes := by cases s <;> decide

theorem isNounPhrase_iff_mem {cs : List Category} :
    IsNounPhrase cs ↔ cs ∈ shapes.map Shape.categories := by
  constructor
  · rintro ⟨s, rfl⟩
    exact List.mem_map_of_mem (mem_shapes s)
  · intro h
    obtain ⟨s, -, rfl⟩ := List.mem_map.mp h
    exact ⟨s, rfl⟩

theorem isSentence_iff_mem {cs : List Category} : IsSentence cs ↔ cs ∈ sentences := by
  simp only [sentences, List.mem_flatMap, List.mem_map]
  constructor
  · rintro ⟨_, _, ⟨s, rfl⟩, ⟨t, rfl⟩, rfl⟩
    exact ⟨s, mem_shapes s, t, mem_shapes t, rfl⟩
  · rintro ⟨s, -, t, -, rfl⟩
    exact ⟨_, _, ⟨s, rfl⟩, ⟨t, rfl⟩, rfl⟩

instance (cs : List Category) : Decidable (IsNounPhrase cs) :=
  decidable_of_iff _ isNounPhrase_iff_mem.symm

instance (cs : List Category) : Decidable (IsSentence cs) :=
  decidable_of_iff _ isSentence_iff_mem.symm

end Grammar
end Oracion
