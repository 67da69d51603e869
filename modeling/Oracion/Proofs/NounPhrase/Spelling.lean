import Oracion.Proofs.Sentence.Reading

/-!
# Which tokens spell a noun phrase

The machine for noun phrases has two drivers: the recognizer, which goes on after the phrase,
and `NounPhrase.ofTokens?`, for which the phrase has to be all there is.  The second is
described here by the same languages as the first: from a state on it consumes a list whole
exactly when the categories of the list are missing in that state.

## Main results

* `NounPhrase.State.scan_eq_some_nil_iff` — **the machine consumes just what is missing.**
* `NounPhrase.map_shape_ofTokens?_eq_some_iff` — the tokens that spell a phrase of a shape.
-/

namespace Oracion
namespace NounPhrase

theorem Shape.categories_injective : Function.Injective Shape.categories := by
  intro s t h
  cases s <;> cases t <;> simp [Shape.categories] at h ⊢

namespace State

theorem next_endOfInput_eq_accept_iff {s : State} {shape : Shape} :
    s.next .endOfInput = .accept shape ↔ [] ∈ s.missing shape := by
  cases s <;> simp [next, completions, Grammar.shapes, Shape.categories] <;> exact eq_comm

theorem cons_notMem_missing {s : State} {c : Category}
    (h : ¬ Viable (⨆ shape, s.missing shape) [c]) (shape : Shape) (w : List Category) :
    c :: w ∉ s.missing shape := by
  intro hmem
  have hviable : Viable (⨆ shape, s.missing shape) (c :: w) :=
    viable_of_mem (Language.mem_iSup.mpr ⟨shape, hmem⟩)
  exact h (hviable.of_prefix (List.prefix_append [c] w))

/-- **The machine consumes just what is missing** in the state that it starts in. -/
theorem scan_eq_some_nil_iff {s : State} {ts : List Token} {shape : Shape} :
    s.scan ts = some (shape, []) ↔ Token.categories ts ∈ s.missing shape := by
  induction ts generalizing s with
  | nil =>
    show s.scan [] = some (shape, []) ↔ [] ∈ s.missing shape
    rw [← next_endOfInput_eq_accept_iff, scan]
    split <;> simp [*]
  | cons t ts ih =>
    show s.scan (t :: ts) = some (shape, []) ↔ t.category :: Token.categories ts ∈ s.missing shape
    rw [scan]
    cases h : s.next t.category with
    | accept shape' =>
      -- the machine stops before `t`, which is not missing
      have hmem := cons_notMem_missing (of_next_accept h).2 shape (Token.categories ts)
      simp only [Option.some.injEq, Prod.mk.injEq, reduceCtorEq, and_false, false_iff]
      exact hmem
    | expect c s' =>
      by_cases hc : c = t.category
      · subst hc
        simp only [if_true, ih]
        exact (cons_mem_missing h shape _).symm
      · have hne : t.category ≠ c := fun h' => hc h'.symm
        have hmem := cons_notMem_missing (of_next_expect h hne).2.2 shape (Token.categories ts)
        simp only [if_neg hc, reduceCtorEq, false_iff]
        exact hmem

theorem scan_start_eq_some_nil_iff {ts : List Token} {shape : Shape} :
    start.scan ts = some (shape, []) ↔ Token.categories ts = shape.categories := by
  rw [scan_eq_some_nil_iff]
  cases shape <;> simp [completions, Grammar.shapes]

end State

theorem exists_firstText? {ts : List Token} {c : Category} (h : c ∈ Token.categories ts) :
    ∃ text, firstText? ts c = some text := by
  obtain ⟨t, ht, hc⟩ := List.mem_map.mp h
  have hfound : (ts.find? fun t => t.category == c).isSome := by
    rw [List.find?_isSome]
    exact ⟨t, ht, by simp [hc]⟩
  obtain ⟨t', ht'⟩ := Option.isSome_iff_exists.mp hfound
  exact ⟨t'.text, by rw [firstText?, ht', Option.map_some]⟩

/-- The tokens that spell a noun phrase of a shape have its categories, markers of the end left
aside. -/
theorem map_shape_ofTokens?_eq_some_iff {ts : List Token} {shape : Shape} :
    (ofTokens? ts).map NounPhrase.shape = some shape ↔
      Token.categories (Token.proper ts) = shape.categories := by
  rw [← State.scan_start_eq_some_nil_iff]
  constructor
  · intro h
    obtain ⟨np, hnp, rfl⟩ := Option.map_eq_some_iff.mp h
    simp only [ofTokens?] at hnp
    split at hnp
    · next shape hscan =>
      simp only [Option.bind_eq_bind, Option.bind_eq_some_iff, Option.pure_def,
        Option.some.injEq] at hnp
      obtain ⟨article, -, noun, -, rfl⟩ := hnp
      exact hscan
    · cases hnp
  · intro hscan
    -- a phrase of any shape has an article and a noun
    have hcategories := State.scan_start_eq_some_nil_iff.mp hscan
    obtain ⟨article, harticle⟩ : ∃ x, firstText? (Token.proper ts) .article = some x :=
      exists_firstText? (by rw [hcategories]; cases shape <;> decide)
    obtain ⟨noun, hnoun⟩ : ∃ x, firstText? (Token.proper ts) .noun = some x :=
      exists_firstText? (by rw [hcategories]; cases shape <;> decide)
    simp [ofTokens?, hscan, harticle, hnoun]

theorem isSome_ofTokens?_iff {ts : List Token} :
    (ofTokens? ts).isSome = true ↔
      ∃ s, Token.categories (Token.proper ts) = Shape.categories s := by
  simp only [← map_shape_ofTokens?_eq_some_iff, Option.map_eq_some_iff, Option.isSome_iff_exists]
  constructor
  · rintro ⟨np, hnp⟩
    exact ⟨np.shape, np, hnp, rfl⟩
  · rintro ⟨s, np, hnp, -⟩
    exact ⟨np, hnp⟩

end NounPhrase

theorem Token.proper_eq_self {ts : List Token} (h : .endOfInput ∉ Token.categories ts) :
    Token.proper ts = ts := by
  rw [Token.proper, List.filter_eq_self]
  intro t ht
  have hne : t.category ≠ .endOfInput := fun hend => h (hend ▸ List.mem_map_of_mem ht)
  simp [Token.isEnd, hne]

end Oracion
