import Oracion.Proofs.Analysis.Canonical
import Oracion.Proofs.NounPhrase.Spelling

/-!
# A noun phrase has the words of its tokens

`NounPhrase.ofTokens?` looks at its tokens twice: the machine goes through them and tells the
shape, and then the words are looked up by category.  Both come to the same, because a shape has
each category once.  So the words of a noun phrase are those of the tokens, in order and with none
left over, and a noun phrase that is printed is read again as the same.

## Main results

* `NounPhrase.ofTokens?_cases` — **the tokens of a noun phrase, for each of its shapes.**
* `NounPhrase.words_of_ofTokens?` — the words of a noun phrase are those of its tokens.
* `NounPhrase.tokens_spell_noun_phrase` — which tokens spell a noun phrase, and which one.
-/

namespace Oracion
namespace NounPhrase

variable {ts : List Token} {np : NounPhrase}

theorem firstText?_nil (c : Category) : firstText? [] c = none := rfl

theorem firstText?_cons (t : Token) (ts : List Token) (c : Category) :
    firstText? (t :: ts) c = if t.category = c then some t.text else firstText? ts c := by
  unfold firstText?
  rw [List.find?_cons]
  by_cases h : t.category = c
  · rw [if_pos h, beq_iff_eq.mpr h]
    rfl
  · rw [if_neg h, beq_eq_false_iff_ne.mpr h]

/-- What is known of a noun phrase that tokens spell: the categories of the tokens, and the words
that the look-up finds. -/
theorem lookup_of_ofTokens? (h : ofTokens? ts = some np) :
    Token.categories (Token.proper ts) = np.shape.categories ∧
      firstText? (Token.proper ts) .article = some np.article ∧
      firstText? (Token.proper ts) .noun = some np.noun ∧
      firstText? (Token.proper ts) .adjective = np.adjective := by
  have hcategories : Token.categories (Token.proper ts) = np.shape.categories := by
    rw [← map_shape_ofTokens?_eq_some_iff, h, Option.map_some]
  simp only [ofTokens?] at h
  split at h
  · simp only [Option.bind_eq_bind, Option.bind_eq_some_iff, Option.pure_def,
      Option.some.injEq] at h
    obtain ⟨article, harticle, noun, hnoun, rfl⟩ := h
    exact ⟨hcategories, harticle, hnoun, rfl⟩
  · cases h

/-- **The tokens of a noun phrase, for each of its shapes.** -/
theorem ofTokens?_cases (h : ofTokens? ts = some np) :
    (∃ a n, Token.proper ts = [a, n] ∧ np = ⟨a.text, none, n.text, .bare⟩) ∨
      (∃ a d n, Token.proper ts = [a, d, n] ∧
        np = ⟨a.text, some d.text, n.text, .adjectiveFirst⟩) ∨
      ∃ a n d, Token.proper ts = [a, n, d] ∧
        np = ⟨a.text, some d.text, n.text, .adjectiveLast⟩ := by
  obtain ⟨hcategories, harticle, hnoun, hadjective⟩ := lookup_of_ofTokens? h
  obtain ⟨article, adjective, noun, shape⟩ := np
  -- each category stands once in a shape, so the look-up finds the token at its place
  cases shape with
  | bare =>
    obtain ⟨a, n, hts, ha, hn⟩ : ∃ a n : Token, Token.proper ts = [a, n] ∧
        a.category = .article ∧ n.category = .noun := by
      simpa [Token.categories, Shape.categories, List.map_eq_cons_iff] using hcategories
    simp only [hts, firstText?_cons, firstText?_nil, ha, hn, reduceCtorEq, if_true, if_false,
      Option.some.injEq] at harticle hnoun hadjective
    exact .inl ⟨a, n, hts, by rw [harticle, hnoun, hadjective]⟩
  | adjectiveFirst =>
    obtain ⟨a, d, n, hts, ha, hd, hn⟩ : ∃ a d n : Token, Token.proper ts = [a, d, n] ∧
        a.category = .article ∧ d.category = .adjective ∧ n.category = .noun := by
      simpa [Token.categories, Shape.categories, List.map_eq_cons_iff] using hcategories
    simp only [hts, firstText?_cons, ha, hd, hn, reduceCtorEq, if_true, if_false,
      Option.some.injEq] at harticle hnoun hadjective
    exact .inr (.inl ⟨a, d, n, hts, by rw [harticle, hnoun, hadjective]⟩)
  | adjectiveLast =>
    obtain ⟨a, n, d, hts, ha, hn, hd⟩ : ∃ a n d : Token, Token.proper ts = [a, n, d] ∧
        a.category = .article ∧ n.category = .noun ∧ d.category = .adjective := by
      simpa [Token.categories, Shape.categories, List.map_eq_cons_iff] using hcategories
    simp only [hts, firstText?_cons, ha, hn, hd, reduceCtorEq, if_true, if_false,
      Option.some.injEq] at harticle hnoun hadjective
    exact .inr (.inr ⟨a, n, d, hts, by rw [harticle, hnoun, hadjective]⟩)

/-- **The words of a noun phrase are those of its tokens**, in order and with none left over. -/
theorem words_of_ofTokens? (h : ofTokens? ts = some np) :
    np.words = (Token.proper ts).map Token.text := by
  rcases ofTokens?_cases h with ⟨a, n, hts, rfl⟩ | ⟨a, d, n, hts, rfl⟩ | ⟨a, n, d, hts, rfl⟩
  · rw [hts]
    rfl
  · rw [hts]
    rfl
  · rw [hts]
    rfl

theorem adjective_eq_none_iff (h : ofTokens? ts = some np) :
    np.adjective = none ↔ np.shape = .bare := by
  rcases ofTokens?_cases h with ⟨a, n, -, rfl⟩ | ⟨a, d, n, -, rfl⟩ | ⟨a, n, d, -, rfl⟩
  · exact iff_of_true rfl rfl
  · exact iff_of_false (Option.some_ne_none _) nofun
  · exact iff_of_false (Option.some_ne_none _) nofun

/-- What is printed of a noun phrase that a text spells has the tokens of the text. -/
theorem tokenize_render {text : String} (h : ofTokens? (tokenize text) = some np) :
    tokenize np.render = tokenize text := by
  rw [render, words_of_ofTokens? h, proper_tokenize, Vocabulary.map_text_tokensOf,
    tokenize_intercalate]

/-- **Which tokens spell a noun phrase, and which one.**  Markers of the end left aside, tokens spell
a noun phrase if their categories are those of one of the three shapes, and only then.  The
phrase is of that shape, has an adjective unless it is bare, and its words are those of the
tokens, in order.  A noun phrase that a text spells is spelled by what is printed of it. -/
theorem tokens_spell_noun_phrase (ts : List Token) :
    ((ofTokens? ts).isSome = true ↔
        Token.categories (Token.proper ts) ∈
          [[.article, .noun], [.article, .adjective, .noun], [.article, .noun, .adjective]]) ∧
      (∀ np, ofTokens? ts = some np →
        Token.categories (Token.proper ts) = np.shape.categories ∧
          (np.adjective = none ↔ np.shape = .bare) ∧
          np.words = (Token.proper ts).map Token.text) ∧
      ∀ text np, ofTokens? (tokenize text) = some np → ofTokens? (tokenize np.render) = some np := by
  refine ⟨?_, ?_, ?_⟩
  · exact isSome_ofTokens?_iff.trans Grammar.isNounPhrase_iff_mem
  · intro np h
    exact ⟨(lookup_of_ofTokens? h).1, adjective_eq_none_iff h, words_of_ofTokens? h⟩
  · intro text np h
    rw [tokenize_render h, h]

/-- Tokens with markers of the end among them, and a text with capitals and more blanks than
needed. -/
theorem tokens_spell_noun_phrase_of_capitals :
    let ts : List Token := [.endAt 7, ⟨.article, "un", 3⟩, ⟨.noun, "libro", 3⟩, .endAt 0,
      ⟨.adjective, "azul", 9⟩]
    let np : NounPhrase := ⟨"un", some "azul", "libro", .adjectiveLast⟩
    let text := " UN  Libro azul\n"
    ofTokens? ts = some np ∧ ofTokens? (tokenize text) = some np ∧
      np.words = ["un", "libro", "azul"] ∧ ofTokens? (tokenize np.render) = some np := by
  intro ts np text
  have hts : ofTokens? ts = some np := by decide
  have htext : ofTokens? (tokenize text) = some np := by decide +kernel
  obtain ⟨-, hspells, hprints⟩ := tokens_spell_noun_phrase ts
  exact ⟨hts, htext, (hspells np hts).2.2, hprints text np htext⟩

end NounPhrase
end Oracion
