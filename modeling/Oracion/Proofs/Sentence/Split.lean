import Oracion.Proofs.NounPhrase.Spelling
import Oracion.Proofs.Sentence.Divergence

/-!
# Sentences cut at their first verb

A sentence has one verb, so it can be found without a recognizer: look for the first verb, and
see whether what comes before it and what comes after it are noun phrases.  This gives the same
answer as recursive descent on every list of tokens, and the shapes of the two phrases are those
that the machine accepts on its way through the sentence.

## Main definitions

* `Token.verbIndex?` — the place of the first verb.
* `Recognizer.AcceptsShapes` — the shapes that the machine accepts in a sentence.

## Main results

* `Recognizer.Reads.finds` — **a matcher finds the word that is ahead**, if it cannot go on.
* `isSentence_iff_verbIndex?` — a sentence is two noun phrases around the first verb.
* `Recognizer.fst_sentence_eq_some_iff` — the way that the rule for sentences takes.
* `recognize_agrees_with_split` — **the recognizer agrees with the cut at the verb.**
-/

namespace Oracion

open Trace NounPhrase Grammar

/-! ### The first verb -/

/-- The place of the first verb. -/
def Token.verbIndex? (ts : List Token) : Option Nat := ts.findIdx? fun t => t.category == .verb

theorem Token.verbIndex?_append {before after : List Token} {verb : Token}
    (hbefore : .verb ∉ Token.categories before) (hverb : verb.category = .verb) :
    Token.verbIndex? (before ++ verb :: after) = some before.length := by
  have hnone : before.findIdx? (fun t => t.category == .verb) = none := by
    rw [List.findIdx?_eq_none_iff]
    intro t ht
    have hne : t.category ≠ .verb := fun h => hbefore (h ▸ List.mem_map_of_mem ht)
    simpa using hne
  rw [verbIndex?, List.findIdx?_append, hnone, List.findIdx?_cons, hverb]
  simp

/-- The place of the first verb cuts a list in front of a verb and behind tokens that are not
verbs. -/
theorem Token.exists_of_verbIndex? {ts : List Token} {v : Nat} (h : verbIndex? ts = some v) :
    ∃ verb, ts = ts.take v ++ verb :: ts.drop (v + 1) ∧ verb.category = .verb ∧
      .verb ∉ Token.categories (ts.take v) := by
  obtain ⟨hlt, hverb, hfirst⟩ := List.findIdx?_eq_some_iff_getElem.mp h
  refine ⟨ts[v], ?_, by simpa using hverb, ?_⟩
  · rw [← List.drop_eq_getElem_cons hlt, List.take_append_drop]
  · intro hmem
    obtain ⟨t, ht, hcategory⟩ := List.mem_map.mp hmem
    obtain ⟨i, hi, rfl⟩ := List.mem_iff_getElem.mp ht
    rw [List.length_take] at hi
    rw [List.getElem_take] at hcategory
    exact hfirst i (by omega) (by simp [hcategory])

theorem verb_notMem_categories (s : Shape) : .verb ∉ s.categories := by
  cases s <;> decide

theorem endOfInput_notMem_categories (s : Shape) : .endOfInput ∉ s.categories := by
  cases s <;> decide

/-- Tokens with the categories of a sentence fall apart at the first verb as their categories
do. -/
theorem Token.verbIndex?_of_categories {ts : List Token} {s t : Shape}
    (h : Token.categories ts = s.categories ++ .verb :: t.categories) :
    ∃ v, Token.verbIndex? ts = some v ∧ Token.categories (ts.take v) = s.categories ∧
      Token.categories (ts.drop (v + 1)) = t.categories := by
  obtain ⟨before, rest, rfl, hbefore, hrest⟩ := List.map_eq_append_iff.mp h
  obtain ⟨verb, after, rfl, hverb, hafter⟩ := List.map_eq_cons_iff.mp hrest
  have hnone : .verb ∉ Token.categories before := by
    rw [Token.categories, hbefore]
    exact verb_notMem_categories s
  refine ⟨before.length, Token.verbIndex?_append hnone hverb, ?_, ?_⟩
  · rw [List.take_left]
    exact hbefore
  · rw [← List.drop_drop, List.drop_left]
    exact hafter

theorem isSentence_iff_verbIndex? {ts : List Token} :
    IsSentence (Token.categories ts) ↔
      ∃ v s t, Token.verbIndex? ts = some v ∧ Token.categories (ts.take v) = Shape.categories s ∧
        Token.categories (ts.drop (v + 1)) = Shape.categories t := by
  constructor
  · rintro ⟨_, _, ⟨s, rfl⟩, ⟨t, rfl⟩, hts⟩
    obtain ⟨v, hv, hs, ht⟩ := Token.verbIndex?_of_categories hts
    exact ⟨v, s, t, hv, hs, ht⟩
  · rintro ⟨v, s, t, hv, hs, ht⟩
    obtain ⟨verb, hts, hverb, -⟩ := Token.exists_of_verbIndex? hv
    refine ⟨s.categories, t.categories, ⟨s, rfl⟩, ⟨t, rfl⟩, ?_⟩
    rw [hts, Token.categories_append, hs, ← ht, ← hverb]
    rfl

/-! ### What a matcher finds -/

namespace Recognizer

variable {α : Type} {r r₁ r₂ : Recognizer} {u v : List Token}

theorem exists_passes (h : r.ahead = u ++ v) : ∃ r', r.Passes u r' ∧ r'.ahead = v :=
  ⟨{ r with ahead := v, index := r.index + u.length }, ⟨h, rfl⟩, rfl⟩

/-- Where one recognizer stops earlier than another, what it sees is passed over by the
other. -/
theorem Passes.snoc_prefix (hu : r.Passes u r₁) (hv : r.Passes v r₂)
    (hlt : v.length < u.length) :
    Token.categories v ++ [r₂.category] <+: Token.categories u := by
  have heq : u ++ r₁.ahead = v ++ r₂.ahead := hu.ahead.symm.trans hv.ahead
  have hpre : v <+: u :=
    List.prefix_of_prefix_length_le (heq ▸ List.prefix_append v r₂.ahead)
      (List.prefix_append u r₁.ahead) (Nat.le_of_lt hlt)
  obtain ⟨x, rfl⟩ := hpre
  cases x with
  | nil => simp at hlt
  | cons t x =>
    rw [List.append_assoc, List.append_cancel_left_eq, List.cons_append] at heq
    have hcategory : r₂.category = t.category := by rw [category, ← heq]
    rw [hcategory, Token.categories_append, List.prefix_append_right_inj]
    exact List.prefix_append [t.category] (Token.categories x)

/-- There is one place where a recognizer can have stopped for a language: what is passed over
is viable, and with what is seen it is not. -/
theorem Passes.length_le {L : Language Category} (hu : r.Passes u r₁) (hv : r.Passes v r₂)
    (hviable : Viable L (Token.categories u))
    (hstop : ¬ Viable L (Token.categories v ++ [r₂.category])) : u.length ≤ v.length := by
  by_contra hlt
  exact hstop (hviable.of_prefix (hu.snoc_prefix hv (by omega)))

/-- **A matcher finds the word that is ahead**, if the token behind the word shows that it has
ended. -/
theorem Reads.finds {p : Recognizer → Option α × Recognizer} {L : α → Language Category}
    (hp : Reads p L) (hu : r.Passes u r₁) (hword : Token.categories u ∈ ⨆ a, L a)
    (hstop : ¬ Viable (⨆ a, L a) (Token.categories u ++ [r₁.category])) :
    ∃ a r', p r = (some a, r') ∧ r.Passes u r' ∧ Token.categories u ∈ L a := by
  have hviable := viable_of_mem hword
  have h := hp r
  rcases hr : p r with ⟨result, r'⟩
  rw [hr] at h
  -- the matcher has passed over the same tokens, so it cannot be lost
  have hsame : ∀ {v}, r.Passes v r' → Viable (⨆ a, L a) (Token.categories v) →
      ¬ Viable (⨆ a, L a) (Token.categories v ++ [r'.category]) → v = u := by
    intro v hv hviable' hstop'
    have hle := hu.length_le hv hviable hstop'
    have hge := hv.length_le hu hviable' hstop
    exact (List.append_inj (hv.ahead.symm.trans hu.ahead) (Nat.le_antisymm hge hle)).1
  cases h with
  | @found a v r' passes quiet word longest =>
    obtain rfl := hsame passes (viable_of_mem (Language.mem_iSup.mpr ⟨a, word⟩)) longest
    exact ⟨a, r', rfl, passes, word⟩
  | lost passes complains unfinished possible misplaced =>
    obtain rfl := hsame passes (possible.of_prefix (List.prefix_append _ _)) misplaced
    exact absurd hword unfinished

end Recognizer

/-! ### The shapes that the machine accepts -/

namespace Recognizer

/-- On its way through a sentence from `r` on, the machine for noun phrases accepts the shape `s`
for the subject and, behind a verb, the shape `t` for the complement. -/
def AcceptsShapes (r : Recognizer) (s t : Shape) : Prop :=
  ∃ r₁ r₂ r₃,
    (r.report (.productionEnter .sentence)).subject = (some s, r₁) ∧
      (r₁.report (.productionEnter .predicate)).expect .verb = (true, r₂) ∧
        r₂.complement = (some t, r₃)

/-- This is the way that the rule for sentences takes when it succeeds. -/
theorem fst_sentence_eq_some_iff {r : Recognizer} {t : Shape} :
    r.sentence.1 = some t ↔ ∃ s, r.AcceptsShapes s t := by
  simp only [sentence, production, andThen, predicate, token, AcceptsShapes]
  rcases (r.report (.productionEnter .sentence)).subject with ⟨_ | s, r₁⟩
  · simp
  · rcases h₂ : (r₁.report (.productionEnter .predicate)).expect .verb with ⟨_ | _, r₂⟩
    · simp [h₂]
    · rcases h₃ : r₂.complement with ⟨_ | t', r₃⟩ <;> simp [h₂, h₃]

theorem not_viable_phrase_snoc (s : Shape) {c : Category} (hc : c ≠ .adjective) :
    ¬ Viable (⨆ shape, phrase shape) (s.categories ++ [c]) := by
  intro hviable
  have hother : ¬ Viable ({[c]} : Language Category) [.adjective] := by
    simpa [List.cons_prefix_cons] using hc.symm
  exact separated_phrase hother _ c (Language.mem_iSup.mpr ⟨s, rfl⟩) hviable (by simp)

/-- The rule for noun phrases, entered as a part of any other rule, finds the phrase that is
ahead, if no adjective follows it. -/
theorem nounPhrase_finds {r r₁ : Recognizer} {u : List Token} {s : Shape} (p : Production)
    (hu : r.Passes u r₁) (hs : Token.categories u = s.categories)
    (hstop : r₁.category ≠ .adjective) :
    ∃ r', production p nounPhrase r = (some s, r') ∧ r.Passes u r' := by
  have hword : Token.categories u ∈ ⨆ shape, phrase shape := Language.mem_iSup.mpr ⟨s, hs⟩
  have hend : ¬ Viable (⨆ shape, phrase shape) (Token.categories u ++ [r₁.category]) := by
    rw [hs]
    exact not_viable_phrase_snoc s hstop
  obtain ⟨t, r', hr, hpasses, ht⟩ := (reads_nounPhrase.production p).finds hu hword hend
  obtain rfl : t = s := Shape.categories_injective (Eq.trans (Eq.symm ht) hs)
  exact ⟨r', hr, hpasses⟩

/-- The machine accepts the shapes of the phrases before and after a verb, if the second ends
where the input does. -/
theorem acceptsShapes_of_categories {before after rest : List Token} {verb : Token} {s t : Shape}
    (hs : Token.categories before = s.categories) (hverb : verb.category = .verb)
    (ht : Token.categories after = t.categories) (hrest : Token.categoryAt rest 0 = .endOfInput)
    {r : Recognizer} (hr : r.ahead = before ++ verb :: (after ++ rest)) :
    r.AcceptsShapes s t := by
  -- the subject ends before the verb
  obtain ⟨q₁, hq₁, hahead₁⟩ := exists_passes hr
  have hsees₁ : q₁.category ≠ .adjective := by
    rw [category, hahead₁]
    simp [hverb]
  obtain ⟨r₁, hsubject, hpasses₁⟩ :=
    nounPhrase_finds (r := r.report (.productionEnter .sentence)) .subject
      ⟨hq₁.ahead, hq₁.index⟩ hs hsees₁
  have hr₁ : r₁.ahead = verb :: (after ++ rest) :=
    List.append_cancel_left (hpasses₁.ahead.symm.trans hr)
  -- the verb is matched
  have hsees : (r₁.report (.productionEnter .predicate)).category = .verb := by
    rw [category, report, hr₁]
    exact hverb
  obtain ⟨r₂, hexpect⟩ :
      ∃ r₂, (r₁.report (.productionEnter .predicate)).expect .verb = (true, r₂) :=
    ⟨_, expect_of_eq hsees⟩
  obtain ⟨-, t₂, -, hpasses₂⟩ := passes_of_expect_true (by decide) hexpect
  have hahead₂ : r₂.ahead = after ++ rest := by
    have h : verb :: (after ++ rest) = t₂ :: r₂.ahead := hr₁.symm.trans hpasses₂.ahead
    exact (List.cons.inj h).2.symm
  -- the complement ends with the input
  obtain ⟨q₃, hq₃, hahead₃⟩ := exists_passes hahead₂
  have hsees₃ : q₃.category ≠ .adjective := by
    have h : q₃.category = Token.categoryAt rest 0 := by
      rw [category, hahead₃, Token.categoryAt]
      cases rest <;> rfl
    rw [h, hrest]
    decide
  obtain ⟨r₃, hcomplement, -⟩ := nounPhrase_finds .complement hq₃ ht hsees₃
  exact ⟨r₁, r₂, r₃, hsubject, hexpect, hcomplement⟩

end Recognizer

/-! ### Two ways to a sentence -/

theorem success_append_iff {u rest : List Token} (hu : .endOfInput ∉ Token.categories u)
    (hrest : Token.categoryAt rest 0 = .endOfInput) :
    (recognize (u ++ rest)).success = true ↔ IsSentence (Token.categories u) := by
  have hbefore := Token.beforeEnd_append hu hrest
  rcases recognizeWith_cases (u ++ rest) .off with ⟨hs, heq⟩ | ⟨k, d, hk, -, heq⟩
  · rw [recognize, heq]
    exact iff_of_true rfl (hbefore ▸ hs)
  · have hnot : ¬ IsSentence (Token.categories u) := by
      rw [← hbefore]
      exact fun hs => not_divergesAt_of_isSentence hs hk
    rw [recognize, heq]
    exact iff_of_false Bool.false_ne_true hnot

/-- **The recognizer agrees with the cut at the verb.**  Tokens, with or without a marker of the end
after them, are accepted exactly when they have a verb and what comes before the first one and
what comes after it are noun phrases; and the shapes of these are the ones that the machine
accepts for the subject and for the complement, whoever is told about it. -/
theorem recognize_agrees_with_split (u : List Token) (hu : ∀ t ∈ u, t.category ≠ .endOfInput)
    (e : Option Token) (he : ∀ t ∈ e, t.category = .endOfInput) :
    ((recognize (u ++ e.toList)).success = true ↔
      ∃ v, Token.verbIndex? u = some v ∧ (ofTokens? (u.take v)).isSome = true ∧
        (ofTokens? (u.drop (v + 1))).isSome = true) ∧
    ∀ v subject complement, Token.verbIndex? u = some v → ofTokens? (u.take v) = some subject →
      ofTokens? (u.drop (v + 1)) = some complement →
      ∀ tracer, Recognizer.AcceptsShapes ⟨u ++ e.toList, 0, [], tracer⟩
        subject.shape complement.shape := by
  have hwords : .endOfInput ∉ Token.categories u := by
    intro hmem
    obtain ⟨t, ht, hend⟩ := List.mem_map.mp hmem
    exact hu t ht hend
  have hrest : Token.categoryAt e.toList 0 = .endOfInput := by
    cases e with
    | none => rfl
    | some t => exact he t rfl
  -- no part of `u` has a marker of the end in it
  have hbefore : ∀ v, Token.proper (u.take v) = u.take v := fun v =>
    Token.proper_eq_self fun h => hwords ((List.take_sublist v u).map _ |>.subset h)
  have hafter : ∀ v, Token.proper (u.drop v) = u.drop v := fun v =>
    Token.proper_eq_self fun h => hwords ((List.drop_sublist v u).map _ |>.subset h)
  constructor
  · rw [success_append_iff hwords hrest, isSentence_iff_verbIndex?]
    simp only [isSome_ofTokens?_iff, hbefore, hafter]
    constructor
    · rintro ⟨v, s, t, hv, hs, ht⟩
      exact ⟨v, hv, ⟨s, hs⟩, ⟨t, ht⟩⟩
    · rintro ⟨v, hv, ⟨s, hs⟩, ⟨t, ht⟩⟩
      exact ⟨v, s, t, hv, hs, ht⟩
  · intro v subject complement hv hsubject hcomplement tracer
    have hs : Token.categories (u.take v) = subject.shape.categories := by
      rw [← hbefore, ← map_shape_ofTokens?_eq_some_iff, hsubject, Option.map_some]
    have ht : Token.categories (u.drop (v + 1)) = complement.shape.categories := by
      rw [← hafter, ← map_shape_ofTokens?_eq_some_iff, hcomplement, Option.map_some]
    obtain ⟨verb, hcut, hverb, -⟩ := Token.exists_of_verbIndex? hv
    refine Recognizer.acceptsShapes_of_categories hs hverb ht hrest ?_
    show u ++ e.toList = u.take v ++ verb :: (u.drop (v + 1) ++ e.toList)
    nth_rewrite 1 [hcut]
    rw [List.append_assoc, List.cons_append]

/-- A sentence without a marker of the end, and with positions of its own. -/
theorem recognize_agrees_with_split_of_unmarked :
    let u : List Token := [⟨.article, "el", 9⟩, ⟨.noun, "perro", 9⟩, ⟨.adjective, "grande", 0⟩,
      ⟨.verb, "come", 4⟩, ⟨.article, "un", 4⟩, ⟨.noun, "hueso", 7⟩]
    (∀ t ∈ u, t.category ≠ .endOfInput) ∧ Token.verbIndex? u = some 3 ∧
      (recognize u).success = true ∧
        Recognizer.AcceptsShapes ⟨u, 0, [], .off⟩ .adjectiveLast .bare := by
  intro u
  have hu : ∀ t ∈ u, t.category ≠ .endOfInput := by decide
  obtain ⟨hsuccess, hshapes⟩ := recognize_agrees_with_split u hu none (by simp)
  rw [Option.toList_none, List.append_nil] at hsuccess hshapes
  refine ⟨hu, rfl, hsuccess.mpr ⟨3, rfl, rfl, rfl⟩, ?_⟩
  exact hshapes 3 _ _ rfl rfl rfl .off

end Oracion
