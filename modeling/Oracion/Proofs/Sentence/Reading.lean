import Oracion.Proofs.Language
import Oracion.Sentence.Grammar
import Oracion.Sentence.Recognizer

/-!
# What the recognizer reads

A matcher goes over tokens and gives a value or nothing.  It *reads* a language, given
for each value by the words that spell it, when

* with a value, it has passed over a word that spells the value and no longer word of
  the language was ahead;
* without one, it stands at the first token that no word of the language has there, and
  its only new diagnostic reports that token.

Rules are composed of matchers, and reading is inherited: by a rule from its body, and
by a sequence from its parts if one token of lookahead separates them.  At the bottom
stand the match of one token and the machine for noun phrases, whose states are read as
what is still missing.

## Main definitions

* `Recognizer.Passes` — one recognizer comes from another by passing over tokens.
* `Recognizer.Attempt`, `Recognizer.Reads` — the ways a matcher can end.
* `NounPhrase.State.completions` — what may still come in a state of the machine.

## Main results

* `Recognizer.Reads.andThen` — **a sequence reads the product of the languages.**
* `Recognizer.reads_nounPhraseFrom` — the machine reads what is still missing.
* `Recognizer.reads_sentence` — the rule for sentences reads the sentences.
-/

namespace Oracion

open Trace NounPhrase

@[simp] theorem Token.categories_append (u v : List Token) :
    Token.categories (u ++ v) = Token.categories u ++ Token.categories v := List.map_append

namespace Recognizer

/-! ### Passing over tokens -/

/-- `r'` comes from `r` by passing over the tokens `u`. -/
structure Passes (r : Recognizer) (u : List Token) (r' : Recognizer) : Prop where
  /-- What was ahead is what has been passed, and what is ahead now. -/
  ahead : r.ahead = u ++ r'.ahead
  /-- The tokens that have been passed are counted. -/
  index : r'.index = r.index + u.length

namespace Passes

variable {r r' r'' : Recognizer} {u v : List Token}

theorem refl (r : Recognizer) : r.Passes [] r := ⟨rfl, rfl⟩

theorem trans (h : r.Passes u r') (h' : r'.Passes v r'') : r.Passes (u ++ v) r'' where
  ahead := by rw [h.ahead, h'.ahead, List.append_assoc]
  index := by rw [h'.index, h.index, List.length_append, Nat.add_assoc]

theorem category_eq (h : r.Passes [] r') : r'.category = r.category := by
  have ha := h.ahead
  rw [List.nil_append] at ha
  rw [category, category, ha]

/-- The category ahead is the first of those passed over next and of the one after them. -/
theorem category_eq_head (h : r.Passes u r') :
    ∃ cs, Token.categories u ++ [r'.category] = r.category :: cs := by
  have ha := h.ahead
  cases u with
  | nil =>
    refine ⟨[], ?_⟩
    rw [List.nil_append] at ha
    simp [Token.categories, category, ha]
  | cons t u =>
    refine ⟨Token.categories u ++ [r'.category], ?_⟩
    rw [List.cons_append] at ha
    simp [Token.categories, category, ha]

end Passes

/-- What is said of the next token when category `c` is asked for. -/
def complaint (r : Recognizer) (c : Category) : Diagnostic :=
  .unexpected r.position c r.category r.text

/-- A match passes over one token, which is of the category asked for. -/
theorem passes_of_expect_true {r r' : Recognizer} {c : Category} (hc : c ≠ .endOfInput)
    (h : r.expect c = (true, r')) :
    r'.diagnostics = r.diagnostics ∧ ∃ t, t.category = c ∧ r.Passes [t] r' := by
  by_cases hcat : r.category = c
  · rw [expect_of_eq hcat] at h
    obtain rfl := congrArg Prod.snd h
    obtain ⟨ahead, index, diagnostics, tracer⟩ := r
    cases ahead with
    | nil => exact absurd hcat.symm hc
    | cons t ts =>
      have ht : t.category = c := hcat
      have hend : t.isEnd = false := by simp [Token.isEnd, ht, hc]
      refine ⟨?_, t, ht, ?_, ?_⟩ <;> simp [advance, report, hend]
  · rw [expect_of_ne hcat] at h
    exact absurd (congrArg Prod.fst h) Bool.false_ne_true

/-- A failed match passes over nothing and complains about the next token. -/
theorem passes_of_expect_false {r r' : Recognizer} {c : Category}
    (h : r.expect c = (false, r')) :
    r'.category ≠ c ∧ r'.diagnostics = r.diagnostics ++ [r'.complaint c] ∧ r.Passes [] r' := by
  by_cases hcat : r.category = c
  · rw [expect_of_eq hcat] at h
    exact absurd (congrArg Prod.fst h).symm Bool.false_ne_true
  · rw [expect_of_ne hcat] at h
    obtain rfl := congrArg Prod.snd h
    exact ⟨hcat, rfl, rfl, rfl⟩

/-! ### Reading a language -/

/-- The ways in which a matcher can end that reads a value spelled as `L` says. -/
inductive Attempt {α : Type} (L : α → Language Category) (r : Recognizer) :
    Option α × Recognizer → Prop
  /-- It passes over the longest word of the language. -/
  | found {a : α} {u : List Token} {r' : Recognizer} (passes : r.Passes u r')
      (quiet : r'.diagnostics = r.diagnostics) (word : Token.categories u ∈ L a)
      (longest : ¬ Viable (⨆ a, L a) (Token.categories u ++ [r'.category])) :
      Attempt L r (some a, r')
  /-- It stops at the first token that is out of place, and says which would not be. -/
  | lost {u : List Token} {r' : Recognizer} {c : Category} (passes : r.Passes u r')
      (complains : r'.diagnostics = r.diagnostics ++ [r'.complaint c])
      (unfinished : Token.categories u ∉ ⨆ a, L a)
      (possible : Viable (⨆ a, L a) (Token.categories u ++ [c]))
      (misplaced : ¬ Viable (⨆ a, L a) (Token.categories u ++ [r'.category])) :
      Attempt L r (none, r')

/-- A matcher reads the values spelled as `L` says. -/
def Reads {α : Type} (p : Recognizer → Option α × Recognizer) (L : α → Language Category) :
    Prop := ∀ r, Attempt L r (p r)

variable {α β : Type}

/-- A rule reads what its body reads: to report that it is entered and left changes
neither the tokens nor the diagnostics. -/
theorem Reads.production {body : Recognizer → Option α × Recognizer} {L : α → Language Category}
    (hbody : Reads body L) (p : Production) : Reads (production p body) L := by
  intro r
  have h := hbody (r.report (.productionEnter p))
  unfold Recognizer.production
  generalize body (r.report (.productionEnter p)) = result at h
  cases h with
  | found passes quiet word longest =>
    exact .found ⟨passes.ahead, passes.index⟩ quiet word longest
  | lost passes complains unfinished possible misplaced =>
    exact .lost ⟨passes.ahead, passes.index⟩ complains unfinished possible misplaced

/-- The match of a token reads its category. -/
theorem reads_token {c : Category} (hc : c ≠ .endOfInput) :
    Reads (token c) fun _ => {[c]} := by
  intro r
  unfold token
  split
  · next r' h =>
    obtain ⟨quiet, t, ht, passes⟩ := passes_of_expect_true hc h
    refine .found passes quiet ?_ ?_
    · simp [Token.categories, ht]
    · simp [Token.categories]
  · next r' h =>
    obtain ⟨hne, complains, passes⟩ := passes_of_expect_false h
    refine .lost passes complains ?_ ?_ ?_
    · rw [iSup_const, mem_singleton]
      exact (List.cons_ne_nil c []).symm
    · simp [Token.categories]
    · simp [Token.categories, hne]

/-- The words of a sequence: a word for some value of the first part, then one for the
value of the second. -/
def seq (L : α → Language Category) (M : β → Language Category) : β → Language Category :=
  fun b => (⨆ a, L a) * M b

theorem iSup_seq (L : α → Language Category) (M : β → Language Category) :
    ⨆ b, seq L M b = (⨆ a, L a) * ⨆ b, M b := (Language.mul_iSup M (⨆ a, L a)).symm

/-- **A sequence reads the product of the languages**, if the token after the first part
shows that it has ended. -/
theorem Reads.andThen {p : Recognizer → Option α × Recognizer}
    {q : Recognizer → Option β × Recognizer} {L : α → Language Category}
    {M : β → Language Category} (hp : Reads p L) (hq : Reads q M)
    (hs : Separated (⨆ a, L a) (⨆ b, M b)) (hM : ∃ w, w ∈ ⨆ b, M b) :
    Reads (andThen p q) (seq L M) := by
  intro r
  have h := hp r
  unfold Recognizer.andThen
  generalize p r = result at h
  cases h with
  | lost passes complains unfinished possible misplaced =>
    have hviable := possible.of_prefix (List.prefix_append _ _)
    refine .lost passes complains ?_ ?_ ?_ <;> rw [iSup_seq]
    · exact hs.notMem_mul_left hviable unfinished
    · exact possible.mul_right hM
    · exact hs.not_viable_left hviable unfinished misplaced
  | @found a u r₁ passes quiet word longest =>
    have hu : Token.categories u ∈ ⨆ a, L a := Language.mem_iSup.mpr ⟨a, word⟩
    -- the first part has ended after `u`, so from here on the second part decides
    have h₁ := hq r₁
    simp only
    generalize q r₁ = result at h₁
    cases h₁ with
    | @found b v r₂ passes₁ quiet₁ word₁ longest₁ =>
      obtain ⟨cs, hcs⟩ := passes₁.category_eq_head
      refine .found (passes.trans passes₁) (quiet₁.trans quiet) ?_ ?_
      · rw [Token.categories_append]
        exact Language.append_mem_mul hu word₁
      · rw [iSup_seq, Token.categories_append, List.append_assoc, hcs]
        exact hs.not_viable_append hu longest (hcs ▸ longest₁)
    | @lost v r₂ c passes₁ complains₁ unfinished₁ possible₁ misplaced₁ =>
      obtain ⟨cs, hcs⟩ := passes₁.category_eq_head
      refine .lost (passes.trans passes₁) (by rw [complains₁, quiet]) ?_ ?_ ?_ <;>
        rw [iSup_seq, Token.categories_append]
      · refine hs.append_notMem_mul hu ?_ unfinished₁
        intro d ds hv
        rw [hv, List.cons_append] at hcs
        exact (List.cons.inj hcs).1 ▸ longest
      · rw [List.append_assoc]
        exact possible₁.mul_left hu
      · rw [List.append_assoc, hcs]
        exact hs.not_viable_append hu longest (hcs ▸ misplaced₁)

end Recognizer

/-! ### The machine for noun phrases -/

namespace NounPhrase.State

/-- What may still come in a state of the machine, with the shape that results. -/
def completions : State → List (List Category × Shape)
  | start => Grammar.shapes.map fun s => (s.categories, s)
  | pastArticle =>
      [([.noun], .bare), ([.adjective, .noun], .adjectiveFirst),
        ([.noun, .adjective], .adjectiveLast)]
  | pastAdjective => [([.noun], .adjectiveFirst)]
  | pastNoun => [([], .bare), ([.adjective], .adjectiveLast)]
  | complete shape => [([], shape)]

/-- The words that are missing for a shape in a state of the machine. -/
def missing (s : State) (shape : Shape) : Language Category := {w | (w, shape) ∈ s.completions}

@[simp] theorem mem_missing {s : State} {shape : Shape} {w : List Category} :
    w ∈ s.missing shape ↔ (w, shape) ∈ s.completions := Iff.rfl

theorem mem_iSup_missing {s : State} {w : List Category} :
    w ∈ ⨆ shape, s.missing shape ↔ ∃ p ∈ s.completions, p.1 = w := by
  simp [Language.mem_iSup]

theorem viable_missing {s : State} {w : List Category} :
    Viable (⨆ shape, s.missing shape) w ↔ ∃ p ∈ s.completions, w <+: p.1 := by
  simp only [Viable, mem_iSup_missing]
  constructor
  · rintro ⟨_, ⟨p, hp, rfl⟩, hw⟩
    exact ⟨p, hp, hw⟩
  · rintro ⟨p, hp, hw⟩
    exact ⟨p.1, ⟨p, hp, rfl⟩, hw⟩

/-- The machine never asks for the end of the input. -/
theorem ne_endOfInput_of_next {s s' : State} {lookahead c : Category}
    (h : s.next lookahead = .expect c s') : c ≠ .endOfInput := by
  rintro rfl
  cases s <;> cases lookahead <;> simp [next] at h

/-- What is missing after a match is what was missing, less the category matched. -/
theorem cons_mem_missing {s s' : State} {lookahead c : Category}
    (h : s.next lookahead = .expect c s') (shape : Shape) (w : List Category) :
    c :: w ∈ s.missing shape ↔ w ∈ s'.missing shape := by
  cases s <;> cases lookahead <;>
    simp only [next, Step.expect.injEq, reduceCtorEq] at h <;>
    obtain ⟨rfl, rfl⟩ := h <;>
    simp [completions, Grammar.shapes, Shape.categories]

/-- The machine accepts a shape when nothing is missing for it and the next token is not
missing for any. -/
theorem of_next_accept {s : State} {lookahead : Category} {shape : Shape}
    (h : s.next lookahead = .accept shape) :
    [] ∈ s.missing shape ∧ ¬ Viable (⨆ shape, s.missing shape) [lookahead] := by
  rw [viable_missing]
  cases s <;> cases lookahead <;>
    simp only [next, Step.accept.injEq, reduceCtorEq] at h <;>
    obtain rfl := h <;>
    simp [completions]

/-- When the next token is not of the category that the machine asks for, something is
missing, it may be of that category, and it is not the next token. -/
theorem of_next_expect {s s' : State} {lookahead c : Category}
    (h : s.next lookahead = .expect c s') (hne : lookahead ≠ c) :
    [] ∉ (⨆ shape, s.missing shape) ∧ Viable (⨆ shape, s.missing shape) [c] ∧
      ¬ Viable (⨆ shape, s.missing shape) [lookahead] := by
  rw [viable_missing, viable_missing, mem_iSup_missing]
  cases s <;> cases lookahead <;>
    simp only [next, Step.expect.injEq, reduceCtorEq] at h <;>
    obtain ⟨rfl, rfl⟩ := h <;>
    simp [completions, Grammar.shapes, Shape.categories] at hne ⊢

end NounPhrase.State

namespace Recognizer

/-- **The machine reads what is missing** in the state that it starts in. -/
theorem reads_nounPhraseFrom (s : State) : Reads (nounPhraseFrom s) s.missing := by
  intro r
  -- along the recursion of the matcher: each match takes a category off what is missing
  fun_induction nounPhraseFrom s r with
  | case1 s r shape h =>
    obtain ⟨hmem, hnone⟩ := State.of_next_accept h
    exact .found (Passes.refl r) rfl hmem hnone
  | case2 s r c s' h r' he ih =>
    obtain ⟨quiet, t, rfl, passes⟩ := passes_of_expect_true (State.ne_endOfInput_of_next h) he
    have hcons : ∀ w, t.category :: w ∈ (⨆ shape, s.missing shape) ↔
        w ∈ ⨆ shape, s'.missing shape := by
      intro w
      simp only [Language.mem_iSup, State.cons_mem_missing h]
    generalize nounPhraseFrom s' r' = result at ih ⊢
    cases ih with
    | found passes' quiet' word longest =>
      refine .found (passes.trans passes') (quiet'.trans quiet) ?_ ?_
      · exact (State.cons_mem_missing h _ _).mpr word
      · exact mt (viable_cons_iff hcons).mp longest
    | lost passes' complains unfinished possible misplaced =>
      refine .lost (passes.trans passes') (by rw [complains, quiet]) ?_ ?_ ?_
      · exact mt (hcons _).mp unfinished
      · exact (viable_cons_iff hcons).mpr possible
      · exact mt (viable_cons_iff hcons).mp misplaced
  | case3 s r c s' h r' he =>
    obtain ⟨hne, complains, passes⟩ := passes_of_expect_false he
    rw [passes.category_eq] at hne
    obtain ⟨hnil, hpossible, hnone⟩ := State.of_next_expect h hne
    rw [← passes.category_eq] at hnone
    exact .lost passes complains hnil hpossible hnone

end Recognizer

/-! ### The rules -/

namespace Grammar

/-- The one word that a shape of noun phrase has. -/
def phrase (shape : Shape) : Language Category := {shape.categories}

/-- The sentences. -/
def language : Language Category := {cs | IsSentence cs}

@[simp] theorem mem_language {cs : List Category} : cs ∈ language ↔ IsSentence cs := Iff.rfl

theorem exists_mem_phrase : ∃ w, w ∈ ⨆ shape, phrase shape :=
  ⟨_, Language.mem_iSup.mpr ⟨.bare, rfl⟩⟩

/-- A sequence of categories that starts a noun phrase starts the word of a shape. -/
theorem viable_phrase {w : List Category} :
    Viable (⨆ shape, phrase shape) w ↔ ∃ shape : Shape, w <+: shape.categories := by
  simp [phrase]

/-- Only an adjective continues a noun phrase, and no verb is one. -/
theorem separated_phrase {M : Language Category} (hM : ¬ Viable M [.adjective]) :
    Separated (⨆ shape, phrase shape) M := by
  intro w c hw hc
  obtain ⟨s, rfl⟩ := Language.mem_iSup.mp hw
  obtain ⟨t, ht⟩ := viable_phrase.mp hc
  have hadj : c = .adjective := by
    cases s <;> cases t <;> simp [Shape.categories, List.cons_prefix_cons] at ht
    exact ht
  rw [hadj]
  exact hM

/-- Nothing continues a single category. -/
theorem separated_singleton (c : Category) (M : Language Category) : Separated {[c]} M := by
  intro w d hw hd
  rw [mem_singleton] at hw
  rw [hw, viable_singleton] at hd
  exact absurd hd.length_le (by simp)

end Grammar

namespace Recognizer

open Grammar

/-- The rule for noun phrases reads the three of them. -/
theorem reads_nounPhrase : Reads nounPhrase phrase := by
  have hstart : State.start.missing = phrase := by
    funext shape
    ext w
    cases shape <;> simp [State.completions, shapes, phrase]
  exact hstart ▸ reads_nounPhraseFrom .start

/-- The words of a predicate, by the shape of its complement. -/
def predicateWords : Shape → Language Category := seq (fun _ : Unit => {[.verb]}) phrase

theorem iSup_predicateWords : ⨆ shape, predicateWords shape = {[.verb]} * ⨆ shape, phrase shape := by
  rw [predicateWords, iSup_seq, iSup_const]

/-- The rule for predicates reads a verb and a noun phrase. -/
theorem reads_predicate : Reads predicate predicateWords := by
  refine Reads.production (Reads.andThen (reads_token (by decide)) ?_ ?_ ?_) .predicate
  · exact reads_nounPhrase.production .complement
  · rw [iSup_const]
    exact separated_singleton .verb _
  · exact exists_mem_phrase

/-- The words of a sentence, by the shape of its complement. -/
def sentenceWords : Shape → Language Category := seq phrase predicateWords

/-- The rule for sentences reads a subject and a predicate. -/
theorem reads_sentence : Reads sentence sentenceWords := by
  refine Reads.production (Reads.andThen ?_ reads_predicate ?_ ?_) .sentence
  · exact reads_nounPhrase.production .subject
  · -- a predicate starts with its verb, so an adjective belongs to the subject
    refine separated_phrase ?_
    rw [iSup_predicateWords]
    rintro ⟨_, hxy, hpre⟩
    obtain ⟨x, hx, y, -, rfl⟩ := Language.mem_mul.mp hxy
    rw [mem_singleton] at hx
    simp [hx, List.cons_prefix_cons] at hpre
  · obtain ⟨w, hw⟩ := exists_mem_phrase
    exact ⟨[.verb] ++ w, iSup_predicateWords ▸ Language.append_mem_mul rfl hw⟩

/-- The words of a sentence, for all shapes together, are the sentences of the grammar. -/
theorem iSup_sentenceWords : ⨆ shape, sentenceWords shape = language := by
  ext cs
  rw [sentenceWords, iSup_seq, iSup_predicateWords]
  simp only [Language.mem_mul, Language.mem_iSup, phrase, mem_singleton, mem_language, IsSentence,
    IsNounPhrase]
  constructor
  · rintro ⟨x, ⟨s, hx⟩, _, ⟨_, rfl, y, ⟨t, hy⟩, rfl⟩, rfl⟩
    exact ⟨x, y, ⟨s, hx⟩, ⟨t, hy⟩, rfl⟩
  · rintro ⟨x, y, ⟨s, hx⟩, ⟨t, hy⟩, rfl⟩
    exact ⟨x, ⟨s, hx⟩, _, ⟨_, rfl, y, ⟨t, hy⟩, rfl⟩, rfl⟩

end Recognizer
end Oracion
