import Oracion.Proofs.Sentence.Locality

/-!
# How far the recognizer looks

A recognition passes over a start of a sentence, so over seven tokens at most and over no
marker of the end, and it looks at one token more.  What comes after the eighth token, or
after a marker, could be anything.

Where there is no marker, the end of the list stands for one.  A matcher cannot tell the two
apart: with a marker put after the tokens ahead it sees the same category, text and position
at every step, and never moves past it.

## Main definitions

* `Recognizer.marked` — a recognizer with a marker put after the tokens ahead.
* `Recognizer.IgnoresMark` — matchers that cannot tell a marker from the end of the list.

## Main results

* `exists_viable_passes` — a recognition stops after a start of a sentence.
* `recognizeWith_append_eq` — **tokens that do not start a sentence settle the outcome.**
* `Recognizer.ignoresMark_wholeSentence` — the rules cannot tell a marker from the end.
* `recognize_reaches_eight_tokens` — **an outcome is settled by eight tokens, by those up to a
  marker, and it does not depend on how a list ends.**
-/

namespace Oracion

open Trace NounPhrase Grammar

/-! ### Where a recognition stops -/

/-- **A recognition stops after a start of a sentence**, whether it succeeds or not. -/
theorem exists_viable_passes (ts : List Token) (tracer : Tracer) :
    ∃ z success r, Recognizer.wholeSentence ⟨ts, 0, [], tracer⟩ = (success, r) ∧
      (Recognizer.mk ts 0 [] tracer).Passes z r ∧ Viable language (Token.categories z) := by
  have h := Recognizer.reads_sentence ⟨ts, 0, [], tracer⟩
  rcases hs : Recognizer.sentence ⟨ts, 0, [], tracer⟩ with ⟨result, r⟩
  rw [hs] at h
  cases h with
  | @lost z r c passes complains unfinished possible misplaced =>
    rw [Recognizer.iSup_sentenceWords] at possible
    exact ⟨z, false, r, Recognizer.wholeSentence_of_none hs, passes,
      possible.of_prefix (List.prefix_append _ _)⟩
  | @found shape z r passes quiet word longest =>
    have hviable : Viable language (Token.categories z) :=
      Recognizer.iSup_sentenceWords ▸ viable_of_mem (Language.mem_iSup.mpr ⟨shape, word⟩)
    -- to look at what follows a sentence does not move past it
    by_cases hend : r.category = .endOfInput
    · exact ⟨z, true, r, Recognizer.wholeSentence_of_end hs hend, passes, hviable⟩
    · exact ⟨z, false, _, Recognizer.wholeSentence_of_rest hs hend,
        ⟨passes.ahead, passes.index⟩, hviable⟩

/-- **Tokens that do not start a sentence settle the outcome**, whatever follows them. -/
theorem recognizeWith_append_eq {u : List Token} (hu : ¬ Viable language (Token.categories u))
    (v w : List Token) (tracer : Tracer) :
    recognizeWith (u ++ v) tracer = recognizeWith (u ++ w) tracer := by
  obtain ⟨z, success, r, hr, hpasses, hviable⟩ := exists_viable_passes (u ++ w) tracer
  refine recognizeWith_eq_of_passes hr hpasses ?_ v
  by_contra hge
  -- the recognition would have passed over all of `u`
  have hahead : u ++ w = z ++ r.ahead := hpasses.ahead
  have hpre : u <+: z :=
    List.prefix_of_prefix_length_le (List.prefix_append u w)
      (hahead ▸ List.prefix_append z r.ahead) (Nat.le_of_not_lt hge)
  exact hu (hviable.of_prefix (hpre.map Token.category))

/-- Nothing after the eighth token matters. -/
theorem recognizeWith_take (ts : List Token) (tracer : Tracer) :
    recognizeWith (ts.take 8) tracer = recognizeWith ts tracer := by
  rcases Nat.lt_or_ge 8 ts.length with hlong | hshort
  · have hlength : (Token.categories (ts.take 8)).length = 8 := by
      rw [Token.categories, List.length_map, List.length_take_of_le (Nat.le_of_lt hlong)]
    have htoo : ¬ Viable language (Token.categories (ts.take 8)) := by
      intro hviable
      have hle := length_le_of_viable hviable
      omega
    calc recognizeWith (ts.take 8) tracer
        = recognizeWith (ts.take 8 ++ []) tracer := by rw [List.append_nil]
      _ = recognizeWith (ts.take 8 ++ ts.drop 8) tracer := recognizeWith_append_eq htoo _ _ tracer
      _ = recognizeWith ts tracer := by rw [List.take_append_drop]
  · rw [List.take_of_length_le hshort]

/-- Nothing after a marker of the end matters. -/
theorem recognizeWith_append_end (u : List Token) {e : Token} (he : e.category = .endOfInput)
    (v : List Token) (tracer : Tracer) :
    recognizeWith (u ++ [e] ++ v) tracer = recognizeWith (u ++ [e]) tracer := by
  have hmarked : ¬ Viable language (Token.categories (u ++ [e])) := by
    intro hviable
    apply endOfInput_notMem_of_viable hviable
    rw [← he]
    exact List.mem_map_of_mem (by simp)
  have h := recognizeWith_append_eq hmarked v [] tracer
  rwa [List.append_nil] at h

/-! ### The end of a list -/

namespace Recognizer

/-- The same recognizer with a marker put after the tokens ahead, at the position where it would
see the end of the list. -/
def marked (r : Recognizer) : Recognizer :=
  r.facing (r.ahead ++ [.endAt (r.index + r.ahead.length)])

@[simp] theorem category_marked (r : Recognizer) : r.marked.category = r.category := by
  obtain ⟨ahead, index, diagnostics, tracer⟩ := r
  cases ahead <;> rfl

@[simp] theorem text_marked (r : Recognizer) : r.marked.text = r.text := by
  obtain ⟨ahead, index, diagnostics, tracer⟩ := r
  cases ahead <;> rfl

@[simp] theorem position_marked (r : Recognizer) : r.marked.position = r.position := by
  obtain ⟨ahead, index, diagnostics, tracer⟩ := r
  cases ahead <;> rfl

theorem report_marked (r : Recognizer) (e : Event) : r.marked.report e = (r.report e).marked := rfl

/-- Neither the end of a list nor a marker is passed. -/
theorem advance_marked (r : Recognizer) : r.marked.advance = r.advance.marked := by
  obtain ⟨ahead, index, diagnostics, tracer⟩ := r
  cases ahead with
  | nil => rfl
  | cons t ts =>
    by_cases hend : t.isEnd
    · simp [advance, marked, facing, hend]
    · have hindex : index + (ts.length + 1) = index + 1 + ts.length := by omega
      simp [advance, marked, facing, hend, hindex]

/-- A matcher cannot tell a marker after the tokens ahead from the end of the list. -/
def IgnoresMark {β : Type} (f : Recognizer → β × Recognizer) : Prop :=
  ∀ r, f r.marked = ((f r).1, (f r).2.marked)

variable {α β : Type}

theorem ignoresMark_expect (c : Category) : IgnoresMark fun r => r.expect c := by
  intro r
  dsimp only
  by_cases hc : r.category = c
  · have hc' : r.marked.category = c := by rw [category_marked, hc]
    rw [expect_of_eq hc, expect_of_eq hc', category_marked, position_marked, report_marked,
      advance_marked]
  · have hc' : r.marked.category ≠ c := by rwa [category_marked]
    rw [expect_of_ne hc, expect_of_ne hc', category_marked, position_marked, text_marked]
    rfl

theorem ignoresMark_token (c : Category) : IgnoresMark (token c) := by
  intro r
  have h : r.marked.expect c = ((r.expect c).1, (r.expect c).2.marked) := ignoresMark_expect c r
  rw [token, token, h]
  rcases r.expect c with ⟨_ | _, r'⟩ <;> rfl

theorem IgnoresMark.production {body : Recognizer → Option α × Recognizer} (h : IgnoresMark body)
    (p : Production) : IgnoresMark (production p body) := by
  intro r
  simp only [Recognizer.production, report_marked, h (r.report (.productionEnter p))]

theorem IgnoresMark.andThen {p : Recognizer → Option α × Recognizer}
    {q : Recognizer → Option β × Recognizer} (hp : IgnoresMark p) (hq : IgnoresMark q) :
    IgnoresMark (andThen p q) := by
  intro r
  rw [Recognizer.andThen, Recognizer.andThen, hp r]
  rcases p r with ⟨_ | a, r'⟩
  · rfl
  · exact hq r'

theorem ignoresMark_nounPhraseFrom (s : State) : IgnoresMark (nounPhraseFrom s) := by
  intro r
  cases h : s.next r.category with
  | accept shape =>
    have h' : s.next r.marked.category = .accept shape := by rw [category_marked, h]
    rw [nounPhraseFrom_of_accept h, nounPhraseFrom_of_accept h']
  | expect c s' =>
    have h' : s.next r.marked.category = .expect c s' := by rw [category_marked, h]
    have hfewer : s'.remaining < s.remaining := State.remaining_lt h
    rw [nounPhraseFrom_of_expect h, nounPhraseFrom_of_expect h']
    exact (ignoresMark_token c).andThen (ignoresMark_nounPhraseFrom s') r
termination_by s.remaining

theorem ignoresMark_sentence : IgnoresMark sentence := by
  have hphrase : IgnoresMark nounPhrase := ignoresMark_nounPhraseFrom .start
  have hpredicate : IgnoresMark predicate :=
    ((ignoresMark_token .verb).andThen (hphrase.production .complement)).production .predicate
  exact ((hphrase.production .subject).andThen hpredicate).production .sentence

theorem ignoresMark_wholeSentence : IgnoresMark wholeSentence := by
  intro r
  have h := ignoresMark_sentence r
  rcases hs : r.sentence with ⟨_ | shape, r'⟩ <;> rw [hs] at h
  · rw [wholeSentence_of_none hs, wholeSentence_of_none h]
  · by_cases hend : r'.category = .endOfInput
    · have hend' : r'.marked.category = .endOfInput := by rw [category_marked, hend]
      rw [wholeSentence_of_end hs hend, wholeSentence_of_end h hend']
    · have hend' : r'.marked.category ≠ .endOfInput := by rwa [category_marked]
      rw [wholeSentence_of_rest hs hend, wholeSentence_of_rest h hend', position_marked,
        text_marked]
      rfl

end Recognizer

/-- **A marker at the end of a list changes nothing**, if its position is the one past the last
token. -/
theorem recognizeWith_snoc_endAt (ts : List Token) (tracer : Tracer) :
    recognizeWith (ts ++ [.endAt ts.length]) tracer = recognizeWith ts tracer := by
  have hmarked : (Recognizer.mk ts 0 [] tracer).marked =
      ⟨ts ++ [.endAt ts.length], 0, [], tracer⟩ := by
    simp [Recognizer.marked, Recognizer.facing]
  have h := Recognizer.ignoresMark_wholeSentence ⟨ts, 0, [], tracer⟩
  rw [hmarked] at h
  rw [recognizeWith, recognizeWith, h]
  rfl

/-- **The recognizer reaches eight tokens, and no marker.**  The outcome for a list of tokens, with
its diagnostics, is that for its first eight tokens; it is the same with a marker of the end after
the list; and what comes after a marker, whatever its text and position, plays no part. -/
theorem recognize_reaches_eight_tokens (ts : List Token) :
    recognize ts = recognize (ts.take 8) ∧
    recognize ts = recognize (ts ++ [.endAt ts.length]) ∧
    ∀ (u : List Token) (e : Token) (v : List Token), e.category = .endOfInput →
      recognize (u ++ [e] ++ v) = recognize (u ++ [e]) := by
  refine ⟨?_, ?_, ?_⟩
  · rw [recognize, recognize, recognizeWith_take]
  · rw [recognize, recognize, recognizeWith_snoc_endAt]
  · intro u e v he
    rw [recognize, recognize, recognizeWith_append_end u he]

/-- An early marker with a text and a position of its own, and tokens after it that would complete
the sentence. -/
theorem recognize_reaches_early_end :
    let u : List Token := [⟨.article, "el", 0⟩, ⟨.noun, "perro", 1⟩]
    let e : Token := ⟨.endOfInput, "fin", 9⟩
    let v : List Token := [⟨.verb, "come", 2⟩, ⟨.article, "un", 3⟩, ⟨.noun, "hueso", 4⟩]
    e.category = .endOfInput ∧ recognize (u ++ [e] ++ v) = recognize (u ++ [e]) ∧
      recognize (u ++ [e] ++ v) = ⟨false, [.unexpected 9 .verb .endOfInput "fin"]⟩ := by
  intro u e v
  have he : e.category = .endOfInput := rfl
  obtain ⟨-, -, hmarker⟩ := recognize_reaches_eight_tokens []
  exact ⟨he, hmarker u e v he, by decide +kernel⟩

end Oracion
