import Oracion.Proofs.Sentence.Reading

/-!
# Where the input leaves the grammar

A list of tokens is read as if a marker of the end stood after it.  It is accepted when
the tokens before the first marker are a sentence.  Otherwise there is exactly one place
where it leaves the grammar: up to there its categories start a sentence, and with the
category found there they do so no longer.  The recognizer accepts and rejects
accordingly, and its one diagnostic is about the token at that place.

## Main definitions

* `Token.categoryAt`, `Token.textAt`, `Token.positionAt` — what is found at a place.
* `Token.beforeEnd` — the tokens before the first marker of the end.
* `DivergesAt ts k` — the tokens `ts` leave the grammar at place `k`.
* `Describes ts k d` — the diagnostic `d` says how.

## Main results

* `DivergesAt.unique` — there is at most one such place.
* `wholeSentence_cases`, `recognizeWith_cases` — the recognizer accepts a sentence or stops at
  the place and describes it.
* `recognize_success_iff_isSentence` — **the recognizer accepts the sentences.**
* `recognize_reports_divergence` — **its diagnostic marks the first divergence.**
-/

namespace Oracion

open Grammar NounPhrase

namespace Token

/-- The category found at place `k`; past the last token it is the end of the input. -/
def categoryAt (ts : List Token) (k : Nat) : Category :=
  (ts[k]?.map Token.category).getD .endOfInput

/-- The text found at place `k`; past the last token it is empty. -/
def textAt (ts : List Token) (k : Nat) : String := (ts[k]?.map Token.text).getD ""

/-- The position that the token at place `k` has; past the last token it is `k`. -/
def positionAt (ts : List Token) (k : Nat) : Nat := (ts[k]?.map Token.position).getD k

/-- The tokens before the first marker of the end. -/
def beforeEnd (ts : List Token) : List Token := ts.takeWhile fun t => !t.isEnd

/-- The categories of tokens, with a marker of the end after them. -/
def withEnd (ts : List Token) : List Category := categories ts ++ [.endOfInput]

theorem categories_take {ts : List Token} {k : Nat} (hk : k ≤ ts.length) :
    categories (ts.take k) = (withEnd ts).take k := by
  have hlen : k ≤ (categories ts).length := by rw [categories, List.length_map]; exact hk
  rw [withEnd, List.take_append_of_le_length hlen]
  simp only [categories, List.map_take]

/-- What is found up to and at a place is read off the categories with a marker after
them. -/
theorem take_withEnd {ts : List Token} {k : Nat} (hk : k ≤ ts.length) :
    (withEnd ts).take (k + 1) = categories (ts.take k) ++ [categoryAt ts k] := by
  rcases Nat.lt_or_eq_of_le hk with hlt | rfl
  · rw [← categories_take (Nat.succ_le_of_lt hlt), List.take_add_one, categories_append]
    simp [categories, categoryAt, hlt]
  · simp [withEnd, categories, categoryAt]

/-- With a marker after them, tokens start with those before the first marker, and a
marker. -/
theorem withEnd_beforeEnd_prefix (ts : List Token) :
    withEnd (beforeEnd ts) <+: withEnd ts := by
  induction ts with
  | nil => exact List.prefix_rfl
  | cons t ts ih =>
    by_cases ht : t.category = .endOfInput
    · simp [beforeEnd, withEnd, categories, isEnd, ht, List.cons_prefix_cons]
    · have hstep : beforeEnd (t :: ts) = t :: beforeEnd ts := by
        simp [beforeEnd, isEnd, ht]
      rw [hstep]
      exact List.cons_prefix_cons.mpr ⟨rfl, ih⟩

/-- The tokens before the first marker are found by their categories: none of them is a
marker, and one follows. -/
theorem beforeEnd_append {u v : List Token} (hu : .endOfInput ∉ categories u)
    (hv : categoryAt v 0 = .endOfInput) : beforeEnd (u ++ v) = u := by
  have hpos : ∀ t ∈ u, (!t.isEnd) = true := by
    intro t ht
    have hne : t.category ≠ .endOfInput := by
      rintro hend
      exact hu (hend ▸ List.mem_map_of_mem ht)
    simp [isEnd, hne]
  rw [beforeEnd, List.takeWhile_append_of_pos hpos]
  cases v with
  | nil => simp
  | cons t v =>
    have ht : t.category = .endOfInput := hv
    simp [isEnd, ht]

end Token

/-! ### The place of divergence -/

/-- No sentence has a marker of the end in it. -/
theorem endOfInput_notMem_of_isSentence {cs : List Category} (h : IsSentence cs) :
    .endOfInput ∉ cs := by
  obtain ⟨_, _, ⟨s, rfl⟩, ⟨t, rfl⟩, rfl⟩ := h
  cases s <;> cases t <;> decide

theorem endOfInput_notMem_of_viable {cs : List Category} (h : Viable language cs) :
    .endOfInput ∉ cs := by
  obtain ⟨x, hx, hpre⟩ := h
  intro hmem
  exact endOfInput_notMem_of_isSentence hx (hpre.subset hmem)

/-- No start of a sentence has more than seven words. -/
theorem length_le_of_viable {cs : List Category} (h : Viable language cs) : cs.length ≤ 7 := by
  obtain ⟨_, ⟨_, _, ⟨s, rfl⟩, ⟨t, rfl⟩, rfl⟩, hpre⟩ := h
  refine hpre.length_le.trans ?_
  cases s <;> cases t <;> decide

/-- The marker of the end does not continue a sentence. -/
theorem separated_language : Separated language {[.endOfInput]} := by
  intro w c _ hc hend
  rw [viable_singleton, List.cons_prefix_cons] at hend
  obtain ⟨rfl, -⟩ := hend
  exact endOfInput_notMem_of_viable hc (by simp)

/-- The tokens `ts` leave the grammar at place `k`: the categories before it start a
sentence, and with the one found there they start no sentence with a marker after it. -/
structure DivergesAt (ts : List Token) (k : Nat) : Prop where
  /-- The place is that of a token, or the one after the last. -/
  le_length : k ≤ ts.length
  /-- What comes before starts a sentence. -/
  viable : Viable language (Token.categories (ts.take k))
  /-- With what is found there it does not. -/
  stuck : ¬ Viable (language * {[.endOfInput]})
    (Token.categories (ts.take k) ++ [Token.categoryAt ts k])

/-- Up to the place of divergence, every start of the input could be continued to a
sentence, so there is only one such place. -/
theorem DivergesAt.le {ts : List Token} {j k : Nat} (hj : DivergesAt ts j)
    (hk : DivergesAt ts k) : k ≤ j := by
  by_contra hlt
  -- what is found at `j` would lie before `k`, where every start is viable
  have hpre : (Token.withEnd ts).take (j + 1) <+: Token.categories (ts.take k) := by
    rw [Token.categories_take hk.le_length]
    exact List.take_prefix_take_left (by omega)
  have hviable : Viable (language * {[.endOfInput]}) ((Token.withEnd ts).take (j + 1)) :=
    (hk.viable.of_prefix hpre).mul_right ⟨_, rfl⟩
  rw [Token.take_withEnd hj.le_length] at hviable
  exact hj.stuck hviable

theorem DivergesAt.unique {ts : List Token} {j k : Nat} (hj : DivergesAt ts j)
    (hk : DivergesAt ts k) : j = k := Nat.le_antisymm (hk.le hj) (hj.le hk)

/-- Tokens that are a sentence up to the first marker of the end do not leave the
grammar. -/
theorem not_divergesAt_of_isSentence {ts : List Token} {k : Nat}
    (h : IsSentence (Token.categories (Token.beforeEnd ts))) : ¬ DivergesAt ts k := by
  intro hk
  have hpre := Token.withEnd_beforeEnd_prefix ts
  have hsentence : Viable (language * {[.endOfInput]}) (Token.withEnd (Token.beforeEnd ts)) :=
    viable_of_mem (Language.append_mem_mul (mem_language.mpr h) rfl)
  rcases Nat.lt_or_ge k (Token.withEnd (Token.beforeEnd ts)).length with hlt | hge
  · have hshort : (Token.withEnd ts).take (k + 1) <+: Token.withEnd (Token.beforeEnd ts) :=
      List.prefix_of_prefix_length_le (List.take_prefix _ _) hpre (by rw [List.length_take]; omega)
    rw [Token.take_withEnd hk.le_length] at hshort
    exact hk.stuck (hsentence.of_prefix hshort)
  · -- the marker is found before `k`, where no sentence has one
    have hlong : Token.withEnd (Token.beforeEnd ts) <+: Token.categories (ts.take k) := by
      rw [Token.categories_take hk.le_length, List.prefix_take_iff]
      exact ⟨hpre, hge⟩
    exact endOfInput_notMem_of_viable hk.viable (hlong.subset (by simp [Token.withEnd]))

/-! ### What the recognizer says -/

/-- What a diagnostic says of tokens that leave the grammar at place `k`. -/
inductive Describes (ts : List Token) (k : Nat) : Diagnostic → Prop
  /-- A sentence is complete before the token found there. -/
  | trailing (complete : IsSentence (Token.categories (ts.take k))) :
      Describes ts k (.trailing (Token.positionAt ts k) (Token.textAt ts k))
  /-- No sentence is complete, and a token of another category could have gone on. -/
  | unexpected {c : Category} (incomplete : ¬ IsSentence (Token.categories (ts.take k)))
      (other : c ≠ Token.categoryAt ts k)
      (possible : Viable language (Token.categories (ts.take k) ++ [c])) :
      Describes ts k
        (.unexpected (Token.positionAt ts k) c (Token.categoryAt ts k) (Token.textAt ts k))

section Places

variable {ts u : List Token} {ds : List Diagnostic} {tracer : Tracer} {r : Recognizer}

/-- A recognizer that has passed over the first tokens of a list sees what is found after
them. -/
theorem Recognizer.Passes.of_start (h : (Recognizer.mk ts 0 ds tracer).Passes u r) :
    ts.take u.length = u ∧ r.category = Token.categoryAt ts u.length ∧
      r.text = Token.textAt ts u.length ∧ r.position = Token.positionAt ts u.length := by
  have hts : ts = u ++ r.ahead := h.ahead
  have hindex : r.index = u.length := by rw [h.index, Nat.zero_add]
  rw [Recognizer.category, Recognizer.text, Recognizer.position, Token.categoryAt, Token.textAt,
    Token.positionAt, hindex, hts]
  cases r.ahead <;> simp

/-- The place where a recognizer stands is the place of divergence, if what it has passed
over starts a sentence and what it sees does not go on. -/
theorem DivergesAt.of_passes (h : (Recognizer.mk ts 0 ds tracer).Passes u r)
    (hviable : Viable language (Token.categories u))
    (hstuck : ¬ Viable (language * {[.endOfInput]}) (Token.categories u ++ [r.category])) :
    DivergesAt ts u.length := by
  obtain ⟨htake, hcategory, -, -⟩ := h.of_start
  have hts : ts = u ++ r.ahead := h.ahead
  refine ⟨?_, ?_, ?_⟩
  · rw [hts, List.length_append]
    exact Nat.le_add_right _ _
  · rwa [htake]
  · rwa [htake, ← hcategory]

/-- A recognizer that is lost stands at the place of divergence, and its complaint says
so. -/
theorem describes_complaint {c : Category} (h : (Recognizer.mk ts 0 ds tracer).Passes u r)
    (unfinished : Token.categories u ∉ language)
    (possible : Viable language (Token.categories u ++ [c]))
    (misplaced : ¬ Viable language (Token.categories u ++ [r.category])) :
    DivergesAt ts u.length ∧ Describes ts u.length (r.complaint c) := by
  obtain ⟨htake, hcategory, htext, hposition⟩ := h.of_start
  have hviable := possible.of_prefix (List.prefix_append _ _)
  have hstuck := separated_language.not_viable_left hviable unfinished misplaced
  have hother : c ≠ r.category := by
    rintro rfl
    exact misplaced possible
  refine ⟨.of_passes h hviable hstuck, ?_⟩
  rw [Recognizer.complaint, hposition, htext, hcategory]
  rw [← htake] at unfinished possible
  exact .unexpected unfinished (hcategory ▸ hother) possible

/-- A recognizer that has passed over a sentence, and over all it can, stands at the place
of divergence unless it is at the end. -/
theorem describes_trailing (h : (Recognizer.mk ts 0 ds tracer).Passes u r)
    (word : Token.categories u ∈ language)
    (longest : ¬ Viable language (Token.categories u ++ [r.category]))
    (hend : r.category ≠ .endOfInput) :
    DivergesAt ts u.length ∧ Describes ts u.length (.trailing r.position r.text) := by
  obtain ⟨htake, -, htext, hposition⟩ := h.of_start
  have hstuck := separated_language.not_viable_append word longest
    (v := []) (by simpa [List.cons_prefix_cons] using hend)
  refine ⟨.of_passes h (viable_of_mem word) hstuck, ?_⟩
  rw [hposition, htext]
  exact .trailing (htake.symm ▸ word)

/-- A recognizer at the end has passed over all tokens before the first marker, if it has
passed over a sentence. -/
theorem beforeEnd_of_passes (h : (Recognizer.mk ts 0 ds tracer).Passes u r)
    (word : Token.categories u ∈ language) (hend : r.category = .endOfInput) :
    Token.beforeEnd ts = u := by
  have hts : ts = u ++ r.ahead := h.ahead
  rw [hts]
  refine Token.beforeEnd_append (endOfInput_notMem_of_isSentence word) ?_
  rw [← hend, Recognizer.category, Token.categoryAt]
  cases r.ahead <;> simp

theorem recognizeWith_fst {success : Bool}
    (h : Recognizer.wholeSentence ⟨ts, 0, [], tracer⟩ = (success, r)) :
    (recognizeWith ts tracer).1 = ⟨success, r.diagnostics⟩ := by
  rw [recognizeWith, h]

end Places

/-- **A recognition ends after a sentence or at the place of divergence.**  At that place its
one diagnostic describes what is found there. -/
theorem wholeSentence_cases (ts : List Token) (tracer : Tracer) :
    (∃ r, Recognizer.wholeSentence ⟨ts, 0, [], tracer⟩ = (true, r) ∧ r.diagnostics = [] ∧
        IsSentence (Token.categories (Token.beforeEnd ts))) ∨
      ∃ u d r, Recognizer.wholeSentence ⟨ts, 0, [], tracer⟩ = (false, r) ∧ r.diagnostics = [d] ∧
        (Recognizer.mk ts 0 [] tracer).Passes u r ∧ DivergesAt ts u.length ∧
          Describes ts u.length d := by
  have h := Recognizer.reads_sentence ⟨ts, 0, [], tracer⟩
  rcases hs : Recognizer.sentence ⟨ts, 0, [], tracer⟩ with ⟨result, r⟩
  rw [hs] at h
  cases h with
  | @lost u r c passes complains unfinished possible misplaced =>
    -- the complaint is the only diagnostic
    rw [Recognizer.iSup_sentenceWords] at unfinished possible misplaced
    have hplace := describes_complaint passes unfinished possible misplaced
    exact .inr ⟨u, r.complaint c, r, Recognizer.wholeSentence_of_none hs, complains, passes, hplace⟩
  | @found shape u r passes quiet word longest =>
    have hmem : Token.categories u ∈ language :=
      Recognizer.iSup_sentenceWords ▸ Language.mem_iSup.mpr ⟨shape, word⟩
    rw [Recognizer.iSup_sentenceWords] at longest
    -- a sentence has been read, and what follows decides
    by_cases hend : r.category = .endOfInput
    · refine .inl ⟨r, Recognizer.wholeSentence_of_end hs hend, quiet, ?_⟩
      rwa [beforeEnd_of_passes passes hmem hend]
    · have hplace := describes_trailing passes hmem longest hend
      refine .inr ⟨u, .trailing r.position r.text, _, Recognizer.wholeSentence_of_rest hs hend,
        ?_, ⟨passes.ahead, passes.index⟩, hplace⟩
      rw [quiet]
      rfl

/-- **The recognizer accepts a sentence or describes where there is none**, whoever is told
about it. -/
theorem recognizeWith_cases (ts : List Token) (tracer : Tracer) :
    (IsSentence (Token.categories (Token.beforeEnd ts)) ∧
        (recognizeWith ts tracer).1 = ⟨true, []⟩) ∨
      ∃ k d, DivergesAt ts k ∧ Describes ts k d ∧ (recognizeWith ts tracer).1 = ⟨false, [d]⟩ := by
  rcases wholeSentence_cases ts tracer with ⟨r, hr, hquiet, hs⟩ | ⟨u, d, r, hr, hd, -, hk, hdesc⟩
  · refine .inl ⟨hs, ?_⟩
    rw [recognizeWith_fst hr, hquiet]
  · refine .inr ⟨u.length, d, hk, hdesc, ?_⟩
    rw [recognizeWith_fst hr, hd]

/-- Where tokens leave the grammar, the recognizer rejects them and says so. -/
theorem recognize_of_divergesAt {ts : List Token} {k : Nat} (hk : DivergesAt ts k) :
    ∃ d, Describes ts k d ∧ recognize ts = ⟨false, [d]⟩ := by
  rcases recognizeWith_cases ts .off with ⟨hs, -⟩ | ⟨j, d, hj, hd, ho⟩
  · exact absurd hk (not_divergesAt_of_isSentence hs)
  · obtain rfl := hj.unique hk
    exact ⟨d, hd, ho⟩

/-! ### Acceptance and rejection -/

/-- **The recognizer accepts the sentences**: it succeeds exactly when the categories of
the tokens before the first marker of the end are a noun phrase, a verb and a noun
phrase. -/
theorem recognize_success_iff_isSentence (ts : List Token) :
    (recognize ts).success = true ↔ IsSentence (Token.categories (Token.beforeEnd ts)) := by
  rcases recognizeWith_cases ts .off with ⟨hsentence, heq⟩ | ⟨k, d, hk, -, heq⟩
  · rw [recognize, heq]
    exact iff_of_true rfl hsentence
  · rw [recognize, heq]
    exact iff_of_false Bool.false_ne_true fun h => not_divergesAt_of_isSentence h hk

/-- **The diagnostic marks the first divergence**: there is none if the recognizer
succeeds; if it fails there is one, it describes the token at a place where the input
leaves the grammar, and there is no other such place. -/
theorem recognize_reports_divergence (ts : List Token) :
    ((recognize ts).success = true ∧ (recognize ts).diagnostics = []) ∨
      ((recognize ts).success = false ∧
        ∃ k, DivergesAt ts k ∧ (∀ j, DivergesAt ts j → j = k) ∧
          ∃ d, (recognize ts).diagnostics = [d] ∧ Describes ts k d) := by
  rcases recognizeWith_cases ts .off with ⟨-, heq⟩ | ⟨k, d, hk, hd, heq⟩
  · rw [recognize, heq]
    exact .inl ⟨rfl, rfl⟩
  · rw [recognize, heq]
    exact .inr ⟨rfl, k, hk, fun j hj => hj.unique hk, d, rfl, hd⟩

end Oracion
