import Oracion.Proofs.Chars.Lower
import Oracion.Proofs.Sentence.Divergence
import Oracion.Proofs.Trace.Reporting

/-!
# The verdict on a text

What the analysis of a text is, said without it: by the words of the text, each put into
lower case on its own, by the sets of the vocabulary, and by the grammar.

## Main definitions

* `Vocabulary.Knows` — a word stands in one of the sets of a vocabulary.
* `lowerWords` — the words of a text, each in lower case.
* `unknownWords` — the diagnostics for those of them that are not known.

## Main results

* `tokenize_eq` — the tokens of a text are its words in lower case, and a marker.
* `verdict_cases` — the three ways in which an analysis can end.
* `analyze_characterization` — **the analysis of a text is given by its words.**
-/

namespace Oracion

open Grammar

/-! ### Words that a vocabulary knows -/

namespace Vocabulary

/-- A word stands in one of the sets of a vocabulary. -/
def Knows (v : Vocabulary) (w : String) : Prop := ∃ c ∈ Category.lexical, w ∈ v.words c

instance (v : Vocabulary) (w : String) : Decidable (v.Knows w) :=
  inferInstanceAs (Decidable (∃ c ∈ Category.lexical, w ∈ v.words c))

/-- A word has the category of a set that holds it, or is in no set. -/
theorem classify_cases (v : Vocabulary) (w : String) :
    (v.classify w ∈ Category.lexical ∧ w ∈ v.words (v.classify w)) ∨
      (v.classify w = .unknown ∧ ¬ v.Knows w) := by
  unfold classify
  cases h : Category.lexical.find? fun c => v.contains c w with
  | none =>
    refine .inr ⟨rfl, ?_⟩
    rintro ⟨c, hc, hw⟩
    exact List.find?_eq_none.mp h c hc (contains_iff.mpr hw)
  | some c =>
    have hw := List.find?_some h
    exact .inl ⟨List.mem_of_find?_eq_some h, contains_iff.mp hw⟩

theorem classify_eq_unknown_iff {v : Vocabulary} {w : String} :
    v.classify w = .unknown ↔ ¬ v.Knows w := by
  rcases v.classify_cases w with ⟨hmem, hw⟩ | ⟨heq, hw⟩
  · exact iff_of_false (Category.mem_lexical_iff.mp hmem).2 fun h => h ⟨_, hmem, hw⟩
  · exact iff_of_true heq hw

theorem classify_ne_endOfInput (v : Vocabulary) (w : String) : v.classify w ≠ .endOfInput := by
  rcases v.classify_cases w with ⟨hmem, -⟩ | ⟨heq, -⟩
  · exact (Category.mem_lexical_iff.mp hmem).1
  · rw [heq]
    decide

theorem tokensOf_eq_map (v : Vocabulary) (ws : List String) :
    v.tokensOf ws = ws.zipIdx.map fun p => ⟨v.classify p.1, p.1, p.2⟩ :=
  List.mapIdx_eq_zipIdx_map

theorem categories_tokensOf (v : Vocabulary) (ws : List String) :
    Token.categories (v.tokensOf ws) = ws.map v.classify := by
  have hfst : ws.zipIdx.map Prod.fst = ws := List.zipIdx_map_fst 0 ws
  nth_rewrite 2 [← hfst]
  rw [Token.categories, tokensOf_eq_map, List.map_map, List.map_map]
  rfl

theorem map_text_tokensOf (v : Vocabulary) (ws : List String) :
    (v.tokensOf ws).map Token.text = ws := by
  rw [tokensOf_eq_map, List.map_map]
  exact List.zipIdx_map_fst 0 ws

@[simp] theorem length_tokensOf (v : Vocabulary) (ws : List String) :
    (v.tokensOf ws).length = ws.length := List.length_mapIdx

theorem endOfInput_notMem_tokensOf (v : Vocabulary) (ws : List String) :
    .endOfInput ∉ Token.categories (v.tokensOf ws) := by
  rw [categories_tokensOf]
  intro hmem
  obtain ⟨w, -, hw⟩ := List.mem_map.mp hmem
  exact classify_ne_endOfInput v w hw

end Vocabulary

/-! ### The tokens of a text -/

/-- The words of a text, each in lower case. -/
def lowerWords (text : String) : List String := (Text.words text).map Text.lower

/-- The tokens of a text are its words in lower case, and a marker after them. -/
theorem tokenize_eq (text : String) :
    tokenize text =
      Vocabulary.spanish.tokensOf (lowerWords text) ++ [Token.endAt (lowerWords text).length] := by
  rw [tokenize, Vocabulary.tokenize, Text.words_lower]
  rfl

theorem length_tokenize (text : String) :
    (tokenize text).length = (lowerWords text).length + 1 := by
  simp [tokenize_eq]

theorem categories_tokenize (text : String) :
    Token.categories (tokenize text) =
      (lowerWords text).map Vocabulary.spanish.classify ++ [.endOfInput] := by
  rw [tokenize_eq, Token.categories_append, Vocabulary.categories_tokensOf]
  rfl

theorem map_text_tokenize (text : String) :
    (tokenize text).map Token.text = lowerWords text ++ [""] := by
  rw [tokenize_eq, List.map_append, Vocabulary.map_text_tokensOf]
  rfl

/-- What the recognizer sees of a text is the categories of its words. -/
theorem categories_beforeEnd_tokenize (text : String) :
    Token.categories (Token.beforeEnd (tokenize text)) =
      (lowerWords text).map Vocabulary.spanish.classify := by
  have hend := Vocabulary.endOfInput_notMem_tokensOf Vocabulary.spanish (lowerWords text)
  rw [tokenize_eq, Token.beforeEnd_append hend rfl, Vocabulary.categories_tokensOf]

/-- A diagnostic for each word that the vocabulary does not know, with the number of the
words before it. -/
def unknownWords (ws : List String) : List Diagnostic :=
  (ws.zipIdx.filter fun p => ¬ Vocabulary.spanish.Knows p.1).map fun p => .unknownWord p.1 p.2

/-- The lexical phase finds the words that the vocabulary does not know. -/
theorem lexicalDiagnostics_tokenize (text : String) :
    lexicalDiagnostics (tokenize text) = unknownWords (lowerWords text) := by
  have hunknown : ∀ p : String × Nat,
      Token.isUnknown ⟨Vocabulary.spanish.classify p.1, p.1, p.2⟩ =
        decide (¬ Vocabulary.spanish.Knows p.1) := by
    intro p
    exact decide_eq_decide.mpr Vocabulary.classify_eq_unknown_iff
  -- the marker is not an unknown word
  have hend : Token.unknowns [Token.endAt (lowerWords text).length] = [] := rfl
  rw [lexicalDiagnostics, Token.unknowns, tokenize_eq, List.filter_append]
  rw [Token.unknowns] at hend
  rw [hend, List.append_nil, Vocabulary.tokensOf_eq_map, List.filter_map, List.map_map,
    unknownWords]
  congr 1
  exact List.filter_congr fun p _ => hunknown p

theorem unknownWords_eq_nil_iff {ws : List String} :
    unknownWords ws = [] ↔ ∀ w ∈ ws, Vocabulary.spanish.Knows w := by
  have hfst : ws.zipIdx.map Prod.fst = ws := List.zipIdx_map_fst 0 ws
  nth_rewrite 2 [← hfst]
  rw [List.forall_mem_map, unknownWords, List.map_eq_nil_iff, List.filter_eq_nil_iff]
  simp only [decide_eq_true_eq, not_not]

/-! ### The verdict -/

theorem Analysis.of_verdict_valid {a : Analysis} (h : a.verdict = .valid) :
    a.phase = none ∧ a.isValid = true := by
  rw [Analysis.phase, Analysis.isValid, h]
  exact ⟨rfl, rfl⟩

theorem Analysis.of_verdict_invalid {a : Analysis} {p : Phase} {ds : List Diagnostic}
    (h : a.verdict = .invalid p ds) :
    a.phase = some p ∧ a.isValid = false ∧ a.diagnostics = ds := by
  rw [Analysis.phase, Analysis.isValid, Analysis.diagnostics, h]
  exact ⟨rfl, rfl, rfl⟩

/-- **The three ways in which an analysis can end.** -/
theorem verdict_cases (text : String) :
    ((∃ w ∈ lowerWords text, ¬ Vocabulary.spanish.Knows w) ∧
        (analyze text).verdict = .invalid .lexical (unknownWords (lowerWords text))) ∨
      ((∀ w ∈ lowerWords text, Vocabulary.spanish.Knows w) ∧
        ((IsSentence ((lowerWords text).map Vocabulary.spanish.classify) ∧
            (analyze text).verdict = .valid) ∨
          (¬ IsSentence ((lowerWords text).map Vocabulary.spanish.classify) ∧
            ∃ d, d.phase = .syntactic ∧ (analyze text).verdict = .invalid .syntactic [d]))) := by
  by_cases hknown : ∀ w ∈ lowerWords text, Vocabulary.spanish.Knows w
  · -- no word holds up the analysis, so the recognizer is asked
    have hgate : lexicalDiagnostics (tokenize text) = [] := by
      rw [lexicalDiagnostics_tokenize, unknownWords_eq_nil_iff]
      exact hknown
    refine .inr ⟨hknown, ?_⟩
    rw [analyze_of_known hgate, ← categories_beforeEnd_tokenize]
    rcases recognizeWith_cases (tokenize text) .off with ⟨hsentence, ho⟩ | ⟨k, d, hk, hd, ho⟩
    · rw [recognize, ho]
      exact .inl ⟨hsentence, rfl⟩
    · rw [recognize, ho]
      refine .inr ⟨fun hsentence => not_divergesAt_of_isSentence hsentence hk, d, ?_, rfl⟩
      cases hd <;> rfl
  · have hgate : lexicalDiagnostics (tokenize text) ≠ [] := by
      rw [lexicalDiagnostics_tokenize, Ne, unknownWords_eq_nil_iff]
      exact hknown
    refine .inl ⟨by simpa using hknown, ?_⟩
    rw [analyze_of_unknown hgate, lexicalDiagnostics_tokenize]

/-- **The analysis of a text is given by its words.**  Let each word of the text be put
into lower case on its own.  The tokens are these words with their categories and
numbers, and a marker.  The text fails in the lexical phase if some word is not known,
with a diagnostic for each such word in order; it is valid if all are known and their
categories are a sentence; otherwise it fails in the syntactic phase, with one diagnostic
that is not about an unknown word. -/
theorem analyze_characterization (text : String) :
    (analyze text).source = text ∧
      (analyze text).tokens =
        (lowerWords text).mapIdx (fun i w => ⟨Vocabulary.spanish.classify w, w, i⟩) ++
          [⟨.endOfInput, "", (lowerWords text).length⟩] ∧
      ((analyze text).phase = some .lexical ↔
        ∃ w ∈ lowerWords text, ¬ Vocabulary.spanish.Knows w) ∧
      ((analyze text).phase = some .lexical →
        (analyze text).diagnostics = unknownWords (lowerWords text)) ∧
      ((analyze text).isValid = true ↔
        (∀ w ∈ lowerWords text, Vocabulary.spanish.Knows w) ∧
          IsSentence ((lowerWords text).map Vocabulary.spanish.classify)) ∧
      ((analyze text).phase = some .syntactic ↔
        (∀ w ∈ lowerWords text, Vocabulary.spanish.Knows w) ∧
          ¬ IsSentence ((lowerWords text).map Vocabulary.spanish.classify)) ∧
      ((analyze text).phase = some .syntactic →
        ∃ d, (analyze text).diagnostics = [d] ∧ ∀ w i, d ≠ .unknownWord w i) := by
  obtain ⟨hsource, htokens⟩ := source_tokens_analyze text
  refine ⟨hsource, htokens.trans (tokenize_eq text), ?_⟩
  rcases verdict_cases text with ⟨⟨w, hw, hunknown⟩, hv⟩ | ⟨hknown, ⟨hs, hv⟩ | ⟨hs, d, hd, hv⟩⟩
  · -- some word is not known
    obtain ⟨hphase, hvalid, hdiagnostics⟩ := Analysis.of_verdict_invalid hv
    have hnot : ¬ ∀ w ∈ lowerWords text, Vocabulary.spanish.Knows w := fun h => hunknown (h w hw)
    rw [hphase, hvalid, hdiagnostics]
    refine ⟨iff_of_true rfl ⟨w, hw, hunknown⟩, fun _ => rfl, ?_, ?_, ?_⟩
    · exact iff_of_false Bool.false_ne_true fun h => hnot h.1
    · exact iff_of_false (by decide) fun h => hnot h.1
    · intro h
      exact absurd h (by decide)
  · -- all are known, and they are a sentence
    obtain ⟨hphase, hvalid⟩ := Analysis.of_verdict_valid hv
    have hall : ¬ ∃ w ∈ lowerWords text, ¬ Vocabulary.spanish.Knows w :=
      fun ⟨w, hw, hunknown⟩ => hunknown (hknown w hw)
    rw [hphase, hvalid]
    refine ⟨iff_of_false (by decide) hall, ?_, iff_of_true rfl ⟨hknown, hs⟩, ?_, ?_⟩
    · intro h
      exact absurd h (by decide)
    · exact iff_of_false (by decide) fun h => h.2 hs
    · intro h
      exact absurd h (by decide)
  · -- all are known, but they are no sentence
    obtain ⟨hphase, hvalid, hdiagnostics⟩ := Analysis.of_verdict_invalid hv
    have hall : ¬ ∃ w ∈ lowerWords text, ¬ Vocabulary.spanish.Knows w :=
      fun ⟨w, hw, hunknown⟩ => hunknown (hknown w hw)
    rw [hphase, hvalid, hdiagnostics]
    refine ⟨iff_of_false (by decide) hall, ?_, ?_, iff_of_true rfl ⟨hknown, hs⟩, ?_⟩
    · intro h
      exact absurd h (by decide)
    · exact iff_of_false Bool.false_ne_true fun h => hs h.2
    · intro _
      refine ⟨d, rfl, ?_⟩
      rintro w i rfl
      cases hd

end Oracion
