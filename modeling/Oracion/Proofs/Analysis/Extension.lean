import Oracion.Proofs.Analysis.Verdict
import Oracion.Proofs.Sentence.Locality
import Oracion.Proofs.Sentence.Split

/-!
# Texts with something after them

What becomes of the verdict on a text when more words follow.  The language of the grammar is
not free of prefixes: a sentence whose complement has no adjective goes on with one, and is a
sentence again.  Nothing else goes on from a sentence.  From a text that is no sentence, a
sentence can be reached if and only if the fault was that the text ended too early; any other
fault stays as it is, word for word, whatever follows.

Both laws are read off the place of divergence, which lies at the end of the text or before it.

## Main definitions

* `complementShape?` — the shape of the noun phrase after the first verb.
* `Diagnostic.Unfinished` — a diagnostic says that the input has ended too early.
* `specimenText` — a text with given categories.

## Main results

* `viable_language_snoc_iff` — how a sentence can go on.
* `analyze_after_sentence` — **what follows a sentence is an adjective or too much.**
* `analyze_after_fault` — **an unfinished text has a completion, any other fault is final.**
-/

namespace Oracion

open Grammar NounPhrase
open Vocabulary (spanish)

/-! ### The words of a text and its places -/

theorem lowerWords_append (s t : String) :
    lowerWords (s ++ " " ++ t) = lowerWords s ++ lowerWords t := by
  have hchars : (s ++ " " ++ t).toList = s.toList ++ ' ' :: t.toList := by simp
  have hblank : Chars.isBlank ' ' = true := by decide
  simp only [lowerWords, Text.words, hchars, Chars.words_append_blank hblank, List.map_append]

theorem categories_take_tokenize {text : String} {k : Nat} (hk : k ≤ (lowerWords text).length) :
    Token.categories ((tokenize text).take k) =
      ((lowerWords text).take k).map spanish.classify := by
  have hlength : k ≤ ((lowerWords text).map spanish.classify).length := by simpa using hk
  rw [Token.categories, List.map_take, ← Token.categories, categories_tokenize,
    List.take_append_of_le_length hlength, List.map_take]

theorem getElem?_tokenize {text w : String} {k : Nat} (h : (lowerWords text)[k]? = some w) :
    (tokenize text)[k]? = some ⟨spanish.classify w, w, k⟩ := by
  obtain ⟨hlt, -⟩ := List.getElem?_eq_some_iff.mp h
  have hlength : k < (spanish.tokensOf (lowerWords text)).length := by simpa using hlt
  rw [tokenize_eq, List.getElem?_append_left hlength, Vocabulary.tokensOf, List.getElem?_mapIdx, h]
  rfl

theorem categoryAt_tokenize_length (text : String) :
    Token.categoryAt (tokenize text) (lowerWords text).length = .endOfInput := by
  have hlength := Vocabulary.length_tokensOf spanish (lowerWords text)
  rw [Token.categoryAt, tokenize_eq, List.getElem?_append_right (by omega), hlength, Nat.sub_self]
  rfl

theorem at_tokenize {text w : String} {k : Nat} (h : (lowerWords text)[k]? = some w) :
    Token.categoryAt (tokenize text) k = spanish.classify w ∧
      Token.textAt (tokenize text) k = w ∧ Token.positionAt (tokenize text) k = k := by
  rw [Token.categoryAt, Token.textAt, Token.positionAt, getElem?_tokenize h]
  exact ⟨rfl, rfl, rfl⟩

/-- The tokens of a text without the marker are its words in lower case. -/
theorem proper_tokenize (text : String) :
    Token.proper (tokenize text) = spanish.tokensOf (lowerWords text) := by
  have hwords := Vocabulary.endOfInput_notMem_tokensOf spanish (lowerWords text)
  have hend : Token.proper [Token.endAt (lowerWords text).length] = [] := rfl
  rw [tokenize_eq, Token.proper, List.filter_append, ← Token.proper, ← Token.proper, hend,
    List.append_nil, Token.proper_eq_self hwords]

theorem words_analyze (text : String) :
    (analyze text).words = spanish.tokensOf (lowerWords text) := by
  rw [Analysis.words, (source_tokens_analyze text).2, proper_tokenize]

/-! ### Texts that are sentences -/

theorem mem_lexical_of_isSentence {cs : List Category} (h : IsSentence cs) :
    ∀ c ∈ cs, c ∈ Category.lexical := by
  obtain ⟨_, _, ⟨s, rfl⟩, ⟨t, rfl⟩, rfl⟩ := h
  cases s <;> cases t <;> decide

theorem knows_of_isSentence {ws : List String} (h : IsSentence (ws.map spanish.classify)) :
    ∀ w ∈ ws, spanish.Knows w := by
  intro w hw
  have hlexical := mem_lexical_of_isSentence h _ (List.mem_map_of_mem hw)
  by_contra hunknown
  exact (Category.mem_lexical_iff.mp hlexical).2 (Vocabulary.classify_eq_unknown_iff.mpr hunknown)

/-- A text is valid if the categories of its words are a sentence; its words are known then. -/
theorem isValid_iff_isSentence {text : String} :
    (analyze text).isValid = true ↔ IsSentence ((lowerWords text).map spanish.classify) := by
  rcases verdict_cases text with ⟨⟨w, hw, hunknown⟩, hv⟩ | ⟨-, ⟨hs, hv⟩ | ⟨hs, d, -, hv⟩⟩
  · refine iff_of_false ?_ fun hs => hunknown (knows_of_isSentence hs w hw)
    simp [(Analysis.of_verdict_invalid hv).2.1]
  · exact iff_of_true (Analysis.of_verdict_valid hv).2 hs
  · refine iff_of_false ?_ hs
    simp [(Analysis.of_verdict_invalid hv).2.1]

theorem analyze_of_knows {text : String} (h : ∀ w ∈ lowerWords text, spanish.Knows w) :
    (analyze text).verdict = (recognize (tokenize text)).verdict := by
  have hgate : lexicalDiagnostics (tokenize text) = [] := by
    rw [lexicalDiagnostics_tokenize, unknownWords_eq_nil_iff]
    exact h
  rw [analyze_of_known hgate]

/-! ### Texts that leave the grammar -/

/-- What has no marker of the end in it starts a sentence if it starts a sentence with a marker
after it. -/
theorem viable_of_viable_mul {cs : List Category} (hcs : .endOfInput ∉ cs)
    (h : Viable (language * {[.endOfInput]}) cs) : Viable language cs := by
  obtain ⟨_, hxy, hpre⟩ := h
  obtain ⟨x, hx, y, hy, rfl⟩ := Language.mem_mul.mp hxy
  rw [mem_singleton] at hy
  subst hy
  rcases List.prefix_concat_iff.mp hpre with rfl | hpre
  · exact absurd (by simp) hcs
  · exact ⟨x, hx, hpre⟩

/-- A text leaves the grammar at the first word with which its words start no sentence. -/
theorem divergesAt_tokenize {text w : String} {u v : List String}
    (hwords : lowerWords text = u ++ w :: v) (hu : Viable language (u.map spanish.classify))
    (hw : ¬ Viable language (u.map spanish.classify ++ [spanish.classify w])) :
    DivergesAt (tokenize text) u.length := by
  have hlength : u.length ≤ (lowerWords text).length := by simp [hwords]
  have htake : Token.categories ((tokenize text).take u.length) = u.map spanish.classify := by
    rw [categories_take_tokenize hlength, hwords, List.take_left]
  have hat : Token.categoryAt (tokenize text) u.length = spanish.classify w :=
    (at_tokenize (by simp [hwords])).1
  refine ⟨by rw [length_tokenize]; omega, htake ▸ hu, ?_⟩
  rw [htake, hat]
  refine fun hviable => hw (viable_of_viable_mul ?_ hviable)
  intro hmem
  rcases List.mem_append.mp hmem with hmem | hmem
  · exact endOfInput_notMem_of_viable hu hmem
  · exact Vocabulary.classify_ne_endOfInput spanish w (List.mem_singleton.mp hmem).symm

/-! ### How a sentence goes on -/

/-- A sentence goes on only with an adjective, and only if its complement has none. -/
theorem viable_language_snoc_iff {s t : Shape} {c : Category} :
    Viable language (s.categories ++ .verb :: t.categories ++ [c]) ↔
      t = .bare ∧ c = .adjective := by
  constructor
  · rintro ⟨_, ⟨_, _, ⟨s', rfl⟩, ⟨t', rfl⟩, rfl⟩, hpre⟩
    -- the subjects end where the verb comes, so the complements are compared
    have hsep : Separated (⨆ shape, phrase shape) {.verb :: t'.categories} :=
      separated_phrase (by simp [List.cons_prefix_cons])
    have hs : Viable (⨆ shape, phrase shape) s.categories :=
      viable_of_mem (Language.mem_iSup.mpr ⟨s, rfl⟩)
    rw [List.append_assoc, List.cons_append] at hpre
    obtain ⟨-, hrest⟩ := hsep.eq_and_prefix hs
      (Recognizer.not_viable_phrase_snoc s (by decide)) (Language.mem_iSup.mpr ⟨s', rfl⟩) rfl hpre
    rw [List.cons_prefix_cons] at hrest
    have hviable : Viable (⨆ shape, phrase shape) (t.categories ++ [c]) :=
      viable_phrase.mpr ⟨t', hrest.2⟩
    refine ⟨?_, ?_⟩
    · cases t <;> cases t' <;> simp [Shape.categories, List.cons_prefix_cons] at hrest ⊢
    · by_contra hc
      exact Recognizer.not_viable_phrase_snoc t hc hviable
  · rintro ⟨rfl, rfl⟩
    refine viable_of_mem ⟨s.categories, Shape.categories .adjectiveLast, ⟨s, rfl⟩, ⟨_, rfl⟩, ?_⟩
    simp [Shape.categories]

/-- What follows a sentence and is not an adjective for its complement is too much, and the first
word of it is reported. -/
theorem verdict_of_excess {text w : String} {u v : List String} {s t : Shape}
    (hknown : ∀ x ∈ lowerWords text, spanish.Knows x) (hwords : lowerWords text = u ++ w :: v)
    (hu : u.map spanish.classify = s.categories ++ .verb :: t.categories)
    (hw : ¬ (t = .bare ∧ spanish.classify w = .adjective)) :
    (analyze text).verdict = .invalid .syntactic [.trailing u.length w] := by
  have hsentence : IsSentence (u.map spanish.classify) := ⟨_, _, ⟨s, rfl⟩, ⟨t, rfl⟩, hu⟩
  have hstop : ¬ Viable language (u.map spanish.classify ++ [spanish.classify w]) := by
    rwa [hu, viable_language_snoc_iff]
  obtain ⟨d, hd, ho⟩ :=
    recognize_of_divergesAt (divergesAt_tokenize hwords (viable_of_mem hsentence) hstop)
  have hget : (lowerWords text)[u.length]? = some w := by simp [hwords]
  obtain ⟨-, htext, hposition⟩ := at_tokenize hget
  rw [analyze_of_knows hknown, ho]
  cases hd with
  | trailing _ =>
    rw [htext, hposition]
    rfl
  | unexpected incomplete _ _ =>
    rw [categories_take_tokenize (by simp [hwords]), hwords, List.take_left] at incomplete
    exact absurd hsentence incomplete

/-- Tokens with the categories of a shape are a noun phrase of that shape. -/
theorem exists_ofTokens?_of_categories {ts : List Token} {s : Shape}
    (h : Token.categories ts = s.categories) : ∃ np, ofTokens? ts = some np ∧ np.shape = s := by
  have hproper : Token.proper ts = ts := by
    apply Token.proper_eq_self
    rw [h]
    exact endOfInput_notMem_categories s
  have hshape : (ofTokens? ts).map NounPhrase.shape = some s := by
    rw [map_shape_ofTokens?_eq_some_iff, hproper, h]
  exact Option.map_eq_some_iff.mp hshape

/-- The shape of the noun phrase after the first verb, if what follows the verb is one. -/
def complementShape? (ts : List Token) : Option Shape := do
  let v ← Token.verbIndex? ts
  let np ← ofTokens? (ts.drop (v + 1))
  return np.shape

theorem complementShape?_of_categories {ts : List Token} {s t : Shape}
    (h : Token.categories ts = s.categories ++ .verb :: t.categories) :
    complementShape? ts = some t := by
  obtain ⟨v, hv, -, ht⟩ := Token.verbIndex?_of_categories h
  obtain ⟨np, hnp, rfl⟩ := exists_ofTokens?_of_categories ht
  simp [complementShape?, hv, hnp]

theorem categories_words_analyze (text : String) :
    Token.categories (analyze text).words = (lowerWords text).map spanish.classify := by
  rw [words_analyze, Vocabulary.categories_tokensOf]

/-- **What follows a sentence is an adjective or too much.**  Let `s` be a sentence of `n` words
and let `t` start with the word `w`, all its words being known.  The two together are a sentence
exactly when the complement of `s` has no adjective and `t` is one.  If the complement has none,
`t` starts with one and more words follow, the first of these is too much; in every other case
`w` is. -/
theorem analyze_after_sentence (s t w : String) (ws : List String)
    (hs : (analyze s).isValid = true) (ht : lowerWords t = w :: ws)
    (hknown : ∀ x ∈ lowerWords t, spanish.Knows x) :
    ((analyze (s ++ " " ++ t)).isValid = true ↔
      complementShape? (analyze s).words = some .bare ∧ spanish.classify w = .adjective ∧
        ws = []) ∧
    (complementShape? (analyze s).words = some .bare → spanish.classify w = .adjective →
      ∀ x xs, ws = x :: xs →
        (analyze (s ++ " " ++ t)).verdict =
          .invalid .syntactic [.trailing ((lowerWords s).length + 1) x]) ∧
    (¬ (complementShape? (analyze s).words = some .bare ∧ spanish.classify w = .adjective) →
      (analyze (s ++ " " ++ t)).verdict =
        .invalid .syntactic [.trailing (lowerWords s).length w]) := by
  have hsentence := isValid_iff_isSentence.mp hs
  have hwords : lowerWords (s ++ " " ++ t) = lowerWords s ++ w :: ws := by
    rw [lowerWords_append, ht]
  have hall : ∀ x ∈ lowerWords (s ++ " " ++ t), spanish.Knows x := by
    rw [lowerWords_append]
    exact List.forall_mem_append.mpr ⟨knows_of_isSentence hsentence, hknown⟩
  obtain ⟨_, _, ⟨subject, rfl⟩, ⟨complement, rfl⟩, hcs⟩ := hsentence
  rw [complementShape?_of_categories ((categories_words_analyze s).trans hcs), Option.some.injEq]
  by_cases hgoes : complement = .bare ∧ spanish.classify w = .adjective
  · -- the adjective belongs to the complement, which cannot take another
    obtain ⟨rfl, hadjective⟩ := hgoes
    have hlonger : (lowerWords s ++ [w]).map spanish.classify =
        subject.categories ++ .verb :: Shape.categories .adjectiveLast := by
      simp [hcs, hadjective, Shape.categories]
    cases ws with
    | nil =>
      have hvalid : (analyze (s ++ " " ++ t)).isValid = true := by
        rw [isValid_iff_isSentence, hwords, hlonger]
        exact ⟨_, _, ⟨subject, rfl⟩, ⟨_, rfl⟩, rfl⟩
      refine ⟨iff_of_true hvalid ⟨rfl, hadjective, rfl⟩, ?_, fun hother => ?_⟩
      · rintro - - x xs ⟨⟩
      · exact absurd ⟨rfl, hadjective⟩ hother
    | cons x xs =>
      have hcut : lowerWords (s ++ " " ++ t) = (lowerWords s ++ [w]) ++ x :: xs := by simp [hwords]
      have hverdict := verdict_of_excess hall hcut hlonger (by simp)
      rw [List.length_append, List.length_singleton] at hverdict
      refine ⟨iff_of_false ?_ (by simp), ?_, fun hother => ?_⟩
      · simp [(Analysis.of_verdict_invalid hverdict).2.1]
      · rintro - - _ _ ⟨⟩
        exact hverdict
      · exact absurd ⟨rfl, hadjective⟩ hother
  · have hverdict := verdict_of_excess hall hwords hcs hgoes
    refine ⟨iff_of_false ?_ fun h => hgoes ⟨h.1, h.2.1⟩, fun hbare hadjective => ?_,
      fun _ => hverdict⟩
    · simp [(Analysis.of_verdict_invalid hverdict).2.1]
    · exact absurd ⟨hbare, hadjective⟩ hgoes

/-- A sentence whose complement goes on with an adjective, and a word too much. -/
theorem analyze_after_bare_complement :
    (analyze "El perro come un hueso").isValid = true ∧
      lowerWords "Grande rojo" = ["grande", "rojo"] ∧
        (analyze ("El perro come un hueso" ++ " " ++ "Grande rojo")).verdict =
          .invalid .syntactic [.trailing 6 "rojo"] := by
  have hs : lowerWords "El perro come un hueso" = ["el", "perro", "come", "un", "hueso"] := by
    decide +kernel
  have ht : lowerWords "Grande rojo" = ["grande", "rojo"] := by decide +kernel
  have hcategories : (lowerWords "El perro come un hueso").map spanish.classify =
      Shape.categories .bare ++ .verb :: Shape.categories .bare := by
    rw [hs]
    simp [Vocabulary.classify, Category.lexical, Vocabulary.contains, Vocabulary.set, spanish,
      Shape.categories]
  have hadjective : spanish.classify "grande" = .adjective := by
    simp [Vocabulary.classify, Category.lexical, Vocabulary.contains, Vocabulary.set, spanish]
  have hknown : ∀ x ∈ lowerWords "Grande rojo", spanish.Knows x := by
    rw [ht]
    simp [Vocabulary.Knows, Category.lexical, Vocabulary.words, Vocabulary.set, spanish,
      WordSet.mem_ofList]
  have hvalid : (analyze "El perro come un hueso").isValid = true :=
    isValid_iff_isSentence.mpr ⟨_, _, ⟨.bare, rfl⟩, ⟨.bare, rfl⟩, hcategories⟩
  have hbare : complementShape? (analyze "El perro come un hueso").words = some .bare :=
    complementShape?_of_categories ((categories_words_analyze _).trans hcategories)
  obtain ⟨-, hsecond, -⟩ := analyze_after_sentence _ _ _ _ hvalid ht hknown
  have hverdict := hsecond hbare hadjective "rojo" [] rfl
  rw [hs] at hverdict
  exact ⟨hvalid, ht, hverdict⟩

/-! ### Faults that stay and faults that do not -/

/-- A diagnostic says that the input has ended where some category was asked for. -/
def Diagnostic.Unfinished (d : Diagnostic) : Prop :=
  ∃ position expected text, d = .unexpected position expected .endOfInput text

/-- A text that fails in the syntactic phase leaves the grammar somewhere, and its one diagnostic
describes the place. -/
theorem exists_place_of_phase {text : String} (h : (analyze text).phase = some .syntactic) :
    (∀ w ∈ lowerWords text, spanish.Knows w) ∧
      ¬ IsSentence ((lowerWords text).map spanish.classify) ∧
        ∃ k d, DivergesAt (tokenize text) k ∧ Describes (tokenize text) k d ∧
          recognize (tokenize text) = ⟨false, [d]⟩ := by
  rcases verdict_cases text with ⟨-, hv⟩ | ⟨hknown, ⟨-, hv⟩ | ⟨hs, -⟩⟩
  · rw [(Analysis.of_verdict_invalid hv).1] at h
    cases h
  · rw [(Analysis.of_verdict_valid hv).1] at h
    cases h
  · refine ⟨hknown, hs, ?_⟩
    rcases recognizeWith_cases (tokenize text) .off with ⟨hsentence, -⟩ | ⟨k, d, hk, hd, ho⟩
    · rw [categories_beforeEnd_tokenize] at hsentence
      exact absurd hsentence hs
    · exact ⟨k, d, hk, hd, ho⟩

/-- A text leaves the grammar at one of its words or at its end. -/
theorem DivergesAt.le_words {text : String} {k : Nat} (hk : DivergesAt (tokenize text) k) :
    k ≤ (lowerWords text).length := by
  by_contra hlt
  -- the marker of the end would lie before the place
  have hall : (tokenize text).take k = tokenize text :=
    List.take_of_length_le (by rw [length_tokenize]; omega)
  refine endOfInput_notMem_of_viable hk.viable ?_
  rw [hall, tokenize_eq]
  simp [Token.categories]

/-- A text that is no sentence is unfinished if it leaves the grammar at its end. -/
theorem unfinished_iff {text : String} {k : Nat} {d : Diagnostic}
    (hs : ¬ IsSentence ((lowerWords text).map spanish.classify))
    (hk : DivergesAt (tokenize text) k) (hd : Describes (tokenize text) k d) :
    d.Unfinished ↔ k = (lowerWords text).length := by
  rcases Nat.lt_or_eq_of_le hk.le_words with hlt | rfl
  · -- a word is found there
    have hfound : Token.categoryAt (tokenize text) k ≠ .endOfInput := by
      rw [(at_tokenize (List.getElem?_eq_getElem hlt)).1]
      exact Vocabulary.classify_ne_endOfInput _ _
    refine iff_of_false ?_ (Nat.ne_of_lt hlt)
    rintro ⟨position, expected, x, hunfinished⟩
    cases hd with
    | trailing _ => cases hunfinished
    | unexpected _ _ _ =>
      injection hunfinished with _ _ hend
      exact hfound hend
  · have hfound := categoryAt_tokenize_length text
    refine iff_of_true ?_ rfl
    cases hd with
    | trailing complete =>
      rw [categories_take_tokenize (Nat.le_refl _), List.take_length] at complete
      exact absurd complete hs
    | @unexpected c _ _ _ => exact ⟨_, c, _, by rw [hfound]⟩

/-! ### Completing a text -/

/-- A word of each category of words. -/
def specimen : Category → String
  | .article => "el"
  | .noun => "perro"
  | .adjective => "grande"
  | .verb => "come"
  | .endOfInput => ""
  | .unknown => ""

/-- A text whose words have the given categories. -/
def specimenText : List Category → String
  | [] => ""
  | c :: cs => specimen c ++ " " ++ specimenText cs

theorem classify_specimen {c : Category} (h : c ∈ Category.lexical) :
    spanish.classify (specimen c) = c := by
  rw [Category.mem_lexical_iff] at h
  cases c <;>
    simp [specimen, Vocabulary.classify, Category.lexical, Vocabulary.contains, Vocabulary.set,
      spanish] at h ⊢

theorem lowerWords_specimen {c : Category} (h : c ∈ Category.lexical) :
    lowerWords (specimen c) = [specimen c] := by
  rw [Category.mem_lexical_iff] at h
  cases c <;> first | decide +kernel | simp at h

theorem map_classify_specimenText {cs : List Category} (h : ∀ c ∈ cs, c ∈ Category.lexical) :
    (lowerWords (specimenText cs)).map spanish.classify = cs := by
  induction cs with
  | nil => rfl
  | cons c cs ih =>
    obtain ⟨hc, hcs⟩ := List.forall_mem_cons.mp h
    rw [specimenText, lowerWords_append, List.map_append, ih hcs, lowerWords_specimen hc,
      List.map_singleton, classify_specimen hc, List.singleton_append]

theorem exists_completion {text : String}
    (h : Viable language ((lowerWords text).map spanish.classify)) :
    ∃ t, (analyze (text ++ " " ++ t)).isValid = true := by
  obtain ⟨_, hx, rest, rfl⟩ := h
  have hlexical : ∀ c ∈ rest, c ∈ Category.lexical := fun c hc =>
    mem_lexical_of_isSentence hx c (List.mem_append_right _ hc)
  refine ⟨specimenText rest, ?_⟩
  rw [isValid_iff_isSentence, lowerWords_append, List.map_append,
    map_classify_specimenText hlexical]
  exact hx

/-- The words of a text are the first tokens of every text that continues it. -/
theorem exists_tokenize_append (s t : String) :
    ∃ rest, tokenize (s ++ " " ++ t) = spanish.tokensOf (lowerWords s) ++ rest := by
  rw [tokenize_eq, lowerWords_append, Vocabulary.tokensOf, List.mapIdx_append, List.append_assoc]
  exact ⟨_, rfl⟩

/-- A text that leaves the grammar at one of its words does so in the same way whatever
follows. -/
theorem recognize_after_fault {s : String} {k : Nat} (hk : DivergesAt (tokenize s) k)
    (hlt : k < (lowerWords s).length) (t : String) :
    recognize (tokenize (s ++ " " ++ t)) = recognize (tokenize s) := by
  obtain ⟨rest, hrest⟩ := exists_tokenize_append s t
  have hlength : k < (spanish.tokensOf (lowerWords s)).length := by simpa using hlt
  rw [tokenize_eq] at hk
  rw [hrest, recognize_eq_of_divergesAt hk hlength rest, ← tokenize_eq]

/-- **An unfinished text has a completion, any other fault is final.**  A text that fails in the
syntactic phase has one diagnostic.  If this says that the text has ended too early, some text
after it makes a sentence; and only then.  Otherwise the diagnostic is the same for every text
that continues it with known words. -/
theorem analyze_after_fault (s : String) (hs : (analyze s).phase = some .syntactic) :
    ∃ d, (analyze s).verdict = .invalid .syntactic [d] ∧
      ((∃ t, (analyze (s ++ " " ++ t)).isValid = true) ↔ d.Unfinished) ∧
      (¬ d.Unfinished → ∀ t, (∀ w ∈ lowerWords t, spanish.Knows w) →
        (analyze (s ++ " " ++ t)).verdict = .invalid .syntactic [d]) := by
  obtain ⟨hknown, hnot, k, d, hk, hd, ho⟩ := exists_place_of_phase hs
  have hunfinished := unfinished_iff hnot hk hd
  have hfinal : ¬ d.Unfinished → ∀ t, (∀ w ∈ lowerWords t, spanish.Knows w) →
      (analyze (s ++ " " ++ t)).verdict = .invalid .syntactic [d] := by
    intro hd' t ht
    have hlt : k < (lowerWords s).length :=
      Nat.lt_of_le_of_ne hk.le_words fun h => hd' (hunfinished.mpr h)
    have hall : ∀ w ∈ lowerWords (s ++ " " ++ t), spanish.Knows w := by
      rw [lowerWords_append]
      exact List.forall_mem_append.mpr ⟨hknown, ht⟩
    rw [analyze_of_knows hall, recognize_after_fault hk hlt, ho]
    rfl
  refine ⟨d, by rw [analyze_of_knows hknown, ho]; rfl, ⟨?_, ?_⟩, hfinal⟩
  · -- a fault that is final keeps every longer text from being a sentence
    rintro ⟨t, ht⟩
    by_contra hd'
    have hall := knows_of_isSentence (isValid_iff_isSentence.mp ht)
    rw [lowerWords_append] at hall
    have hv := hfinal hd' t (List.forall_mem_append.mp hall).2
    simp [(Analysis.of_verdict_invalid hv).2.1] at ht
  · intro hd'
    obtain rfl := hunfinished.mp hd'
    have hviable := hk.viable
    rw [categories_take_tokenize (Nat.le_refl _), List.take_length] at hviable
    exact exists_completion hviable

/-- A verb where a noun is missing is a fault that stays. -/
theorem analyze_after_misplaced_verb :
    (analyze "el come").phase = some .syntactic ∧
      (¬ ∃ t, (analyze ("el come" ++ " " ++ t)).isValid = true) ∧
        ∀ t, (∀ w ∈ lowerWords t, spanish.Knows w) →
          (analyze ("el come" ++ " " ++ t)).verdict =
            .invalid .syntactic [.unexpected 1 .noun .verb "come"] := by
  have hverdict : (analyze "el come").verdict =
      .invalid .syntactic [.unexpected 1 .noun .verb "come"] := by decide +kernel
  have hphase := (Analysis.of_verdict_invalid hverdict).1
  obtain ⟨d, hd, hcompletion, hfinal⟩ := analyze_after_fault "el come" hphase
  obtain rfl : d = .unexpected 1 .noun .verb "come" := by
    simpa using hd.symm.trans hverdict
  have hstays : ¬ (Diagnostic.unexpected 1 .noun .verb "come").Unfinished := by
    rintro ⟨position, expected, x, h⟩
    cases h
  exact ⟨hphase, mt hcompletion.mp hstays, hfinal hstays⟩

end Oracion
