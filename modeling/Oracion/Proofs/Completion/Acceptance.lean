import Oracion.Completion
import Oracion.Proofs.Analysis.Appearance

/-!
# Accepting a completion

A completion goes in where the word in front of the cursor stands.  That word is found by going
back through the line, character by character, from the cursor to the nearest blank; the tokens of
a line are found by cutting the whole line at its blanks.  The two agree on what a word is, so a
word of the vocabulary that is accepted is a token of its own, and the words on either side of it
are what they were.

## Main definitions

* `Token.renumbered` — tokens as the tokens of one text.

## Main results

* `splits_wordStart` — **going back finds the unfinished word.**
* `completeAt_eq` — the completions at a place are the candidates for what stands in front of it.
* `lowerWords_accept` — the words of a line in which a completion has been accepted.
* `accept_vocabulary_word` — **accepting a word of the vocabulary leaves the other words alone.**
-/

namespace Oracion

open String (Pos singleton)
open Vocabulary (spanish)

/-! ### The unfinished word -/

theorem toList_fragment (t : String) :
    (fragment t).toList = t.toList.rtakeWhile fun c => !Chars.isBlank c := String.toList_ofList

theorem toList_beforeFragment (t : String) :
    (beforeFragment t).toList = t.toList.rdropWhile fun c => !Chars.isBlank c :=
  String.toList_ofList

theorem beforeFragment_append_fragment (t : String) : beforeFragment t ++ fragment t = t := by
  apply String.toList_inj.mp
  rw [String.toList_append, toList_fragment, toList_beforeFragment,
    List.rdropWhile_append_rtakeWhile]

theorem isBlank_of_mem_fragment {t : String} {c : Char} (hc : c ∈ (fragment t).toList) :
    Chars.isBlank c = false := by
  rw [toList_fragment] at hc
  simpa using List.mem_rtakeWhile_imp hc

/-- What comes before the unfinished word ends in a blank, if it is anything. -/
theorem isBlank_getLast?_beforeFragment (t : String) :
    ∀ c ∈ (beforeFragment t).toList.getLast?, Chars.isBlank c = true := by
  intro c hc
  rw [toList_beforeFragment] at hc
  obtain ⟨hne, hlast⟩ := List.mem_getLast?_eq_getLast hc
  rw [hlast]
  simpa using List.rdropWhile_last_not _ _ hne

/-- Behind a blank there is no unfinished word. -/
theorem fragment_append_blank {t : String} {c : Char} (hc : Chars.isBlank c = true) :
    fragment (t ++ singleton c) = "" ∧ beforeFragment (t ++ singleton c) = t ++ singleton c := by
  have hchars : (t ++ singleton c).toList = t.toList ++ [c] := by simp
  constructor <;> apply String.toList_inj.mp
  · rw [toList_fragment, hchars, List.rtakeWhile_concat_neg _ _ _ (by simp [hc])]
    rfl
  · rw [toList_beforeFragment, hchars, List.rdropWhile_concat_neg _ _ _ (by simp [hc])]

/-- Any other character belongs to the unfinished word. -/
theorem fragment_append_solid {t : String} {c : Char} (hc : Chars.isBlank c = false) :
    fragment (t ++ singleton c) = fragment t ++ singleton c ∧
      beforeFragment (t ++ singleton c) = beforeFragment t := by
  have hchars : (t ++ singleton c).toList = t.toList ++ [c] := by simp
  constructor <;> apply String.toList_inj.mp
  · rw [toList_fragment, hchars, List.rtakeWhile_concat_pos _ _ _ (by simp [hc]),
      String.toList_append, toList_fragment, String.toList_singleton]
  · rw [toList_beforeFragment, hchars, List.rdropWhile_concat_pos _ _ _ (by simp [hc]),
      toList_beforeFragment]

/-! ### Going back from the cursor -/

section Places

variable {line : String}

theorem wordStart_le (pos : line.Pos) : wordStart pos ≤ pos := by
  fun_induction wordStart pos with
  | case1 => exact Pos.le_refl _
  | case2 => exact Pos.le_refl _
  | case3 pos h hblank ih => exact Pos.le_trans ih (Std.le_of_lt Pos.prev_lt)

/-- Going back ends at the start of the line or behind a blank. -/
theorem wordStart_cases (pos : line.Pos) :
    wordStart pos = line.startPos ∨
      ∃ h, Chars.isBlank (((wordStart pos).prev h).get Pos.prev_ne_endPos) = true := by
  fun_induction wordStart pos with
  | case1 => exact .inl rfl
  | case2 pos h hblank => exact .inr ⟨h, hblank⟩
  | case3 pos h hblank ih => exact ih

/-- **Going back finds the unfinished word**: it cuts the line in front of it. -/
theorem splits_wordStart {pos : line.Pos} {t u : String} (hpos : pos.Splits t u) :
    (wordStart pos).Splits (beforeFragment t) (fragment t ++ u) := by
  fun_induction wordStart pos generalizing t u with
  | case1 =>
    obtain rfl : t = "" := hpos.eq_startPos_iff.mp rfl
    exact hpos
  | case2 pos h hblank =>
    obtain ⟨t, rfl⟩ := hpos.exists_eq_append_singleton_of_ne_startPos h
    obtain ⟨hfragment, hbefore⟩ := fragment_append_blank (t := t) hblank
    rw [hfragment, hbefore, String.empty_append]
    exact hpos
  | case3 pos h hblank ih =>
    obtain ⟨t, rfl⟩ := hpos.exists_eq_append_singleton_of_ne_startPos h
    obtain ⟨hfragment, hbefore⟩ :=
      fragment_append_solid (t := t) (Bool.not_eq_true _ ▸ hblank)
    -- the character goes over to what follows, one step further back
    rw [hfragment, hbefore, String.append_assoc]
    exact ih hpos.prev

theorem extract_wordStart {pos : line.Pos} {t u : String} (hpos : pos.Splits t u) :
    String.extract (wordStart pos) pos = fragment t := by
  have hend : pos.Splits (beforeFragment t ++ fragment t) u := by
    rwa [beforeFragment_append_fragment]
  obtain ⟨hle, hcopy⟩ := String.copy_slice_eq_iff_splits.mpr
    ⟨beforeFragment t, u, splits_wordStart hpos, hend⟩
  rw [String.extract_eq_copy_slice _ _ hle, hcopy]

/-- **The completions at a place are the candidates for what stands in front of it.** -/
theorem completeAt_eq (words : List String) (pos : line.Pos) :
    completeAt words pos = (wordStart pos, candidates words (EditLine.at pos).before) := by
  rw [completeAt, extract_wordStart pos.splits]
  rfl

/-- A completion is accepted by putting it between the start of the word and the cursor. -/
theorem accept_at (pos : line.Pos) (w : String) :
    (EditLine.at pos).accept w =
      (line.sliceTo (wordStart pos)).copy ++ w ++ (line.sliceFrom pos).copy := by
  rw [(splits_wordStart pos.splits).copy_sliceTo_eq]
  rfl

/-- What follows a place starts with the character at it. -/
theorem isBlank_head?_sliceFrom {pos : line.Pos}
    (hpos : pos = line.endPos ∨ ∃ h, Chars.isBlank (pos.get h) = true) :
    ∀ c ∈ (line.sliceFrom pos).copy.toList.head?, Chars.isBlank c = true := by
  intro c hc
  rcases hpos with rfl | ⟨h, hblank⟩
  · rw [(String.splits_endPos line).copy_sliceFrom_eq] at hc
    cases hc
  · obtain ⟨u, hu⟩ := pos.splits.exists_eq_singleton_append h
    rw [hu, String.toList_append, String.toList_singleton, List.singleton_append, List.head?_cons,
      Option.mem_some_iff] at hc
    exact hc ▸ hblank

end Places

/-! ### The words of the new line -/

/-- A word of the vocabulary is one word, in lower case. -/
theorem lowerWords_of_knows {w : String} (hw : spanish.Knows w) : lowerWords w = [w] := by
  obtain ⟨hne, hletters⟩ := subset_alphabet_of_knows hw
  have hreads : ∀ c ∈ w.toList, Chars.ReadsAs c c :=
    fun c hc => (bicameral_of_mem_alphabet (hletters hc)).1
  have hlower : Chars.lower w.toList = w.toList :=
    Chars.lowerAfter_of_settled fun c hc => (hreads c hc).2
  rw [lowerWords, Text.words_of_not_blank hne fun c hc => (hreads c hc).1, List.map_singleton,
    Text.lower, hlower, String.ofList_toList]

/-- **The words of a line in which a completion has been accepted** are those before the unfinished
word, the completion, and those after the cursor. -/
theorem lowerWords_accept {l : EditLine} {w : String} (hw : spanish.Knows w)
    (hafter : ∀ c ∈ l.after.toList.head?, Chars.isBlank c = true) :
    lowerWords (l.accept w) =
      lowerWords (beforeFragment l.before) ++ [w] ++ lowerWords l.after := by
  have hbefore := isBlank_getLast?_beforeFragment l.before
  have hword := lowerWords_of_knows hw
  simp only [lowerWords] at hword
  simp only [lowerWords, EditLine.accept, Text.words_append_of_head? hafter,
    Text.words_append_of_getLast? hbefore, List.map_append, hword]

/-- Tokens as the tokens of one text: numbered anew from zero, with the marker after the last. -/
def Token.renumbered (ts : List Token) : List Token :=
  ts.mapIdx (fun i t => { t with position := i }) ++ [endAt ts.length]

/-- Tokens that have the categories of their texts are numbered as the tokens of these texts are. -/
theorem Vocabulary.renumbered_eq {v : Vocabulary} {ts : List Token}
    (h : ∀ t ∈ ts, t.category = v.classify t.text) :
    Token.renumbered ts = v.tokensOf (ts.map Token.text) ++ [Token.endAt ts.length] := by
  have htokens : ts.mapIdx (fun i t => { t with position := i }) =
      v.tokensOf (ts.map Token.text) := by
    apply List.ext_getElem?
    intro i
    rw [tokensOf, List.getElem?_mapIdx, List.getElem?_mapIdx, List.getElem?_map]
    cases hi : ts[i]? with
    | none => rfl
    | some t =>
      have ht := h t (List.mem_of_getElem? hi)
      simp [← ht]
  rw [Token.renumbered, htokens]

theorem Vocabulary.category_of_mem_tokensOf {v : Vocabulary} {ws : List String} {t : Token}
    (ht : t ∈ v.tokensOf ws) : t.category = v.classify t.text := by
  obtain ⟨i, hi, rfl⟩ := List.mem_mapIdx.mp ht
  rfl

/-- **The tokens of a line in which a word of the vocabulary has been accepted.** -/
theorem tokenize_accept {l : EditLine} {w : String} (hw : spanish.Knows w)
    (hafter : ∀ c ∈ l.after.toList.head?, Chars.isBlank c = true) :
    tokenize (l.accept w) = Token.renumbered
      (Token.proper (tokenize (beforeFragment l.before)) ++ [⟨spanish.classify w, w, 0⟩] ++
        Token.proper (tokenize l.after)) := by
  have hcategory : ∀ t ∈ spanish.tokensOf (lowerWords (beforeFragment l.before)) ++
      [⟨spanish.classify w, w, 0⟩] ++ spanish.tokensOf (lowerWords l.after),
      t.category = spanish.classify t.text := by
    intro t ht
    simp only [List.mem_append, List.mem_singleton] at ht
    rcases ht with (ht | rfl) | ht
    · exact Vocabulary.category_of_mem_tokensOf ht
    · rfl
    · exact Vocabulary.category_of_mem_tokensOf ht
  rw [proper_tokenize, proper_tokenize, Vocabulary.renumbered_eq hcategory, tokenize_eq,
    lowerWords_accept hw hafter]
  simp [Vocabulary.map_text_tokensOf]

/-! ### Accepting a word of the vocabulary -/

/-- The words of the vocabulary are among those that are offered by default. -/
theorem mem_completionWords {w : String} :
    w ∈ completionWords ↔ spanish.Knows w ∨ w ∈ Command.listing.map Prod.fst := by
  rw [completionWords, WordSet.mem_ofList, List.mem_append, List.mem_flatMap]
  rfl

/-- **Accepting a word of the vocabulary leaves the other words alone.**  Let the cursor be at the
end of a line or in front of a blank.  The completions go in at a place at or before the cursor, at
the start of the line or behind a blank, with no blank between that place and the cursor.  They are
the candidates that Tab goes through.  A line in which one of them that is a word of the vocabulary
has been accepted has the tokens of what stands before that place, the word with its category, which
is a known one, and the tokens of what stands after the cursor, all numbered in turn. -/
theorem accept_vocabulary_word (line : String) (pos : line.Pos)
    (hpos : pos = line.endPos ∨ ∃ h, Chars.isBlank (pos.get h) = true) :
    let start := (completeAt completionWords pos).1
    let before := (line.sliceTo start).copy
    let after := (line.sliceFrom pos).copy
    start ≤ pos ∧
    (start = line.startPos ∨ ∃ h, Chars.isBlank ((start.prev h).get Pos.prev_ne_endPos) = true) ∧
    (∀ c ∈ (String.extract start pos).toList, Chars.isBlank c = false) ∧
    (completeAt completionWords pos).2 = candidates completionWords (EditLine.at pos).before ∧
    ∀ w ∈ (completeAt completionWords pos).2, spanish.Knows w →
      (EditLine.at pos).accept w = before ++ w ++ after ∧
      tokenize (before ++ w ++ after) = Token.renumbered
        (Token.proper (tokenize before) ++ [⟨spanish.classify w, w, 0⟩] ++
          Token.proper (tokenize after)) ∧
      spanish.classify w ≠ .unknown ∧ w ∈ spanish.words (spanish.classify w) := by
  have hafter : ∀ c ∈ (EditLine.at pos).after.toList.head?, Chars.isBlank c = true :=
    isBlank_head?_sliceFrom hpos
  simp only [completeAt_eq]
  refine ⟨wordStart_le pos, wordStart_cases pos, ?_, trivial, ?_⟩
  · intro c hc
    rw [extract_wordStart pos.splits] at hc
    exact isBlank_of_mem_fragment hc
  · intro w _ hw
    refine ⟨accept_at pos w, ?_, ?_⟩
    · rw [← accept_at, tokenize_accept hw hafter, (splits_wordStart pos.splits).copy_sliceTo_eq]
      rfl
    · rcases spanish.classify_cases w with ⟨hcategory, hmem⟩ | ⟨-, hunknown⟩
      · exact ⟨(Category.mem_lexical_iff.mp hcategory).2, hmem⟩
      · exact absurd hw hunknown

/-- A word is completed behind a blank of two bytes, with another word after the cursor. -/
theorem accept_vocabulary_word_behind_wide_blank :
    ∃ pos : ("el\u00a0pe come" : String).Pos,
      (∃ h, Chars.isBlank (pos.get h) = true) ∧ "perro" ∈ (completeAt completionWords pos).2 ∧
        (completeAt completionWords pos).1.offset.byteIdx = 4 ∧
          tokenize "el\u00a0perro come" = Token.renumbered
            (Token.proper (tokenize "el\u00a0") ++ [⟨.noun, "perro", 0⟩] ++
              Token.proper (tokenize " come")) := by
  have hline : ("el\u00a0pe come" : String) = "el\u00a0pe" ++ " come" := by decide +kernel
  have hsplits := Pos.splits_ofEqAppend hline
  generalize Pos.ofEqAppend hline = pos at hsplits
  have hne : pos ≠ ("el\u00a0pe come" : String).endPos := by
    rw [Ne, hsplits.eq_endPos_iff]
    decide
  have hblank : Chars.isBlank (pos.get hne) = true := by
    obtain ⟨u, hu⟩ := hsplits.exists_eq_singleton_append hne
    obtain ⟨hget, -⟩ : ' ' = pos.get hne ∧ _ := by simpa using congrArg String.toList hu
    rw [← hget]
    decide
  have hstart : (wordStart pos).Splits "el\u00a0" "pe come" := by
    have hcut := splits_wordStart hsplits
    have hbefore : beforeFragment "el\u00a0pe" = "el\u00a0" := by decide +kernel
    have hfragment : fragment "el\u00a0pe" ++ " come" = "pe come" := by decide +kernel
    rwa [hbefore, hfragment] at hcut
  have hknown : spanish.Knows "perro" := ⟨.noun, by decide, by decide +kernel⟩
  have hmem : "perro" ∈ (completeAt completionWords pos).2 := by
    rw [mem_completeAt, extract_wordStart hsplits]
    exact ⟨mem_completionWords.mpr (.inl hknown), by decide +kernel⟩
  obtain ⟨-, -, -, -, haccept⟩ := accept_vocabulary_word _ pos (.inr ⟨hne, hblank⟩)
  obtain ⟨-, htokens, -⟩ := haccept "perro" hmem hknown
  have hnew : "el\u00a0" ++ "perro" ++ " come" = "el\u00a0perro come" := by decide +kernel
  have hnoun : spanish.classify "perro" = .noun := by decide +kernel
  simp only [completeAt_eq, hstart.copy_sliceTo_eq, hsplits.copy_sliceFrom_eq, hnew, hnoun]
    at htokens
  refine ⟨pos, ⟨hne, hblank⟩, hmem, ?_, htokens⟩
  simp only [completeAt_eq, hstart.offset_eq_rawEndPos]
  decide +kernel

end Oracion
