import Oracion.Proofs.Analysis.Canonical
import Oracion.Proofs.Chars.Cuts

/-!
# Case and spacing do not matter

What a text looks like is lost when it is cut into tokens.  Its lower case has the same tokens, and
so have the texts of its tokens with a blank between each two.  A list of words of the vocabulary
can be written with capitals wherever one likes and with any blanks around and between the words:
the analysis comes to the same.

The letters of the vocabulary decide this, not the tables for lower case as a whole: each of them
comes back from its capital, wherever it stands in a word.

## Main definitions

* `Chars.capital` — the capital of a letter.
* `Chars.Bicameral` — a letter that is read as itself, whichever way it is written.
* `alphabet` — the letters of the vocabulary.
* `WrittenWord`, `writeOut` — words as they are written, and the text that they make up.

## Main results

* `Chars.lowerAfter_mapIdx` — letters come back from what is read as them.
* `bicameral_of_mem_alphabet` — the letters of the vocabulary can be written either way.
* `lowerWords_writeOut` — **a text has the words that it was written with.**
* `verdict_eq_of_tokenize_eq` — texts with the same tokens have the same verdict.
* `appearance_does_not_matter` — **the analysis does not depend on case and spacing.**
-/

namespace Oracion

open Vocabulary (spanish)

namespace Chars

/-! ### Capitals -/

/-- The capital of a letter from a to z, and of one with an accent from à to þ, stands 32 places
before it.  Any other character is left as it is. -/
def capital (c : Char) : Char :=
  if 'a' ≤ c ∧ c ≤ 'z' ∨ 'à' ≤ c ∧ c ≤ 'þ' ∧ c ≠ '÷' then Char.ofNat (c.toNat - 32) else c

/-- A character that is read as the letter `c` in every place: it is no blank, and its lower case
is that letter whatever stands around it. -/
def ReadsAs (d c : Char) : Prop := isBlank d = false ∧ d ≠ capitalSigma ∧ small d = [c]

instance (d c : Char) : Decidable (ReadsAs d c) := inferInstanceAs (Decidable (_ ∧ _))

/-- A letter that is read as itself, whichever way it is written. -/
def Bicameral (c : Char) : Prop := ReadsAs c c ∧ ReadsAs (capital c) c

instance (c : Char) : Decidable (Bicameral c) := inferInstanceAs (Decidable (_ ∧ _))

/-- **Letters come back from what is read as them.** -/
theorem lowerAfter_mapIdx {cs : List Char} {write : Nat → Char → Char}
    (h : ∀ c ∈ cs, ∀ i, ReadsAs (write i c) c) (before : List Char) :
    lowerAfter before (cs.mapIdx write) = cs := by
  induction cs generalizing write before with
  | nil => rfl
  | cons c cs ih =>
    obtain ⟨hc, hcs⟩ := List.forall_mem_cons.mp h
    obtain ⟨-, hsigma, hsmall⟩ := hc 0
    rw [List.mapIdx_cons, lowerAfter_cons, if_neg hsigma, hsmall,
      ih fun d hd i => hcs d hd (i + 1), List.singleton_append]

end Chars

/-! ### The letters of the vocabulary -/

/-- The letters that the words of the vocabulary are made of. -/
def alphabet : List Char := "abcdeghijlmnopqrstuvzáñ".toList

theorem bicameral_of_mem_alphabet {c : Char} (h : c ∈ alphabet) : Chars.Bicameral c := by
  have hall : alphabet.all (fun c => decide (Chars.Bicameral c)) = true := by decide +kernel
  exact of_decide_eq_true (List.all_eq_true.mp hall c h)

/-- A word of the vocabulary has letters, and they are in the alphabet. -/
theorem subset_alphabet_of_knows {w : String} (h : spanish.Knows w) :
    w.toList ≠ [] ∧ w.toList ⊆ alphabet := by
  have hall : ∀ k ∈ Category.lexical, ∀ w ∈ spanish.words k,
      w.toList ≠ [] ∧ w.toList ⊆ alphabet := by decide +kernel
  obtain ⟨k, hk, hw⟩ := h
  exact hall k hk w hw

/-! ### Texts as they are written -/

/-- A word of the vocabulary as it is written in a text. -/
structure WrittenWord where
  /-- The word in lower case. -/
  word : String
  /-- The word is in the vocabulary. -/
  known : spanish.Knows word
  /-- Which of its letters are capitals. -/
  isCapital : Nat → Bool
  /-- What stands between it and the next word, or the end. -/
  gap : String
  /-- Nothing but blanks stands there. -/
  blank : Text.isBlank gap = true

namespace WrittenWord

/-- A letter of a word as it is written. -/
def write (s : WrittenWord) (i : Nat) (c : Char) : Char :=
  if s.isCapital i then Chars.capital c else c

/-- The letters of a word as they are written. -/
def letters (s : WrittenWord) : String := String.ofList (s.word.toList.mapIdx s.write)

/-- A letter of the word is read as itself. -/
theorem readsAs_write (s : WrittenWord) {c : Char} (hc : c ∈ s.word.toList) (i : Nat) :
    Chars.ReadsAs (s.write i c) c := by
  obtain ⟨hsmall, hcapital⟩ := bicameral_of_mem_alphabet ((subset_alphabet_of_knows s.known).2 hc)
  rw [write]
  split
  · exact hcapital
  · exact hsmall

theorem toList_letters_ne_nil (s : WrittenWord) : s.letters.toList ≠ [] := by
  rw [letters, String.toList_ofList]
  simpa using (subset_alphabet_of_knows s.known).1

theorem isBlank_of_mem_letters (s : WrittenWord) :
    ∀ c ∈ s.letters.toList, Chars.isBlank c = false := by
  intro d hd
  rw [letters, String.toList_ofList] at hd
  obtain ⟨i, hi, rfl⟩ := List.mem_mapIdx.mp hd
  exact (s.readsAs_write (List.getElem_mem hi) i).1

/-- **A word as it is written has the word as its lower case.** -/
@[simp] theorem lower_letters (s : WrittenWord) : Text.lower s.letters = s.word := by
  have hlower : Chars.lower (s.word.toList.mapIdx s.write) = s.word.toList := by
    apply Chars.lowerAfter_mapIdx
    intro c hc i
    exact s.readsAs_write hc i
  rw [Text.lower, letters, String.toList_ofList, hlower, String.ofList_toList]

end WrittenWord

/-- The text that words make up as they are written, after what stands in front of the first. -/
def writeOut (lead : String) (ss : List WrittenWord) : String :=
  lead ++ String.join (ss.map fun s => s.letters ++ s.gap)

theorem writeOut_nil (lead : String) : writeOut lead [] = lead := String.append_empty

theorem writeOut_cons (lead : String) (s : WrittenWord) (ss : List WrittenWord) :
    writeOut lead (s :: ss) = lead ++ (s.letters ++ writeOut s.gap ss) := by
  simp [writeOut, String.append_assoc]

/-- What follows a word starts with a blank, or the word is the last and nothing follows. -/
theorem isBlank_head?_writeOut {gap : String} {ss : List WrittenWord}
    (hblank : Text.isBlank gap = true) (hgap : ss ≠ [] → gap ≠ "") :
    ∀ c ∈ (writeOut gap ss).toList.head?, Chars.isBlank c = true := by
  have hall : ∀ c ∈ gap.toList, Chars.isBlank c = true := List.all_eq_true.mp hblank
  intro c hc
  apply hall
  cases ss with
  | nil =>
    rw [writeOut_nil] at hc
    exact List.mem_of_mem_head? hc
  | cons s ss =>
    have hne : gap.toList ≠ [] := by simpa using hgap (by simp)
    rw [writeOut, String.toList_append, List.head?_append_of_ne_nil _ hne] at hc
    exact List.mem_of_mem_head? hc

/-- **A text has the words that it was written with**, if something stands between each two. -/
theorem lowerWords_writeOut {lead : String} {ss : List WrittenWord}
    (hlead : Text.isBlank lead = true) (hgap : ∀ s ∈ ss.dropLast, s.gap ≠ "") :
    lowerWords (writeOut lead ss) = ss.map WrittenWord.word := by
  induction ss generalizing lead with
  | nil =>
    rw [writeOut, lowerWords, Text.words_append_of_isBlank hlead]
    rfl
  | cons s ss ih =>
    have hnext : ss ≠ [] → s.gap ≠ "" := by
      intro hne
      exact hgap s (by simp [List.dropLast_cons_of_ne_nil hne])
    have hrest : ∀ x ∈ ss.dropLast, x.gap ≠ "" := by
      intro x hx
      refine hgap x ?_
      rw [List.dropLast_cons_of_ne_nil (by rintro rfl; simp at hx)]
      exact List.mem_cons_of_mem s hx
    have hwords : Text.words (writeOut lead (s :: ss)) =
        s.letters :: Text.words (writeOut s.gap ss) := by
      rw [writeOut_cons, Text.words_append_of_isBlank hlead,
        Text.words_append_of_head? (isBlank_head?_writeOut s.blank hnext),
        Text.words_of_not_blank s.toList_letters_ne_nil s.isBlank_of_mem_letters,
        List.singleton_append]
    rw [lowerWords, hwords, List.map_cons, WrittenWord.lower_letters, ← lowerWords,
      ih s.blank hrest, List.map_cons]

/-! ### Analyses -/

/-- Texts with the same tokens have the same verdict. -/
theorem verdict_eq_of_tokenize_eq {s t : String} (h : tokenize s = tokenize t) :
    (analyze s).verdict = (analyze t).verdict := by
  by_cases hgate : lexicalDiagnostics (tokenize t) = []
  · rw [analyze_of_known (by rw [h, hgate]), analyze_of_known hgate, h]
  · rw [analyze_of_unknown (by rwa [h]), analyze_of_unknown hgate, h]

theorem tokenize_lower (text : String) : tokenize (Text.lower text) = tokenize text := by
  rw [tokenize, tokenize, Vocabulary.tokenize, Vocabulary.tokenize, Text.lower_lower]

/-- **Case and spacing do not matter.**  The texts of the tokens of a text, with a blank between
each two, have the same tokens, and so has the text in lower case.  Words of the vocabulary that
are written with any capitals, with any blanks between each two of them and around them, are
analyzed as they are in lower case with one blank between each two. -/
theorem appearance_does_not_matter (text : String) :
    tokenize (" ".intercalate ((Token.proper (tokenize text)).map Token.text)) = tokenize text ∧
    tokenize (Text.lower text) = tokenize text ∧
    ∀ (lead : String) (ss : List WrittenWord), Text.isBlank lead = true →
      (∀ s ∈ ss.dropLast, s.gap ≠ "") →
        let written := analyze (writeOut lead ss)
        let plain := analyze (" ".intercalate (ss.map WrittenWord.word))
        written.words.map Token.text = ss.map WrittenWord.word ∧
          written.verdict = plain.verdict ∧ written.phase = plain.phase ∧
            written.tokens = plain.tokens ∧ written.diagnostics = plain.diagnostics := by
  refine ⟨?_, tokenize_lower text, ?_⟩
  · rw [proper_tokenize, Vocabulary.map_text_tokensOf, tokenize_intercalate]
  · intro lead ss hlead hgap written plain
    have hwords : lowerWords (writeOut lead ss) = ss.map WrittenWord.word :=
      lowerWords_writeOut hlead hgap
    have htokens : tokenize (writeOut lead ss) =
        tokenize (" ".intercalate (ss.map WrittenWord.word)) := by
      rw [← hwords, tokenize_intercalate]
    have hverdict : written.verdict = plain.verdict := verdict_eq_of_tokenize_eq htokens
    refine ⟨?_, hverdict, ?_, ?_, ?_⟩
    · rw [words_analyze, Vocabulary.map_text_tokensOf, hwords]
    · rw [Analysis.phase, Analysis.phase, hverdict]
    · rw [(source_tokens_analyze _).2, (source_tokens_analyze _).2, htokens]
    · rw [Analysis.diagnostics, Analysis.diagnostics, hverdict]

/-- Words with capitals, with and without accents, and with blanks of several kinds. -/
def shouted : List WrittenWord :=
  [⟨"el", ⟨.article, by decide, by decide +kernel⟩, fun _ => true, "\t", by decide +kernel⟩,
   ⟨"niño", ⟨.noun, by decide, by decide +kernel⟩, fun i => i % 3 = 0, "\u00a0\n",
    by decide +kernel⟩,
   ⟨"ve", ⟨.verb, by decide, by decide +kernel⟩, fun _ => true, " ", by decide +kernel⟩,
   ⟨"árbol", ⟨.noun, by decide, by decide +kernel⟩, fun _ => true, "", by decide +kernel⟩]

/-- What is shouted is read as what is said. -/
theorem appearance_does_not_matter_of_shouted :
    writeOut "\u3000" shouted = "\u3000EL\tNiñO\u00a0\nVE ÁRBOL" ∧
      Text.isBlank "\u3000" = true ∧ (∀ s ∈ shouted.dropLast, s.gap ≠ "") ∧
        (analyze "\u3000EL\tNiñO\u00a0\nVE ÁRBOL").verdict =
          (analyze "el niño ve árbol").verdict := by
  have htext : writeOut "\u3000" shouted = "\u3000EL\tNiñO\u00a0\nVE ÁRBOL" := by decide +kernel
  have hplain : " ".intercalate (shouted.map WrittenWord.word) = "el niño ve árbol" := by
    decide +kernel
  have hlead : Text.isBlank "\u3000" = true := by decide +kernel
  have hgap : ∀ s ∈ shouted.dropLast, s.gap ≠ "" := by simp [shouted]
  obtain ⟨-, -, happearance⟩ := appearance_does_not_matter ""
  obtain ⟨-, hverdict, -⟩ := happearance "\u3000" shouted hlead hgap
  rw [htext, hplain] at hverdict
  exact ⟨htext, hlead, hgap, hverdict⟩

end Oracion
