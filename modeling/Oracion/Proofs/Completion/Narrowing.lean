import Oracion.Proofs.Completion.Acceptance

/-!
# Typing on

What has been typed of a word is put into lower case as a whole before it is compared, and the lower
case of a text need not start with that of its beginning: the small letter of a capital sigma at the
end changes when another letter follows.  So typing on can bring up words that were not offered
before, if words have sigmas in them.  The words that are offered by default have none, and for them
typing on only narrows the choice.  They also consist of letters that come back from their capitals,
so each of them is offered from its first letter to its last, whichever way these are typed.

## Main definitions

* `Text.withCapitals` — a text with capitals in given places.
* `completionLetters` — the characters of the words that are offered by default.

## Main results

* `Chars.lowerAfter_append` — without a capital sigma, lower case goes on where it stopped.
* `candidates_append_sublist` — **typing on narrows the choice**, where no word has a sigma.
* `perm_completionWords` — no word is offered by default for two reasons.
* `typing_narrows_completion` — **typing on narrows the choice, and never loses the word that is
  being typed.**
-/

namespace Oracion

open Vocabulary (spanish)

/-! ### The unfinished word of a longer text -/

theorem fragment_append {e : String} (he : ∀ c ∈ e.toList, Chars.isBlank c = false) (t : String) :
    fragment (t ++ e) = fragment t ++ e ∧ beforeFragment (t ++ e) = beforeFragment t := by
  have hsolid : ∀ c ∈ e.toList.reverse, (!Chars.isBlank c) = true := by
    intro c hc
    rw [he c (List.mem_reverse.mp hc)]
    rfl
  constructor <;> apply String.toList_inj.mp
  · rw [String.toList_append, toList_fragment, toList_fragment, String.toList_append,
      List.rtakeWhile, List.rtakeWhile, List.reverse_append, List.takeWhile_append_of_pos hsolid,
      List.reverse_append, List.reverse_reverse]
  · rw [toList_beforeFragment, toList_beforeFragment, String.toList_append, List.rdropWhile,
      List.rdropWhile, List.reverse_append, List.dropWhile_append_of_pos hsolid]

/-- At the start of a line and behind a blank a new word begins. -/
theorem fragment_of_getLast? {lead : String}
    (hlead : ∀ c ∈ lead.toList.getLast?, Chars.isBlank c = true) : fragment lead = "" := by
  apply String.toList_inj.mp
  rw [toList_fragment, String.toList_empty, List.rtakeWhile_eq_nil_iff]
  intro hne
  simp [hlead _ (List.getLast_mem_getLast? hne)]

/-! ### Lower case and what follows -/

namespace Chars

/-- **Without a capital sigma, lower case goes on where it stopped.** -/
theorem lowerAfter_append {u : List Char} (hu : capitalSigma ∉ u) (before v : List Char) :
    lowerAfter before (u ++ v) = lowerAfter before u ++ lowerAfter (u.reverse ++ before) v := by
  induction u generalizing before with
  | nil => rfl
  | cons c u ih =>
    rw [List.mem_cons, not_or] at hu
    rw [List.cons_append, lowerAfter_cons, lowerAfter_cons, if_neg (Ne.symm hu.1),
      if_neg (Ne.symm hu.1), ih hu.2, List.append_assoc, List.reverse_cons, List.append_assoc,
      List.singleton_append]

/-- A capital sigma leaves one of the small ones. -/
theorem smallSigma_mem_lowerAfter {cs : List Char} (h : capitalSigma ∈ cs) (before : List Char) :
    'σ' ∈ lowerAfter before cs ∨ 'ς' ∈ lowerAfter before cs := by
  induction cs generalizing before with
  | nil => exact absurd h List.not_mem_nil
  | cons c cs ih =>
    rw [lowerAfter_cons, List.mem_append, List.mem_append]
    rcases List.mem_cons.mp h with rfl | hmem
    · rw [if_pos rfl, smallSigma]
      split
      · exact .inr (.inl List.mem_cons_self)
      · exact .inl (.inl List.mem_cons_self)
    · rcases ih hmem (c :: before) with hsigma | hsigma
      · exact .inl (.inr hsigma)
      · exact .inr (.inr hsigma)

end Chars

/-- A word without sigmas that begins with the lower case of a text begins with that of any
beginning of the text. -/
theorem lower_prefix_of_append {w t e : String} (hw : 'σ' ∉ w.toList ∧ 'ς' ∉ w.toList)
    (h : (Text.lower (t ++ e)).toList <+: w.toList) : (Text.lower t).toList <+: w.toList := by
  rw [Text.toList_lower] at h ⊢
  have hsigma : Chars.capitalSigma ∉ t.toList := by
    intro hmem
    have hmem' : Chars.capitalSigma ∈ (t ++ e).toList := by
      rw [String.toList_append]
      exact List.mem_append_left _ hmem
    rcases Chars.smallSigma_mem_lowerAfter hmem' [] with hsmall | hsmall
    · exact hw.1 (h.subset hsmall)
    · exact hw.2 (h.subset hsmall)
  rw [String.toList_append, Chars.lower, Chars.lowerAfter_append hsigma] at h
  exact (List.prefix_append _ _).trans h

/-- **Typing on narrows the choice**, if none of the words has a sigma. -/
theorem candidates_append_sublist {words : List String}
    (hwords : ∀ w ∈ words, 'σ' ∉ w.toList ∧ 'ς' ∉ w.toList) {e : String}
    (he : ∀ c ∈ e.toList, Chars.isBlank c = false) (t : String) :
    (candidates words (t ++ e)).Sublist (candidates words t) := by
  have hnarrow : candidates words (t ++ e) = (candidates words t).filter fun w =>
      Text.startsWith w (Text.lower (fragment (t ++ e))) := by
    rw [candidates, candidates, List.filter_filter]
    apply List.filter_congr
    intro w hw
    rw [(fragment_append he t).1, Bool.eq_iff_iff, Bool.and_eq_true, Text.startsWith_iff,
      Text.startsWith_iff]
    constructor
    · intro h
      exact ⟨h, lower_prefix_of_append (hwords w hw) h⟩
    · intro h
      exact h.1
  rw [hnarrow]
  exact List.filter_sublist

/-- With sigmas it is otherwise: the last letter typed can be read in another way. -/
example : candidates ["ασα"] "ΑΣ" = [] ∧ candidates ["ασα"] "ΑΣΑ" = ["ασα"] := by decide +kernel

/-! ### The words that are offered by default -/

/-- **No word is offered by default for two reasons**: the words of the four categories and the
names of the commands are all different, so that putting them in order leaves out none. -/
theorem perm_completionWords :
    (Category.lexical.flatMap spanish.words ++ Command.listing.map Prod.fst).Nodup ∧
      completionWords.Perm
        (Category.lexical.flatMap spanish.words ++ Command.listing.map Prod.fst) := by
  have hnodup : (Category.lexical.flatMap spanish.words ++
      Command.listing.map Prod.fst).Nodup := by decide +kernel
  refine ⟨hnodup, ?_⟩
  rw [completionWords, List.perm_ext_iff_of_nodup (WordSet.nodup _) hnodup]
  intro w
  exact WordSet.mem_ofList

/-- The characters of the words that are offered by default. -/
def completionLetters : List Char := alphabet ++ [':', 'x']

theorem subset_completionLetters {w : String} (hw : w ∈ completionWords) :
    w.toList ⊆ completionLetters := by
  rcases mem_completionWords.mp hw with hknown | hcommand
  · exact List.subset_append_of_subset_left _ (subset_alphabet_of_knows hknown).2
  · have hall : ∀ w ∈ Command.listing.map Prod.fst, w.toList ⊆ completionLetters := by decide
    exact hall w hcommand

theorem bicameral_of_mem_completionLetters {c : Char} (h : c ∈ completionLetters) :
    Chars.Bicameral c := by
  rcases List.mem_append.mp h with hletter | hother
  · exact bicameral_of_mem_alphabet hletter
  · have hall : [':', 'x'].all (fun c => decide (Chars.Bicameral c)) = true := by decide +kernel
    exact of_decide_eq_true (List.all_eq_true.mp hall c hother)

/-! ### Words that are typed with capitals -/

/-- A text with capitals in given places, where a character has one. -/
def Text.withCapitals (isCapital : Nat → Bool) (s : String) : String :=
  String.ofList (s.toList.mapIdx fun i c => if isCapital i then Chars.capital c else c)

section Capitals

variable {s : String} (isCapital : Nat → Bool)

theorem readsAs_withCapitals (hs : ∀ c ∈ s.toList, Chars.Bicameral c) :
    ∀ c ∈ s.toList, ∀ i, Chars.ReadsAs (if isCapital i then Chars.capital c else c) c := by
  intro c hc i
  split
  · exact (hs c hc).2
  · exact (hs c hc).1

/-- A text comes back from its capitals. -/
theorem lower_withCapitals (hs : ∀ c ∈ s.toList, Chars.Bicameral c) :
    Text.lower (Text.withCapitals isCapital s) = s := by
  rw [Text.lower, Text.withCapitals, String.toList_ofList, Chars.lower,
    Chars.lowerAfter_mapIdx (readsAs_withCapitals isCapital hs), String.ofList_toList]

theorem isBlank_of_mem_withCapitals (hs : ∀ c ∈ s.toList, Chars.Bicameral c) :
    ∀ c ∈ (Text.withCapitals isCapital s).toList, Chars.isBlank c = false := by
  intro c hc
  rw [Text.withCapitals, String.toList_ofList] at hc
  obtain ⟨i, hi, rfl⟩ := List.mem_mapIdx.mp hc
  exact (readsAs_withCapitals isCapital hs _ (List.getElem_mem hi) i).1

/-- **A word is offered once from its first letter to its last**, whichever way these are typed. -/
theorem count_candidates {w u v lead : String} (hw : w ∈ completionWords) (hsplit : w = u ++ v)
    (hlead : ∀ c ∈ lead.toList.getLast?, Chars.isBlank c = true) :
    (candidates completionWords (lead ++ Text.withCapitals isCapital u)).count w = 1 := by
  have hletters : ∀ c ∈ u.toList, Chars.Bicameral c := by
    intro c hc
    apply bicameral_of_mem_completionLetters
    apply subset_completionLetters hw
    rw [hsplit, String.toList_append]
    exact List.mem_append_left _ hc
  have hfragment : fragment (lead ++ Text.withCapitals isCapital u) =
      Text.withCapitals isCapital u := by
    rw [(fragment_append (isBlank_of_mem_withCapitals isCapital hletters) lead).1,
      fragment_of_getLast? hlead, String.empty_append]
  have hstarts : Text.startsWith w (Text.lower (Text.withCapitals isCapital u)) = true := by
    rw [Text.startsWith_iff, lower_withCapitals isCapital hletters, hsplit, String.toList_append]
    exact List.prefix_append _ _
  obtain ⟨hnodup, hperm⟩ := perm_completionWords
  calc (candidates completionWords (lead ++ Text.withCapitals isCapital u)).count w
      = completionWords.count w := by
        rw [candidates, hfragment]
        exact List.count_filter hstarts
    _ = (Category.lexical.flatMap spanish.words ++ Command.listing.map Prod.fst).count w :=
        hperm.count_eq w
    _ = 1 := List.count_eq_one_of_mem hnodup (hperm.mem_iff.mp hw)

end Capitals

/-! ### Completion at the end of a line -/

theorem completeAt_endPos (words : List String) (line : String) :
    (completeAt words line.endPos).2 = candidates words line ∧
      (completeAt words line.endPos).1.offset = (beforeFragment line).rawEndPos := by
  have hsplits := String.splits_endPos line
  rw [completeAt_eq, EditLine.at, hsplits.copy_sliceTo_eq]
  exact ⟨rfl, (splits_wordStart hsplits).offset_eq_rawEndPos⟩

/-- **Typing on narrows the choice, and never loses the word that is being typed.**  With the
cursor at the end of a line, those of the default words are offered that begin with the lower case
of the unfinished word.  If characters other than blanks are typed, the words offered then are some
of those offered before, in the same order, and they go in at the same place.  Where a word begins, at the start of a line or behind a blank, each
word is offered once when any part of it from its start has been typed, with any letters of it as
capitals. -/
theorem typing_narrows_completion :
    (∀ line w : String, w ∈ (completeAt completionWords line.endPos).2 ↔
      w ∈ completionWords ∧ (Text.lower (fragment line)).toList <+: w.toList) ∧
    (∀ line e : String, (∀ c ∈ e.toList, Chars.isBlank c = false) →
      (completeAt completionWords (line ++ e).endPos).2.Sublist
          (completeAt completionWords line.endPos).2 ∧
        (completeAt completionWords (line ++ e).endPos).1.offset =
          (completeAt completionWords line.endPos).1.offset) ∧
    ∀ (w u v lead : String) (isCapital : Nat → Bool), w ∈ completionWords → w = u ++ v →
      (∀ c ∈ lead.toList.getLast?, Chars.isBlank c = true) →
        (completeAt completionWords
          (lead ++ Text.withCapitals isCapital u).endPos).2.count w = 1 := by
  have hsigma : ∀ w ∈ completionWords, 'σ' ∉ w.toList ∧ 'ς' ∉ w.toList := by
    have hletters : 'σ' ∉ completionLetters ∧ 'ς' ∉ completionLetters := by decide
    intro w hw
    have hsubset := subset_completionLetters hw
    exact ⟨fun h => hletters.1 (hsubset h), fun h => hletters.2 (hsubset h)⟩
  refine ⟨?_, ?_, ?_⟩
  · intro line w
    rw [(completeAt_endPos completionWords line).1, mem_candidates]
  · intro line e he
    obtain ⟨hoffered, hstart⟩ := completeAt_endPos completionWords line
    obtain ⟨hoffered', hstart'⟩ := completeAt_endPos completionWords (line ++ e)
    rw [hoffered, hoffered', hstart, hstart', (fragment_append he line).2]
    exact ⟨candidates_append_sublist hsigma he line, rfl⟩
  · intro w u v lead isCapital hw hsplit hlead
    rw [(completeAt_endPos completionWords _).1]
    exact count_candidates isCapital hw hsplit hlead

/-- A word with an accent and a capital behind a blank of two bytes, one letter more of it, and
another word, which is not offered there. -/
theorem typing_narrows_completion_of_accent :
    "árbol" ∈ completionWords ∧ Chars.isBlank '\u00a0' = true ∧
      Text.withCapitals (· == 0) "ár" = "Ár" ∧
        (completeAt completionWords "el\u00a0Ár".endPos).2.count "árbol" = 1 ∧
          (completeAt completionWords ("el\u00a0Ár" ++ "B").endPos).2.Sublist
            (completeAt completionWords "el\u00a0Ár".endPos).2 ∧
            "perro" ∉ (completeAt completionWords "el\u00a0Ár".endPos).2 := by
  have hmem : "árbol" ∈ completionWords :=
    mem_completionWords.mpr (.inl ⟨.noun, by decide, by decide +kernel⟩)
  have hblank : Chars.isBlank '\u00a0' = true := by decide
  have htyped : Text.withCapitals (· == 0) "ár" = "Ár" := by decide
  have hsplit : "árbol" = "ár" ++ "bol" := by decide +kernel
  have hlead : ∀ c ∈ "el\u00a0".toList.getLast?, Chars.isBlank c = true := by
    rintro c ⟨⟩
    exact hblank
  have hsolid : ∀ c ∈ "B".toList, Chars.isBlank c = false :=
    List.forall_mem_singleton.mpr (by decide)
  have hline : "el\u00a0" ++ "Ár" = "el\u00a0Ár" := by decide +kernel
  obtain ⟨hoffered, hnarrows, hoffers⟩ := typing_narrows_completion
  have honce := hoffers "árbol" "ár" "bol" "el\u00a0" (· == 0) hmem hsplit hlead
  rw [htyped, hline] at honce
  refine ⟨hmem, hblank, htyped, honce, (hnarrows "el\u00a0Ár" "B" hsolid).1, ?_⟩
  rw [hoffered]
  rintro ⟨-, hprefix⟩
  exact absurd hprefix (by decide +kernel)

end Oracion
