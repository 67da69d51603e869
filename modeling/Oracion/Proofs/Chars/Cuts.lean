import Oracion.Proofs.Chars.Lines

/-!
# Cutting a text between words

A text can be cut at a blank without cutting a word: the words of the whole are those of the two
parts.  One cut stands out, the one around the first word.  There is blank text before it, and
what follows starts with a blank or is empty.

## Main definitions

* `Text.firstWord`, `Text.remainder` — the first word of a text, and what follows it without the
  blanks around.
* `Text.Opens s lead word rest` — the text `s` opens with the word `word`, after blanks.

## Main results

* `Chars.takeWhile_dropWhile_append` — a text falls apart where its characters change in kind.
* `Text.words_append_of_head?`, `Text.words_append_of_getLast?` — **a cut at a blank cuts no word.**
* `Text.exists_opens` — every text that is not blank opens with a word.
* `Text.firstWord_remainder_pad` — blanks around a text make no difference to its first word and to
  what follows.
* `Text.firstWord_remainder_gap` — nor do the blanks between the two.
-/

namespace Oracion
namespace Chars

variable {u v w : List Char}

/-! ### Trimming -/

theorem trim_append_blanks (hv : ∀ c ∈ v, isBlank c = true) (u : List Char) :
    trim (u ++ v) = trim u := by
  induction v generalizing u with
  | nil => rw [List.append_nil]
  | cons b v ih =>
    obtain ⟨hb, hv⟩ := List.forall_mem_cons.mp hv
    rw [List.append_cons, ih hv, trim_append_blank hb]

theorem trim_blanks_append (hu : ∀ c ∈ u, isBlank c = true) (v : List Char) :
    trim (u ++ v) = trim v := by
  rw [trim, trim, trimStart, trimStart, List.dropWhile_append_of_pos hu]

theorem trim_trimEnd (u : List Char) : trim (trimEnd u) = trim u := by
  have hblank : ∀ c ∈ u.rtakeWhile isBlank, isBlank c = true :=
    fun c hc => List.mem_rtakeWhile_imp hc
  calc trim (u.rdropWhile isBlank)
      = trim (u.rdropWhile isBlank ++ u.rtakeWhile isBlank) := (trim_append_blanks hblank _).symm
    _ = trim u := by rw [List.rdropWhile_append_rtakeWhile]

/-- A text is trimmed at its end behind what has no blanks. -/
theorem trimEnd_append (hw : ∀ c ∈ w, isBlank c = false) (v : List Char) :
    trimEnd (w ++ v) = w ++ trimEnd v := by
  have hself : w.reverse.dropWhile isBlank = w.reverse := by
    cases h : w.reverse with
    | nil => rfl
    | cons c cs =>
      have hc : isBlank c = false := hw c (List.mem_reverse.mp (h ▸ List.mem_cons_self))
      rw [List.dropWhile_cons_of_neg (by simp [hc])]
  rw [trimEnd, trimEnd, List.reverse_append, List.dropWhile_append]
  split
  · next hnil =>
    rw [List.isEmpty_iff.mp hnil, hself, List.reverse_reverse, List.reverse_nil, List.append_nil]
  · rw [List.reverse_append, List.reverse_reverse]

theorem isBlank_of_mem_head?_trimEnd (hv : ∀ c ∈ v.head?, isBlank c = true) :
    ∀ c ∈ (trimEnd v).head?, isBlank c = true := by
  intro c hc
  obtain ⟨t, ht⟩ : trimEnd v <+: v := List.rdropWhile_prefix isBlank v
  apply hv
  rw [← ht, List.head?_append, hc]
  rfl

/-! ### Runs of one kind -/

/-- Where a text changes from characters of one kind to one of another kind, it can be taken
apart. -/
theorem takeWhile_dropWhile_append {p : Char → Bool} (hu : ∀ c ∈ u, p c = true)
    (hv : ∀ c ∈ v.head?, p c = false) :
    (u ++ v).takeWhile p = u ∧ (u ++ v).dropWhile p = v := by
  rw [List.takeWhile_append_of_pos hu, List.dropWhile_append_of_pos hu]
  cases v with
  | nil => exact ⟨List.append_nil u, rfl⟩
  | cons c v =>
    have hc : ¬ p c = true := by
      rw [hv c rfl]
      exact Bool.false_ne_true
    rw [List.takeWhile_cons_of_neg hc, List.dropWhile_cons_of_neg hc, List.append_nil]
    exact ⟨rfl, rfl⟩

/-- A run of characters without blanks ends where a blank comes, or the text. -/
theorem span_append (hw : ∀ c ∈ w, isBlank c = false) (hv : ∀ c ∈ v.head?, isBlank c = true) :
    (w ++ v).takeWhile (fun c => !isBlank c) = w ∧
      (w ++ v).dropWhile (fun c => !isBlank c) = v := by
  apply takeWhile_dropWhile_append
  · simpa using hw
  · simpa using hv

end Chars

namespace Text

variable {s t lead word rest : String}

/-! ### Cuts at blanks -/

theorem isBlank_iff : isBlank s = true ↔ ∀ c ∈ s.toList, Chars.isBlank c = true := List.all_eq_true

theorem isBlank_append (hs : isBlank s = true) (ht : isBlank t = true) :
    isBlank (s ++ t) = true := by
  rw [isBlank, String.toList_append, List.all_append]
  exact Bool.and_eq_true_iff.mpr ⟨hs, ht⟩

theorem words_of_isBlank (hs : isBlank s = true) : words s = [] := by
  rw [words, Chars.words_eq_nil_iff.mpr (isBlank_iff.mp hs), List.map_nil]

/-- A text without blanks that is not empty is one word. -/
theorem words_of_not_blank (hne : word.toList ≠ [])
    (hword : ∀ c ∈ word.toList, Chars.isBlank c = false) : words word = [word] := by
  rw [words, Chars.words_of_not_blank hword, if_neg hne, List.map_singleton, String.ofList_toList]

/-- **A cut in front of a blank cuts no word.** -/
theorem words_append_of_head? (ht : ∀ c ∈ t.toList.head?, Chars.isBlank c = true) :
    words (s ++ t) = words s ++ words t := by
  rw [words, words, words, String.toList_append, ← List.map_append]
  cases h : t.toList with
  | nil => rw [List.append_nil, Chars.words_nil, List.append_nil]
  | cons b v =>
    have hb : Chars.isBlank b = true := ht b (by rw [h]; rfl)
    rw [Chars.words_append_blank hb, Chars.words_cons_blank hb]

/-- **A cut behind a blank cuts no word.** -/
theorem words_append_of_getLast? (hs : ∀ c ∈ s.toList.getLast?, Chars.isBlank c = true) :
    words (s ++ t) = words s ++ words t := by
  rw [words, words, words, String.toList_append, ← List.map_append]
  rcases List.eq_nil_or_concat' s.toList with h | ⟨u, b, h⟩
  · rw [h, Chars.words_nil, List.nil_append, List.nil_append]
  · have hb : Chars.isBlank b = true := hs b (by rw [h, List.getLast?_concat]; rfl)
    rw [h, List.append_assoc, List.singleton_append, Chars.words_append_blank hb,
      Chars.words_append_blank hb, Chars.words_nil, List.append_nil]

theorem words_append_of_isBlank (hs : isBlank s = true) (t : String) :
    words (s ++ t) = words t := by
  have hlast : ∀ c ∈ s.toList.getLast?, Chars.isBlank c = true :=
    fun c hc => isBlank_iff.mp hs c (List.mem_of_mem_getLast? hc)
  rw [words_append_of_getLast? hlast, words_of_isBlank hs, List.nil_append]

/-! ### The first word -/

/-- The first word of a text; nothing if the text is blank. -/
def firstWord (s : String) : String := (words s).headD ""

/-- What follows the first word of a text, without the blanks around it. -/
def remainder (s : String) : String :=
  trim (String.ofList ((Chars.trimStart s.toList).drop (firstWord s).length))

theorem trim_remainder (s : String) : trim (remainder s) = remainder s := trim_trim _

/-- The text `s` opens with the word `word`: blanks stand before it, and what follows it starts with
a blank if there is anything. -/
structure Opens (s lead word rest : String) : Prop where
  /-- The parts make up the text. -/
  joined : s = lead ++ word ++ rest
  /-- Nothing but blanks stands before the word. -/
  blank : isBlank lead = true
  /-- The word has characters. -/
  ne_nil : word.toList ≠ []
  /-- None of them is blank. -/
  solid : ∀ c ∈ word.toList, Chars.isBlank c = false
  /-- The word ends there. -/
  ends : ∀ c ∈ rest.toList.head?, Chars.isBlank c = true

/-- **Every text that is not blank opens with a word.** -/
theorem exists_opens (h : isBlank s = false) : ∃ lead word rest, Opens s lead word rest := by
  have hsplit := List.takeWhile_append_dropWhile (p := Chars.isBlank) (l := s.toList)
  have hne : s.toList.dropWhile Chars.isBlank ≠ [] := by
    intro hnil
    rw [isBlank, List.all_eq_true.mpr (List.dropWhile_eq_nil_iff.mp hnil)] at h
    cases h
  obtain ⟨c, cs, hcs⟩ := List.exists_cons_of_ne_nil hne
  have hc : Chars.isBlank c = false := by
    have hhead := List.head?_dropWhile_not Chars.isBlank s.toList
    rwa [hcs] at hhead
  have hcut := List.takeWhile_append_dropWhile (p := fun d => !Chars.isBlank d) (l := c :: cs)
  refine ⟨.ofList (s.toList.takeWhile Chars.isBlank),
    .ofList ((c :: cs).takeWhile fun d => !Chars.isBlank d),
    .ofList ((c :: cs).dropWhile fun d => !Chars.isBlank d), ?_, ?_, ?_, ?_, ?_⟩
  · apply String.toList_inj.mp
    simp only [String.toList_append, String.toList_ofList]
    rw [List.append_assoc, hcut, ← hcs, hsplit]
  · rw [isBlank_iff, String.toList_ofList]
    exact fun d hd => List.mem_takeWhile_imp hd
  · simp [hc]
  · intro d hd
    rw [String.toList_ofList] at hd
    simpa using List.mem_takeWhile_imp hd
  · intro d hd
    rw [String.toList_ofList] at hd
    have hhead := List.head?_dropWhile_not (fun d => !Chars.isBlank d) (c :: cs)
    rw [hd] at hhead
    simpa using hhead

namespace Opens

theorem trimStart_eq (h : Opens s lead word rest) :
    Chars.trimStart s.toList = word.toList ++ rest.toList := by
  have hstart : ∀ c ∈ (word.toList ++ rest.toList).head?, Chars.isBlank c = false := by
    intro c hc
    rw [List.head?_append_of_ne_nil _ h.ne_nil] at hc
    exact h.solid c (List.mem_of_mem_head? hc)
  rw [h.joined, String.toList_append, String.toList_append, List.append_assoc, Chars.trimStart,
    List.dropWhile_append_of_pos (isBlank_iff.mp h.blank)]
  exact Chars.trimStart_eq_self hstart

theorem words_eq (h : Opens s lead word rest) : words s = word :: words rest := by
  rw [h.joined, words_append_of_head? h.ends, words_append_of_isBlank h.blank,
    words_of_not_blank h.ne_nil h.solid, List.singleton_append]

@[simp] theorem firstWord_eq (h : Opens s lead word rest) : firstWord s = word := by
  rw [firstWord, h.words_eq, List.headD_cons]

@[simp] theorem remainder_eq (h : Opens s lead word rest) : remainder s = trim rest := by
  have hlength : word.length = word.toList.length := String.length_toList.symm
  rw [remainder, h.firstWord_eq, h.trimStart_eq, hlength, List.drop_left, String.ofList_toList]

/-- Blanks around a text stand before its first word and at the end of what follows. -/
theorem pad {p q : String} (h : Opens s lead word rest) (hp : isBlank p = true)
    (hq : isBlank q = true) : Opens (p ++ s ++ q) (p ++ lead) word (rest ++ q) where
  joined := by simp only [h.joined, String.append_assoc]
  blank := isBlank_append hp h.blank
  ne_nil := h.ne_nil
  solid := h.solid
  ends := by
    intro c hc
    rw [String.toList_append, List.head?_append] at hc
    cases hrest : rest.toList.head? with
    | none =>
      rw [hrest] at hc
      exact isBlank_iff.mp hq c (List.mem_of_mem_head? hc)
    | some b =>
      rw [hrest] at hc
      exact h.ends c (hrest.trans hc)

/-- A blank ends the first word, so what follows the blank belongs to the rest. -/
theorem gap {gap t : String} (h : Opens s lead word rest) (hrest : isBlank rest = true)
    (hgap : isBlank gap = true) (hne : gap ≠ "") :
    Opens (s ++ gap ++ t) lead word (rest ++ gap ++ t) where
  joined := by simp only [h.joined, String.append_assoc]
  blank := h.blank
  ne_nil := h.ne_nil
  solid := h.solid
  ends := by
    have hblank : isBlank (rest ++ gap) = true := isBlank_append hrest hgap
    have hne' : (rest ++ gap).toList ≠ [] := by simp [hne]
    intro c hc
    rw [String.toList_append, List.head?_append_of_ne_nil _ hne'] at hc
    exact isBlank_iff.mp hblank c (List.mem_of_mem_head? hc)

end Opens

/-- A blank text has no first word, and nothing after it. -/
theorem firstWord_of_isBlank (h : isBlank s = true) : firstWord s = "" ∧ remainder s = "" := by
  have hstart : Chars.trimStart s.toList = [] := List.dropWhile_eq_nil_iff.mpr (isBlank_iff.mp h)
  constructor
  · rw [firstWord, words_of_isBlank h, List.headD_nil]
  · rw [remainder, hstart, List.drop_nil]
    rfl

theorem trim_append_of_isBlank (ht : isBlank t = true) (s : String) : trim (s ++ t) = trim s := by
  rw [trim, trim, String.toList_append, Chars.trim_append_blanks (isBlank_iff.mp ht)]

theorem trim_blank_append (hs : isBlank s = true) (t : String) : trim (s ++ t) = trim t := by
  rw [trim, trim, String.toList_append, Chars.trim_blanks_append (isBlank_iff.mp hs)]

/-- **Blanks around a text change neither its first word nor what follows it.** -/
theorem firstWord_remainder_pad {p q : String} (hp : isBlank p = true) (hq : isBlank q = true)
    (s : String) :
    firstWord (p ++ s ++ q) = firstWord s ∧ remainder (p ++ s ++ q) = remainder s := by
  cases hs : isBlank s with
  | true =>
    obtain ⟨hword, hrest⟩ := firstWord_of_isBlank (isBlank_append (isBlank_append hp hs) hq)
    obtain ⟨hword', hrest'⟩ := firstWord_of_isBlank hs
    exact ⟨hword.trans hword'.symm, hrest.trans hrest'.symm⟩
  | false =>
    obtain ⟨lead, word, rest, h⟩ := exists_opens hs
    have hpad := h.pad hp hq
    exact ⟨hpad.firstWord_eq.trans h.firstWord_eq.symm,
      by rw [hpad.remainder_eq, h.remainder_eq, trim_append_of_isBlank hq]⟩

/-- **What follows the first word is the same after any blanks.** -/
theorem firstWord_remainder_gap {u gap : String} (hu : (words u).length = 1)
    (hgap : isBlank gap = true) (hne : gap ≠ "") (t : String) :
    firstWord (u ++ gap ++ t) = firstWord u ∧ remainder (u ++ gap ++ t) = trim t := by
  cases hs : isBlank u with
  | true =>
    rw [words_of_isBlank hs] at hu
    cases hu
  | false =>
    obtain ⟨lead, word, rest, h⟩ := exists_opens hs
    have hrest : isBlank rest = true := by
      rw [h.words_eq, List.length_cons, Nat.add_eq_right, List.length_eq_zero_iff, words,
        List.map_eq_nil_iff, Chars.words_eq_nil_iff] at hu
      exact isBlank_iff.mpr hu
    have hopens := h.gap hrest hgap hne (t := t)
    exact ⟨hopens.firstWord_eq.trans h.firstWord_eq.symm,
      by rw [hopens.remainder_eq, trim_blank_append (isBlank_append hrest hgap)]⟩

end Text
end Oracion
