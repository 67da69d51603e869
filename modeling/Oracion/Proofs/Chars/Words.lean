import Mathlib.Data.List.DropRight
import Oracion.Chars.Pieces

/-!
# Words and blanks

How splitting goes with putting texts together: a blank falls between pieces, and a text
without blanks is one word.  Blanks around a text are no part of its words, so the words
of a text are its first word and the words of the rest.

## Main results

* `words_append_blank` — a blank between two texts keeps their words apart.
* `words_of_not_blank` — a text without blanks is one word.
* `words_trim` — blanks around a text do not change its words.
* `words_eq_cons` — the first word of a text and the rest.
* `trim_of_words_singleton` — a text of one word is that word, blanks around it aside.
-/

namespace Oracion
namespace Chars

variable {b c : Char} {u v w : List Char}

theorem consPiece_of_blank (hc : isBlank c = true) (ps : List Piece) :
    consPiece c ps = .blank c :: ps := by
  unfold consPiece
  rw [if_pos hc]

/-- A character joins what comes before a blank, or stands alone there. -/
theorem consPiece_append_blank (c b : Char) (ps qs : List Piece) :
    consPiece c (ps ++ .blank b :: qs) = consPiece c ps ++ .blank b :: qs := by
  unfold consPiece
  split
  · rfl
  · rcases ps with _ | ⟨_ | _, ps⟩ <;> rfl

/-- A blank is a piece of its own between the pieces on either side. -/
theorem pieces_append_blank (hb : isBlank b = true) (u v : List Char) :
    pieces (u ++ b :: v) = pieces u ++ .blank b :: pieces v := by
  induction u with
  | nil => rw [List.nil_append, pieces_cons, pieces_nil, List.nil_append, consPiece_of_blank hb]
  | cons c u ih => rw [List.cons_append, pieces_cons, pieces_cons, ih, consPiece_append_blank]

/-- **A blank between two texts keeps their words apart.** -/
theorem words_append_blank (hb : isBlank b = true) (u v : List Char) :
    words (u ++ b :: v) = words u ++ words v := by
  rw [words, pieces_append_blank hb, List.filterMap_append]
  rfl

/-- A text without blanks that is not empty is one piece. -/
theorem pieces_of_not_blank : ∀ (u : List Char) (c : Char),
    (∀ d ∈ c :: u, isBlank d = false) → pieces (c :: u) = [.word (c :: u)] := by
  intro u
  induction u with
  | nil =>
    intro c h
    have hc : isBlank c = false := h c (List.mem_singleton.mpr rfl)
    simp [consPiece, hc]
  | cons d u ih =>
    intro c h
    have hc : isBlank c = false := h c (List.mem_cons_self ..)
    rw [pieces_cons, ih d fun e he => h e (List.mem_cons_of_mem c he)]
    simp [consPiece, hc]

/-- **A text without blanks is one word**, unless it is empty. -/
theorem words_of_not_blank (hu : ∀ c ∈ u, isBlank c = false) :
    words u = if u = [] then [] else [u] := by
  cases u with
  | nil => rfl
  | cons c u =>
    rw [words, pieces_of_not_blank u c hu, if_neg (List.cons_ne_nil c u)]
    rfl

/-! ### The first word -/

theorem words_cons_blank (hb : isBlank b = true) (v : List Char) : words (b :: v) = words v :=
  words_append_blank hb [] v

/-- **The words of a text that starts with no blank are its first word and the words of
the rest.** -/
theorem words_eq_cons (hc : isBlank c = false) (u : List Char) :
    words (c :: u) =
      (c :: u).takeWhile (fun d => !isBlank d) ::
        words ((c :: u).dropWhile fun d => !isBlank d) := by
  have hsplit := List.takeWhile_append_dropWhile (p := fun d => !isBlank d) (l := c :: u)
  have hword : words ((c :: u).takeWhile fun d => !isBlank d) =
      [(c :: u).takeWhile fun d => !isBlank d] := by
    rw [words_of_not_blank, if_neg]
    · simp [hc]
    · intro d hd
      simpa using List.mem_takeWhile_imp hd
  -- what follows the first word is nothing, or starts with a blank
  cases hrest : (c :: u).dropWhile fun d => !isBlank d with
  | nil =>
    rw [hrest, List.append_nil] at hsplit
    rw [hsplit] at hword ⊢
    exact hword
  | cons b v =>
    have hb : isBlank b = true := by
      have h := List.head?_dropWhile_not (fun d => !isBlank d) (c :: u)
      simpa [hrest] using h
    rw [hrest] at hsplit
    rw [← hsplit, words_append_blank hb, words_cons_blank hb, hsplit, hword]
    rfl

/-- A text has no words if it is blank, and only then. -/
theorem words_eq_nil_iff : words u = [] ↔ ∀ c ∈ u, isBlank c = true := by
  induction u with
  | nil => simp
  | cons c u ih =>
    cases hc : isBlank c with
    | false => simp [words_eq_cons hc, hc]
    | true => rw [words_cons_blank hc, ih, List.forall_mem_cons, and_iff_right hc]

/-! ### Blanks around a text -/

theorem words_append_blanks (hv : ∀ c ∈ v, isBlank c = true) (u : List Char) :
    words (u ++ v) = words u := by
  cases v with
  | nil => rw [List.append_nil]
  | cons b v =>
    have hrest : words v = [] := words_eq_nil_iff.mpr fun c hc => hv c (List.mem_cons_of_mem b hc)
    rw [words_append_blank (hv b (List.mem_cons_self ..)), hrest, List.append_nil]

theorem words_trimStart (u : List Char) : words (trimStart u) = words u := by
  induction u with
  | nil => rfl
  | cons c u ih =>
    rw [trimStart_cons]
    split
    · next hc => rw [ih, words_cons_blank hc]
    · rfl

theorem words_trimEnd (u : List Char) : words (trimEnd u) = words u := by
  have hsplit := List.rdropWhile_append_rtakeWhile (p := isBlank) (l := u)
  have hblank : ∀ c ∈ u.rtakeWhile isBlank, isBlank c = true :=
    fun c hc => List.mem_rtakeWhile_imp hc
  calc words (u.rdropWhile isBlank)
      = words (u.rdropWhile isBlank ++ u.rtakeWhile isBlank) := (words_append_blanks hblank _).symm
    _ = words u := by rw [hsplit]

/-- **Blanks around a text do not change its words.** -/
theorem words_trim (u : List Char) : words (trim u) = words u := by
  rw [trim, words_trimEnd, words_trimStart]

/-- What is left after trimming starts with no blank. -/
theorem not_isBlank_of_trim_eq_cons (h : trim u = c :: v) : isBlank c = false := by
  obtain ⟨t, ht⟩ : trim u <+: trimStart u := List.rdropWhile_prefix isBlank (trimStart u)
  have hhead := List.head?_dropWhile_not isBlank u
  rw [← trimStart, ← ht, h] at hhead
  exact hhead

/-- What is left after trimming ends with no blank. -/
theorem eq_nil_of_trim_eq_append (h : trim w = u ++ v) (hv : ∀ c ∈ v, isBlank c = true) :
    v = [] := by
  by_contra hne
  have htrim : trim w ≠ [] := by simp [h, hne]
  have hlast : ¬isBlank ((trim w).getLast htrim) := List.rdropWhile_last_not isBlank _ htrim
  simp only [h, List.getLast_append_of_ne_nil _ hne] at hlast
  exact hlast (hv _ (List.getLast_mem hne))

/-- **A text of one word is that word, blanks around it aside.** -/
theorem trim_of_words_singleton (h : words u = [w]) : trim u = w := by
  rw [← words_trim] at h
  cases htrim : trim u with
  | nil => simp [htrim] at h
  | cons c v =>
    rw [htrim, words_eq_cons (not_isBlank_of_trim_eq_cons htrim)] at h
    obtain ⟨hword, hrest⟩ := List.cons.inj h
    have hsplit := List.takeWhile_append_dropWhile (p := fun d => !isBlank d) (l := c :: v)
    have hnil := eq_nil_of_trim_eq_append (htrim.trans hsplit.symm) (words_eq_nil_iff.mp hrest)
    rw [← hsplit, hnil, hword, List.append_nil]

/-- To consist of one given word is to be that word after trimming. -/
theorem words_eq_singleton_iff (hne : w ≠ []) (hw : ∀ c ∈ w, isBlank c = false) :
    words u = [w] ↔ trim u = w := by
  constructor
  · exact trim_of_words_singleton
  · intro h
    rw [← words_trim, h, words_of_not_blank hw, if_neg hne]

end Chars
end Oracion
