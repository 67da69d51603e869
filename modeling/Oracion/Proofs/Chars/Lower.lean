import Oracion.Chars.Lower
import Oracion.Proofs.Chars.Words
import Oracion.Text

/-!
# Lower case and words

A text can be put into lower case and then split into words, or split first: the words
are the same.  Three facts about blanks make this so, and each is read off the tables of
the character database.  A blank has no other small letter, and is none; it is not cased;
and casing does not look past it.  So a capital sigma sees no further than its word.

## Main definitions

* `Class.apart` — no character belongs to two classes, as a test of their ranges.

## Main results

* `lower_append_blank` — the texts on either side of a blank are lowered on their own.
* `words_lower` — **the words of the lower case are the lower cases of the words.**
-/

namespace Oracion
namespace Chars

/-! ### Classes that have nothing in common -/

/-- Whether one of two ranges ends before the other starts. -/
def Range.apart (r s : Range) : Bool := r.last < s.first || s.last < r.first

/-- Whether every range of one class is apart from every range of the other. -/
def Class.apart (k l : Class) : Bool := k.all fun r => l.all r.apart

theorem Range.not_mem_of_apart {r s : Range} {n : Nat} (h : r.apart s = true)
    (hr : r.first ≤ n ∧ n ≤ r.last) : ¬ (s.first ≤ n ∧ n ≤ s.last) := by
  simp only [Range.apart, Bool.or_eq_true, decide_eq_true_eq] at h
  omega

theorem Class.apart_iff {k l : Class} :
    k.apart l = true ↔ ∀ r ∈ k, ∀ s ∈ l, r.apart s = true := by
  simp [Class.apart]

/-- A character of a class is in no class that is apart from it. -/
theorem Class.holds_eq_false_of_apart {k l : Class} {c : Char} (h : k.apart l = true)
    (hc : k.holds c = true) : l.holds c = false := by
  obtain ⟨r, hr, hrc⟩ := Class.holds_iff.mp hc
  rw [Bool.eq_false_iff]
  intro hl
  obtain ⟨s, hs, hsc⟩ := Class.holds_iff.mp hl
  exact Range.not_mem_of_apart (Class.apart_iff.mp h r hr s hs) hrc hsc

/-! ### Blanks in the tables -/

/-- No blank is a cased letter. -/
theorem cased_of_blank {c : Char} (hc : isBlank c = true) : cased.holds c = false :=
  Class.holds_eq_false_of_apart (by decide +kernel) hc

/-- Casing does not look past a blank. -/
theorem caseIgnorable_of_blank {c : Char} (hc : isBlank c = true) :
    caseIgnorable.holds c = false :=
  Class.holds_eq_false_of_apart (by decide +kernel) hc

/-- The range in which a run has its capitals. -/
def CaseRun.capitals (r : CaseRun) : Range := ⟨r.first, r.last⟩

/-- The range in which a run has its small letters. -/
def CaseRun.smalls (r : CaseRun) : Range := ⟨r.small, r.small + (r.last - r.first)⟩

/-- The capitals and the small letters of all runs are apart from the blanks. -/
theorem apart_blanks_lowerRuns :
    (blanks : Class).apart (lowerRuns.map CaseRun.capitals) = true ∧
      (blanks : Class).apart (lowerRuns.map CaseRun.smalls) = true := by
  constructor <;> decide +kernel

/-- A character number is kept, or it is covered by a run and goes to its image. -/
theorem smallCode_cases (n : Nat) :
    smallCode n = n ∨ ∃ r ∈ lowerRuns, r.covers n = true ∧ smallCode n = r.image n := by
  unfold smallCode
  split
  · next r h =>
    have hcovers := List.find?_some h
    exact .inr ⟨r, List.mem_of_find?_eq_some h, hcovers, rfl⟩
  · exact .inl rfl

theorem CaseRun.mem_capitals {r : CaseRun} {n : Nat} (h : r.covers n = true) :
    r.capitals.first ≤ n ∧ n ≤ r.capitals.last := by
  simp only [CaseRun.covers, Bool.and_eq_true, decide_eq_true_eq] at h
  exact h.1

theorem CaseRun.mem_smalls {r : CaseRun} {n : Nat} (h : r.covers n = true) :
    r.smalls.first ≤ r.image n ∧ r.image n ≤ r.smalls.last := by
  obtain ⟨-, hlast⟩ := CaseRun.mem_capitals h
  simp only [CaseRun.capitals] at hlast
  simp only [CaseRun.smalls, CaseRun.image]
  omega

/-- A blank is its own lower case. -/
theorem small_of_blank {c : Char} (hc : isBlank c = true) : small c = [c] := by
  have hcode : smallCode c.toNat = c.toNat := by
    rcases smallCode_cases c.toNat with h | ⟨r, hr, hcovers, -⟩
    · exact h
    · obtain ⟨b, hb, hbc⟩ := Class.holds_iff.mp hc
      have hapart := Class.apart_iff.mp apart_blanks_lowerRuns.1 b hb r.capitals
        (List.mem_map_of_mem hr)
      exact absurd (CaseRun.mem_capitals hcovers) (Range.not_mem_of_apart hapart hbc)
  have hdot : c ≠ 'İ' := by
    rintro rfl
    exact absurd hc (by decide)
  rw [small, if_neg hdot, hcode, Char.ofNat_toNat]

/-- A number outside the characters stands for the character zero. -/
theorem toNat_ofNat_cases (n : Nat) : (Char.ofNat n).toNat = n ∨ (Char.ofNat n).toNat = 0 := by
  by_cases h : n.isValidChar
  · rw [Char.ofNat, dif_pos h]
    exact .inl rfl
  · rw [Char.ofNat, dif_neg h]
    exact .inr rfl

/-- The lower case of a character that is not blank has no blank. -/
theorem isBlank_of_mem_small {c d : Char} (hc : isBlank c = false) (hd : d ∈ small c) :
    isBlank d = false := by
  unfold small at hd
  split at hd
  · simp only [List.mem_cons, List.not_mem_nil, or_false] at hd
    rcases hd with rfl | rfl <;> decide
  · rw [List.mem_singleton] at hd
    rw [Bool.eq_false_iff]
    intro hblank
    obtain ⟨b, hb, hbd⟩ := Class.holds_iff.mp hblank
    rcases toNat_ofNat_cases (smallCode c.toNat) with hcode | hzero
    · rw [hd, hcode] at hbd
      rcases smallCode_cases c.toNat with hkept | ⟨r, hr, hcovers, himage⟩
      · -- the character is its own small letter, so it would be blank itself
        rw [hkept] at hbd
        exact Bool.eq_false_iff.mp hc (Class.holds_iff.mpr ⟨b, hb, hbd⟩)
      · have hapart := Class.apart_iff.mp apart_blanks_lowerRuns.2 b hb r.smalls
          (List.mem_map_of_mem hr)
        rw [himage] at hbd
        exact Range.not_mem_of_apart hapart hbd (CaseRun.mem_smalls hcovers)
    · have hpos : ∀ r ∈ blanks, 0 < r.first := by decide
      rw [hd, hzero] at hbd
      exact absurd hbd.1 (Nat.not_le_of_lt (hpos b hb))

/-! ### Blanks end the view of a sigma -/

theorem meetsCased_cons (c : Char) (cs : List Char) :
    meetsCased (c :: cs) =
      if caseIgnorable.holds c = true then meetsCased cs else cased.holds c := by
  unfold meetsCased
  rw [List.dropWhile_cons]
  cases caseIgnorable.holds c <;> rfl

/-- What is beyond a blank does not count. -/
theorem meetsCased_append_blank {b : Char} (hb : isBlank b = true) (u v : List Char) :
    meetsCased (u ++ b :: v) = meetsCased u := by
  induction u with
  | nil =>
    rw [List.nil_append, meetsCased_cons, caseIgnorable_of_blank hb, cased_of_blank hb]
    rfl
  | cons c u ih => rw [List.cons_append, meetsCased_cons, meetsCased_cons, ih]

/-- A text is lowered as if it started after the last blank before it. -/
theorem lowerAfter_append_blank {b : Char} (hb : isBlank b = true) (before beyond : List Char)
    (cs : List Char) : lowerAfter (before ++ b :: beyond) cs = lowerAfter before cs := by
  induction cs generalizing before with
  | nil => rfl
  | cons c cs ih =>
    rw [lowerAfter_cons, lowerAfter_cons, smallSigma, smallSigma, endsWord, endsWord,
      meetsCased_append_blank hb, ← List.cons_append, ih]

/-- What stands before a blank is lowered without regard to what follows, and what
follows as if it stood alone. -/
theorem lowerAfter_of_blank {b : Char} (hb : isBlank b = true) (before u v : List Char) :
    lowerAfter before (u ++ b :: v) = lowerAfter before u ++ b :: lower v := by
  induction u generalizing before with
  | nil =>
    have hsigma : b ≠ capitalSigma := by
      rintro rfl
      exact absurd hb (by decide)
    rw [List.nil_append, lowerAfter_cons, if_neg hsigma, small_of_blank hb,
      ← List.nil_append (b :: before), lowerAfter_append_blank hb, lowerAfter_nil]
    rfl
  | cons c u ih =>
    rw [List.cons_append, lowerAfter_cons, lowerAfter_cons, ih, smallSigma, smallSigma, endsWord,
      endsWord, meetsCased_append_blank hb, List.append_assoc]

/-- **The texts on either side of a blank are lowered on their own.** -/
theorem lower_append_blank {b : Char} (hb : isBlank b = true) (u v : List Char) :
    lower (u ++ b :: v) = lower u ++ b :: lower v := lowerAfter_of_blank hb [] u v

/-! ### Lower case and words -/

/-- A text without blanks has none in lower case. -/
theorem isBlank_of_mem_lowerAfter {before cs : List Char} (hcs : ∀ c ∈ cs, isBlank c = false) :
    ∀ d ∈ lowerAfter before cs, isBlank d = false := by
  induction cs generalizing before with
  | nil =>
    intro d hd
    simp at hd
  | cons c cs ih =>
    intro d hd
    rw [lowerAfter_cons, List.mem_append] at hd
    rcases hd with hd | hd
    · split at hd
      · rw [List.mem_singleton, smallSigma] at hd
        split at hd <;> subst hd <;> decide
      · exact isBlank_of_mem_small (hcs c (List.mem_cons_self ..)) hd
    · exact ih (fun e he => hcs e (List.mem_cons_of_mem c he)) d hd

theorem small_ne_nil (c : Char) : small c ≠ [] := by
  unfold small
  split <;> exact List.cons_ne_nil _ _

/-- Only the empty text has an empty lower case. -/
theorem lower_eq_nil_iff {cs : List Char} : lower cs = [] ↔ cs = [] := by
  cases cs with
  | nil => simp
  | cons c cs =>
    rw [lower, lowerAfter_cons]
    split <;> simp [small_ne_nil]

/-- **The words of the lower case are the lower cases of the words.** -/
theorem words_lower (cs : List Char) : words (lower cs) = (words cs).map lower := by
  -- by induction on the length: a blank cuts the text into two shorter ones
  induction hn : cs.length using Nat.strongRecOn generalizing cs with
  | _ n ih =>
    by_cases hblank : ∃ b ∈ cs, isBlank b = true
    · obtain ⟨b, hmem, hb⟩ := hblank
      obtain ⟨u, v, rfl⟩ := List.append_of_mem hmem
      rw [List.length_append, List.length_cons] at hn
      rw [lower_append_blank hb, words_append_blank hb, words_append_blank hb, List.map_append,
        ih u.length (by omega) u rfl, ih v.length (by omega) v rfl]
    · have hcs : ∀ c ∈ cs, isBlank c = false := by
        intro c hc
        rw [Bool.eq_false_iff]
        exact fun hb => hblank ⟨c, hc, hb⟩
      have hlower : ∀ d ∈ lower cs, isBlank d = false := isBlank_of_mem_lowerAfter hcs
      rw [words_of_not_blank hcs, words_of_not_blank hlower]
      by_cases hnil : cs = []
      · rw [if_pos hnil, if_pos (lower_eq_nil_iff.mpr hnil), List.map_nil]
      · rw [if_neg hnil, if_neg (mt lower_eq_nil_iff.mp hnil)]
        rfl

end Chars

namespace Text

/-- A text in lower case has the words of the text, each in lower case. -/
theorem words_lower (s : String) : words (lower s) = (words s).map lower := by
  simp only [words, toList_lower, Chars.words_lower, List.map_map]
  refine List.map_congr_left fun w _ => ?_
  simp [lower]

end Text
end Oracion
