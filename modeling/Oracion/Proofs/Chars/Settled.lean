import Oracion.Proofs.Chars.Lower

/-!
# Lower case is settled

A text in lower case is its own lower case.  For one character this is a fact about the tables:
no run of capitals covers the small letter of a capital.  Where ranges overlap, because capitals
and small letters alternate, they are told apart by parity.  The rest is that the two small
sigmas, and the letter and the mark that a capital I with a dot becomes, stay as they are.

## Main definitions

* `CaseRun.misses` — no small letter of one run is a capital of another, as a test.
* `Settled c` — the character stays as it is in lower case, wherever it stands.

## Main results

* `smallCode_smallCode` — the small letter of a character is its own small letter.
* `lower_lower` — **a text in lower case is its own lower case.**
-/

namespace Oracion
namespace Chars

/-! ### Small letters are no capitals -/

/-- Whether no small letter of a run is a capital of another: they all come after or all
before, or the letters of either go by twos and differ in parity. -/
def CaseRun.misses (r s : CaseRun) : Bool :=
  Nat.blt s.last r.small || Nat.blt (r.small + (r.last - r.first)) s.first ||
    ((r.step == 2 || r.first == r.last) && s.step == 2 && r.small % 2 != s.first % 2)

/-- No small letter of any run is a capital of any. -/
theorem misses_lowerRuns : ∀ r ∈ lowerRuns, ∀ s ∈ lowerRuns, r.misses s = true := by
  have hall : (lowerRuns.all fun r => lowerRuns.all r.misses) = true := by decide +kernel
  intro r hr s hs
  exact List.all_eq_true.mp (List.all_eq_true.mp hall r hr) s hs

theorem CaseRun.covers_iff {r : CaseRun} {n : Nat} :
    r.covers n = true ↔ r.first ≤ n ∧ n ≤ r.last ∧ (n - r.first) % r.step = 0 := by
  simp [CaseRun.covers, and_assoc]

theorem CaseRun.covers_image {r s : CaseRun} {n : Nat} (h : r.misses s = true)
    (hn : r.covers n = true) : s.covers (r.image n) = false := by
  rw [Bool.eq_false_iff]
  intro himage
  rw [covers_iff] at hn himage
  rw [image] at himage
  simp only [misses, Bool.or_eq_true, Bool.and_eq_true, Nat.blt_eq, beq_iff_eq, bne_iff_ne] at h
  rcases h with (hafter | hbefore) | ⟨⟨hstep, hstep'⟩, hparity⟩
  · omega
  · omega
  · -- the image is as far from the first small letter as the capital is from the first capital
    rw [hstep'] at himage
    rcases hstep with hstep | hsingle
    · rw [hstep] at hn
      omega
    · omega

/-- **The small letter of a character is its own small letter.** -/
theorem smallCode_smallCode (n : Nat) : smallCode (smallCode n) = smallCode n := by
  rcases smallCode_cases n with hkept | ⟨r, hr, hcovers, himage⟩
  · rw [hkept, hkept]
  · have hnone : lowerRuns.find? (·.covers (r.image n)) = none := by
      apply List.find?_eq_none.mpr
      intro s hs
      rw [CaseRun.covers_image (misses_lowerRuns r hr s hs) hcovers]
      exact Bool.false_ne_true
    rw [himage, smallCode, hnone]

/-! ### Settled characters -/

/-- A character that is its own lower case and no capital sigma. -/
def Settled (c : Char) : Prop := c ≠ capitalSigma ∧ small c = [c]

instance (c : Char) : Decidable (Settled c) := inferInstanceAs (Decidable (_ ∧ _))

/-- No character but the capital I with a dot has that as its small letter. -/
theorem smallCode_ne_dotted {n : Nat} (hn : n ≠ 'İ'.toNat) : smallCode n ≠ 'İ'.toNat := by
  rcases smallCode_cases n with hkept | ⟨r, hr, hcovers, himage⟩
  · rwa [hkept]
  · have hapart : ∀ r ∈ lowerRuns, r.smalls.apart ⟨'İ'.toNat, 'İ'.toNat⟩ = true := by decide +kernel
    intro heq
    rw [himage] at heq
    have hsmall := CaseRun.mem_smalls hcovers
    rw [heq] at hsmall
    exact Range.not_mem_of_apart (hapart r hr) hsmall ⟨Nat.le_refl _, Nat.le_refl _⟩

theorem settled_of_smallCode {c : Char} (hcode : smallCode c.toNat = c.toNat) (hdot : c ≠ 'İ') :
    Settled c := by
  constructor
  · rintro rfl
    exact absurd hcode (by decide)
  · rw [small, if_neg hdot, hcode, Char.ofNat_toNat]

/-- The lower case of a character is settled. -/
theorem settled_of_mem_small {c d : Char} (hd : d ∈ small c) : Settled d := by
  unfold small at hd
  split at hd
  · simp only [List.mem_cons, List.not_mem_nil, or_false] at hd
    rcases hd with rfl | rfl <;> decide
  · next hdot =>
    rw [List.mem_singleton] at hd
    rcases toNat_ofNat_cases (smallCode c.toNat) with hcode | hzero
    · rw [← hd] at hcode
      apply settled_of_smallCode
      · rw [hcode, smallCode_smallCode]
      · rintro rfl
        have hne : c.toNat ≠ 'İ'.toNat := by
          intro heq
          exact hdot (Char.toNat_inj.mp heq)
        exact smallCode_ne_dotted hne hcode.symm
    · -- a number outside the characters would stand for the character zero
      rw [← hd] at hzero
      obtain rfl : d = Char.ofNat 0 := by rw [← hzero, Char.ofNat_toNat]
      decide

theorem settled_of_mem_lowerAfter {before cs : List Char} {d : Char}
    (hd : d ∈ lowerAfter before cs) : Settled d := by
  induction cs generalizing before with
  | nil => exact absurd hd List.not_mem_nil
  | cons c cs ih =>
    rw [lowerAfter_cons, List.mem_append] at hd
    rcases hd with hd | hd
    · split at hd
      · rw [List.mem_singleton, smallSigma] at hd
        split at hd <;> subst hd <;> decide
      · exact settled_of_mem_small hd
    · exact ih hd

/-- A text of settled characters stays as it is, whatever stands before it. -/
theorem lowerAfter_of_settled {before cs : List Char} (h : ∀ c ∈ cs, Settled c) :
    lowerAfter before cs = cs := by
  induction cs generalizing before with
  | nil => rfl
  | cons c cs ih =>
    obtain ⟨hc, hcs⟩ := List.forall_mem_cons.mp h
    rw [lowerAfter_cons, if_neg hc.1, hc.2, ih hcs, List.singleton_append]

/-- **A text in lower case is its own lower case.** -/
theorem lower_lower (cs : List Char) : lower (lower cs) = lower cs := by
  apply lowerAfter_of_settled
  intro c hc
  exact settled_of_mem_lowerAfter hc

end Chars

@[simp] theorem Text.lower_lower (s : String) : lower (lower s) = lower s := by
  rw [lower, toList_lower, Chars.lower_lower, lower]

end Oracion
