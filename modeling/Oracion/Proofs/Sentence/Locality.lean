import Oracion.Proofs.Sentence.Divergence
import Oracion.Proofs.Trace.Telling

/-!
# What the recognizer does not see

The recognizer decides by the token at which it stands and never looks further.  So when a
recognition stops at some token, whatever comes behind that token could be replaced by
anything else and the recognition would stop in the same way: with the same result, the
same diagnostics and the same tracer.

The proof runs two recognizers side by side.  They are *twins* when they differ only in what
lies behind tokens that neither has passed; a matcher is *local* if it keeps twins twins as
long as it stops before the difference.  Rules and sequences of local matchers are local.

## Main definitions

* `Recognizer.Twins v w` — two recognizers, with `v` and `w` behind the same tokens.
* `Recognizer.Local` — matchers that keep twins twins.

## Main results

* `Recognizer.local_sentence`, `Recognizer.local_wholeSentence` — the rules are local.
* `recognizeWith_eq_of_passes` — **what lies ahead of a recognition does not matter.**
* `recognize_eq_of_divergesAt` — an error does not depend on what follows it.
-/

namespace Oracion

open Trace NounPhrase

namespace Recognizer

/-- The same recognizer with other tokens ahead. -/
def facing (r : Recognizer) (ts : List Token) : Recognizer := { r with ahead := ts }

/-- Two recognizers that have the same tokens ahead, at least one, and then `v` and `w`. -/
def Twins (v w : List Token) (r r' : Recognizer) : Prop :=
  ∃ u, u ≠ [] ∧ r.ahead = u ++ v ∧ r' = r.facing (u ++ w)

/-- A matcher only goes forward, and twins that stop before their difference stop as twins,
with the same result. -/
structure Local {β : Type} (f : Recognizer → β × Recognizer) : Prop where
  /-- What is ahead afterwards was ahead before. -/
  forward : ∀ r, ∃ u, r.ahead = u ++ (f r).2.ahead
  /-- Twins stop as twins. -/
  twins : ∀ {v w r r'}, Twins v w r r' → (∃ u, u ≠ [] ∧ (f r).2.ahead = u ++ v) →
    (f r').1 = (f r).1 ∧ Twins v w (f r).2 (f r').2

namespace Twins

variable {v w : List Token} {r r' : Recognizer}

theorem sees (h : Twins v w r r') :
    r'.category = r.category ∧ r'.text = r.text ∧ r'.position = r.position := by
  obtain ⟨u, hu, hahead, rfl⟩ := h
  cases u with
  | nil => exact absurd rfl hu
  | cons t u => simp [category, text, position, facing, hahead]

theorem diagnostics_eq (h : Twins v w r r') : r'.diagnostics = r.diagnostics := by
  obtain ⟨u, -, -, rfl⟩ := h
  rfl

theorem report (h : Twins v w r r') (e : Event) : Twins v w (r.report e) (r'.report e) := by
  obtain ⟨u, hu, hahead, rfl⟩ := h
  exact ⟨u, hu, hahead, rfl⟩

theorem diagnosed (h : Twins v w r r') (ds : List Diagnostic) :
    Twins v w { r with diagnostics := ds } { r' with diagnostics := ds } := by
  obtain ⟨u, hu, hahead, rfl⟩ := h
  exact ⟨u, hu, hahead, rfl⟩

/-- Twins that move and are not yet at their difference are twins. -/
theorem advance (h : Twins v w r r') (hstop : ∃ u, u ≠ [] ∧ r.advance.ahead = u ++ v) :
    Twins v w r.advance r'.advance := by
  obtain ⟨u, hu, hahead, rfl⟩ := h
  obtain ⟨ahead, index, diagnostics, tracer⟩ := r
  cases u with
  | nil => exact absurd rfl hu
  | cons t u =>
    have ha : ahead = t :: (u ++ v) := hahead
    subst ha
    by_cases hend : t.isEnd
    · refine ⟨t :: u, hu, ?_, ?_⟩ <;> simp [Recognizer.advance, facing, hend]
    · -- the token passed over is not the last one before the difference
      obtain ⟨u', hu', hstop⟩ := hstop
      have hrest : u ++ v = u' ++ v := by simpa [Recognizer.advance, hend] using hstop
      have huu' : u = u' := List.append_cancel_right hrest
      refine ⟨u, huu' ▸ hu', ?_, ?_⟩ <;> simp [Recognizer.advance, facing, hend]

end Twins

/-! ### Local matchers -/

variable {α β : Type}

theorem ahead_advance (r : Recognizer) : ∃ u, r.ahead = u ++ r.advance.ahead := by
  unfold advance
  split
  · exact ⟨[], rfl⟩
  · next t ts hahead =>
    split
    · exact ⟨[], rfl⟩
    · exact ⟨[t], hahead⟩

theorem local_expect (c : Category) : Local fun r => r.expect c where
  forward r := by
    by_cases hc : r.category = c
    · simp only [expect_of_eq hc]
      exact ahead_advance (r.report (.matched r.category r.position))
    · simp only [expect_of_ne hc]
      exact ⟨[], rfl⟩
  twins {v w r r'} h hstop := by
    obtain ⟨hcategory, htext, hposition⟩ := h.sees
    by_cases hc : r.category = c
    · have hc' : r'.category = c := hcategory.trans hc
      simp only [expect_of_eq hc] at hstop ⊢
      simp only [expect_of_eq hc', hcategory, hposition, true_and]
      exact (h.report _).advance hstop
    · have hc' : r'.category ≠ c := fun h' => hc (hcategory.symm.trans h')
      simp only [expect_of_ne hc] at hstop ⊢
      simp only [expect_of_ne hc', hcategory, hposition, htext, h.diagnostics_eq, true_and]
      exact (h.report _).diagnosed _

theorem local_token (c : Category) : Local (token c) where
  forward r := by
    have h := (local_expect c).forward r
    unfold token
    rcases he : r.expect c with ⟨_ | _, r₁⟩ <;> rw [he] at h <;> exact h
  twins {v w r r'} h hstop := by
    have hlocal := (local_expect c).twins h
    unfold token at hstop ⊢
    rcases he : r.expect c with ⟨_ | _, r₁⟩ <;> rcases he' : r'.expect c with ⟨_ | _, r₁'⟩ <;>
      simp only [he, he'] at hstop hlocal ⊢ <;> simpa using hlocal hstop

theorem Local.production {body : Recognizer → Option α × Recognizer} (h : Local body)
    (p : Production) : Local (production p body) where
  forward r := h.forward (r.report (.productionEnter p))
  twins ht hstop := by
    obtain ⟨hresult, htwins⟩ := h.twins (ht.report (.productionEnter p)) hstop
    simp only [Recognizer.production]
    rw [hresult]
    exact ⟨rfl, htwins.report _⟩

/-- **A sequence of local matchers is local**: if it stops before the difference, so does its
first part. -/
theorem Local.andThen {p : Recognizer → Option α × Recognizer}
    {q : Recognizer → Option β × Recognizer} (hp : Local p) (hq : Local q) :
    Local (andThen p q) where
  forward r := by
    obtain ⟨u, hu⟩ := hp.forward r
    unfold Recognizer.andThen
    rcases hr : p r with ⟨_ | a, r₁⟩
    · rw [hr] at hu
      exact ⟨u, hu⟩
    · obtain ⟨u₁, hu₁⟩ := hq.forward r₁
      rw [hr] at hu
      refine ⟨u ++ u₁, ?_⟩
      rw [hu, List.append_assoc, ← hu₁]
  twins {v w r r'} h hstop := by
    have hfirst := hp.twins h
    unfold Recognizer.andThen at hstop ⊢
    rcases hr : p r with ⟨_ | a, r₁⟩ <;> rcases hr' : p r' with ⟨result', r₁'⟩ <;>
      simp only [hr, hr'] at hstop hfirst ⊢
    · obtain ⟨rfl, htwins⟩ := hfirst hstop
      exact ⟨rfl, htwins⟩
    · obtain ⟨u, hu, hahead⟩ := hstop
      obtain ⟨u₁, hu₁⟩ := hq.forward r₁
      have hbefore : ∃ u, u ≠ [] ∧ r₁.ahead = u ++ v := by
        refine ⟨u₁ ++ u, by simp [hu], ?_⟩
        rw [hu₁, hahead, List.append_assoc]
      obtain ⟨rfl, htwins⟩ := hfirst hbefore
      exact hq.twins htwins ⟨u, hu, hahead⟩

theorem local_nounPhraseFrom (s : State) : Local (nounPhraseFrom s) := by
  -- from each state the machine accepts, or matches a token and goes on nearer to its end
  have hstep : ∀ {c s'} {lookahead : Category}, s.next lookahead = .expect c s' →
      Local (andThen (token c) (nounPhraseFrom s')) := by
    intro c s' lookahead h
    have hfewer : s'.remaining < s.remaining := State.remaining_lt h
    exact (local_token c).andThen (local_nounPhraseFrom s')
  constructor
  · intro r
    cases h : s.next r.category with
    | accept shape =>
      rw [nounPhraseFrom_of_accept h]
      exact ⟨[], rfl⟩
    | expect c s' =>
      rw [nounPhraseFrom_of_expect h]
      exact (hstep h).forward r
  · intro v w r r' ht hstop
    have hcategory : r'.category = r.category := ht.sees.1
    cases h : s.next r.category with
    | accept shape =>
      rw [nounPhraseFrom_of_accept h, nounPhraseFrom_of_accept (hcategory ▸ h)]
      exact ⟨rfl, ht⟩
    | expect c s' =>
      rw [nounPhraseFrom_of_expect h] at hstop ⊢
      rw [nounPhraseFrom_of_expect (hcategory ▸ h)]
      exact (hstep h).twins ht hstop
termination_by s.remaining

theorem local_nounPhrase : Local nounPhrase := local_nounPhraseFrom .start

theorem local_sentence : Local sentence := by
  have hpredicate : Local predicate :=
    ((local_token .verb).andThen (local_nounPhrase.production .complement)).production .predicate
  exact ((local_nounPhrase.production .subject).andThen hpredicate).production .sentence

theorem local_wholeSentence : Local wholeSentence where
  forward r := by
    have h := local_sentence.forward r
    rcases hs : r.sentence with ⟨_ | shape, r₁⟩ <;> rw [hs] at h
    · rwa [wholeSentence_of_none hs]
    · by_cases hend : r₁.category = .endOfInput
      · rwa [wholeSentence_of_end hs hend]
      · rwa [wholeSentence_of_rest hs hend]
  twins {v w r r'} h hstop := by
    have hlocal := local_sentence.twins h
    rcases hs : r.sentence with ⟨_ | shape, r₁⟩ <;> rcases hs' : r'.sentence with ⟨result', r₁'⟩ <;>
      simp only [hs, hs'] at hlocal
    · rw [wholeSentence_of_none hs] at hstop ⊢
      obtain ⟨rfl, htwins⟩ := hlocal hstop
      rw [wholeSentence_of_none hs']
      exact ⟨rfl, htwins⟩
    · by_cases hend : r₁.category = .endOfInput
      · rw [wholeSentence_of_end hs hend] at hstop ⊢
        obtain ⟨rfl, htwins⟩ := hlocal hstop
        rw [wholeSentence_of_end hs' (htwins.sees.1.trans hend)]
        exact ⟨rfl, htwins⟩
      · rw [wholeSentence_of_rest hs hend] at hstop ⊢
        obtain ⟨rfl, htwins⟩ := hlocal hstop
        -- what follows the sentence is the same token, so the diagnostics are the same
        obtain ⟨hcategory, htext, hposition⟩ := htwins.sees
        rw [wholeSentence_of_rest hs' (fun h' => hend (hcategory.symm.trans h')), hposition, htext,
          htwins.diagnostics_eq]
        exact ⟨rfl, (htwins.report _).diagnosed _⟩

end Recognizer

/-! ### Errors -/

/-- **What lies ahead of a recognition does not matter.**  If it stops before the last of the
tokens `u`, then whatever comes after `u` it stops in the same way and tells its tracer the
same. -/
theorem recognizeWith_eq_of_passes {u v z : List Token} {tracer : Tracer} {success : Bool}
    {r : Recognizer} (hr : Recognizer.wholeSentence ⟨u ++ v, 0, [], tracer⟩ = (success, r))
    (hpasses : (Recognizer.mk (u ++ v) 0 [] tracer).Passes z r) (hlt : z.length < u.length)
    (w : List Token) : recognizeWith (u ++ w) tracer = recognizeWith (u ++ v) tracer := by
  have hahead : u ++ v = z ++ r.ahead := hpasses.ahead
  have htwins : Recognizer.Twins v w ⟨u ++ v, 0, [], tracer⟩ ⟨u ++ w, 0, [], tracer⟩ :=
    ⟨u, List.ne_nil_of_length_pos (by omega), rfl, rfl⟩
  have hstop : ∃ u', u' ≠ [] ∧ r.ahead = u' ++ v := by
    refine ⟨u.drop z.length, ?_, ?_⟩
    · rw [Ne, List.drop_eq_nil_iff]
      omega
    · have hdrop := congrArg (List.drop z.length) hahead
      rwa [List.drop_append_of_le_length (by omega), List.drop_left, eq_comm] at hdrop
  have hlocal := Recognizer.local_wholeSentence.twins htwins
  rcases hr' : Recognizer.wholeSentence ⟨u ++ w, 0, [], tracer⟩ with ⟨success', r'⟩
  rw [hr, hr'] at hlocal
  obtain ⟨hsuccess, htwins'⟩ : success' = success ∧ Recognizer.Twins v w r r' := hlocal hstop
  obtain ⟨_, -, -, htwin⟩ := htwins'
  rw [recognizeWith, recognizeWith, hr, hr', hsuccess, htwin]
  rfl

/-- **An error does not depend on what follows it.**  If tokens leave the grammar at one of the
first tokens `u`, the outcome is the same whatever comes after `u`. -/
theorem recognize_eq_of_divergesAt {u v : List Token} {k : Nat} (hk : DivergesAt (u ++ v) k)
    (hlt : k < u.length) (w : List Token) : recognize (u ++ w) = recognize (u ++ v) := by
  rcases wholeSentence_cases (u ++ v) .off with ⟨-, -, -, hs⟩ | ⟨z, d, r, hr, -, hpasses, hz, -⟩
  · exact absurd hk (not_divergesAt_of_isSentence hs)
  · -- the recognizer has passed `k` tokens, so it stands before the end of `u`
    have hlength : z.length = k := hz.unique hk
    rw [recognize, recognize, recognizeWith_eq_of_passes hr hpasses (hlength.symm ▸ hlt) w]

end Oracion
