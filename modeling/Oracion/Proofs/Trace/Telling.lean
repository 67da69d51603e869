import Oracion.Sentence.Recognizer

/-!
# Telling a tracer

A matcher tells its tracer what it does and never asks it anything.  So from each
recognizer on it tells a list of events, the same for all tracers: what it leaves does not
depend on the tracer, and the tracer ends up as if it had been told the events of the list
one after the other.

## Main definitions

* `Tracer.recordAll` — a tracer takes up a list of events.
* `Recognizer.telling` — a recognizer with another tracer.
* `Recognizer.Tells f r es` — the matcher `f` tells the events `es` from `r` on.

## Main results

* `Recognizer.Tells.production`, `Recognizer.Tells.andThen` — what a rule and what a
  sequence tells, from what its parts tell.
-/

namespace Oracion

open Trace NounPhrase

namespace Tracer

/-- Takes up events one after the other. -/
def recordAll (t : Tracer) (es : List Event) : Tracer := es.foldl record t

@[simp] theorem recordAll_nil (t : Tracer) : t.recordAll [] = t := rfl

@[simp] theorem recordAll_cons (t : Tracer) (e : Event) (es : List Event) :
    t.recordAll (e :: es) = (t.record e).recordAll es := rfl

@[simp] theorem recordAll_append (t : Tracer) (es fs : List Event) :
    t.recordAll (es ++ fs) = (t.recordAll es).recordAll fs := List.foldl_append

@[simp] theorem config_recordAll (t : Tracer) (es : List Event) :
    (t.recordAll es).config = t.config := by
  induction es generalizing t with
  | nil => rfl
  | cons e es ih => rw [recordAll_cons, ih, config_record]

end Tracer

namespace Recognizer

/-! ### Recognizers with another tracer -/

/-- The same recognizer, telling another tracer. -/
def telling (r : Recognizer) (t : Tracer) : Recognizer := { r with tracer := t }

theorem advance_telling (r : Recognizer) (t : Tracer) :
    (r.telling t).advance = r.advance.telling t := by
  obtain ⟨ahead, index, diagnostics, tracer⟩ := r
  cases ahead with
  | nil => rfl
  | cons a as =>
    simp only [advance, telling]
    split <;> rfl

/-- From `r` on a matcher tells the events `es`: its result and all else that it leaves are
the same for every tracer, and the tracer is told `es`. -/
def Tells {β : Type} (f : Recognizer → β × Recognizer) (r : Recognizer) (es : List Event) :
    Prop := ∀ t, f (r.telling t) = ((f r).1, (f r).2.telling (t.recordAll es))

/-! ### What matchers tell -/

section Matchers

variable {α β : Type} {r r' : Recognizer} {es fs : List Event}

theorem tells_token_of_eq {c : Category} (h : r.category = c) :
    Tells (token c) r [.matched r.category r.position] := by
  intro t
  have ht : (r.telling t).category = c := h
  have hadvance := advance_telling (r.report (.matched r.category r.position))
    (t.record (.matched r.category r.position))
  rw [token, token, expect_of_eq h, expect_of_eq ht]
  exact congrArg (Prod.mk (some ())) hadvance

theorem tells_token_of_ne {c : Category} (h : r.category ≠ c) :
    Tells (token c) r [.mismatch c r.category r.position] := by
  intro t
  have ht : (r.telling t).category ≠ c := h
  rw [token, token, expect_of_ne h, expect_of_ne ht]
  rfl

/-- A rule tells that it is entered, what its body tells, and how it is left. -/
theorem Tells.production {body : Recognizer → Option α × Recognizer} {p : Production}
    (h : Tells body (r.report (.productionEnter p)) es) :
    Tells (production p body) r
      (.productionEnter p ::
        (es ++ [.productionExit p (body (r.report (.productionEnter p))).1.isSome])) := by
  intro t
  have hstart : (r.telling t).report (.productionEnter p) =
      (r.report (.productionEnter p)).telling (t.record (.productionEnter p)) := rfl
  have hbody := h (t.record (.productionEnter p))
  simp only [Recognizer.production, hstart, hbody]
  rw [Tracer.recordAll_cons, Tracer.recordAll_append]
  rfl

section Sequences

variable {first : Recognizer → Option α × Recognizer} {second : Recognizer → Option β × Recognizer}

/-- A sequence tells what its parts tell, one after the other. -/
theorem Tells.andThen {a : α} (h : Tells first r es) (hr : first r = (some a, r'))
    (h' : Tells second r' fs) : Tells (andThen first second) r (es ++ fs) := by
  intro t
  have ht : first (r.telling t) = (some a, r'.telling (t.recordAll es)) := by rw [h t, hr]
  -- the second part starts where the first has left off, whatever the tracer
  rw [Recognizer.andThen, Recognizer.andThen, ht, hr, Tracer.recordAll_append]
  exact h' _

/-- A sequence that fails in its first part tells what that part tells. -/
theorem Tells.andThen_of_none (h : Tells first r es) (hr : first r = (none, r')) :
    Tells (Recognizer.andThen first second) r es := by
  intro t
  have ht : first (r.telling t) = (none, r'.telling (t.recordAll es)) := by rw [h t, hr]
  rw [Recognizer.andThen, Recognizer.andThen, ht, hr]

end Sequences

theorem tells_nounPhraseFrom_of_accept {s : State} {shape : Shape}
    (h : s.next r.category = .accept shape) : Tells (nounPhraseFrom s) r [] := by
  intro t
  have ht : s.next (r.telling t).category = .accept shape := h
  rw [nounPhraseFrom_of_accept h, nounPhraseFrom_of_accept ht]
  rfl

/-- Where the machine asks for a category, a noun phrase is a token of it and what is left
of the phrase. -/
theorem nounPhraseFrom_of_expect {s s' : State} {c : Category}
    (h : s.next r.category = .expect c s') :
    nounPhraseFrom s r = andThen (token c) (nounPhraseFrom s') r := by
  unfold andThen token
  rcases he : r.expect c with ⟨_ | _, r'⟩
  · exact nounPhraseFrom_of_mismatch h he
  · exact nounPhraseFrom_of_match h he

theorem tells_nounPhraseFrom_of_expect {s s' : State} {c : Category}
    (h : s.next r.category = .expect c s')
    (hes : Tells (andThen (token c) (nounPhraseFrom s')) r es) :
    Tells (nounPhraseFrom s) r es := by
  intro t
  have ht : s.next (r.telling t).category = .expect c s' := h
  rw [nounPhraseFrom_of_expect h, nounPhraseFrom_of_expect ht]
  exact hes t

/-- Without a sentence, what is told is what the rule for sentences tells. -/
theorem Tells.wholeSentence_of_none (h : Tells sentence r es) (hr : r.sentence = (none, r')) :
    Tells wholeSentence r es := by
  intro t
  have ht : (r.telling t).sentence = (none, r'.telling (t.recordAll es)) := by rw [h t, hr]
  rw [Recognizer.wholeSentence_of_none hr, Recognizer.wholeSentence_of_none ht]

theorem Tells.wholeSentence_of_end {shape : Shape} (h : Tells sentence r es)
    (hr : r.sentence = (some shape, r')) (hend : r'.category = .endOfInput) :
    Tells wholeSentence r es := by
  intro t
  have ht : (r.telling t).sentence = (some shape, r'.telling (t.recordAll es)) := by rw [h t, hr]
  rw [Recognizer.wholeSentence_of_end hr hend, Recognizer.wholeSentence_of_end ht hend]

/-- After a sentence, what follows it is told too. -/
theorem Tells.wholeSentence_of_rest {shape : Shape} (h : Tells sentence r es)
    (hr : r.sentence = (some shape, r')) (hend : r'.category ≠ .endOfInput) :
    Tells wholeSentence r (es ++ [.trailingTokens r'.position]) := by
  intro t
  have ht : (r.telling t).sentence = (some shape, r'.telling (t.recordAll es)) := by rw [h t, hr]
  rw [Recognizer.wholeSentence_of_rest hr hend, Recognizer.wholeSentence_of_rest ht hend,
    Tracer.recordAll_append]
  rfl

end Matchers

end Recognizer
end Oracion
