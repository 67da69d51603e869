import Oracion.Diagnostic
import Oracion.NounPhrase
import Oracion.Trace.Tracer

/-!
# The recognizer

Recursive descent over a list of tokens with one token of lookahead.  It never takes
back a decision: the first token that is not of the category asked for ends the
attempt, and the diagnostic says where the input left the grammar.

The reader does not move past a marker of the end, and past the last token it reads
as one, so that a list without a marker, or with an early one, needs no case of its
own.

## Main definitions

* `Recognizer` — the tokens ahead, the diagnostics so far and the tracer.
* `Recognizer.expect` — matches one token.
* `Recognizer.nounPhrase`, `Recognizer.sentence` — match by the rules of the grammar.
* `Outcome`, `recognizeWith`, `recognize` — whether a list of tokens is a sentence.
-/

namespace Oracion

open Trace NounPhrase

/-- A recognizer at work. -/
structure Recognizer where
  /-- The tokens that have not been matched. -/
  ahead : List Token
  /-- How many tokens have been matched. -/
  index : Nat := 0
  /-- What went wrong so far. -/
  diagnostics : List Diagnostic := []
  /-- Who is told about it. -/
  tracer : Tracer
  deriving DecidableEq, Repr, Inhabited

/-- Whether a list of tokens is a sentence, and if not why. -/
structure Outcome where
  /-- Whether it is a sentence. -/
  success : Bool
  /-- What is wrong with it. -/
  diagnostics : List Diagnostic
  deriving DecidableEq, Repr, Inhabited

namespace Recognizer

/-! ### The next token -/

/-- The category of the next token. -/
def category (r : Recognizer) : Category :=
  match r.ahead with
  | [] => .endOfInput
  | t :: _ => t.category

/-- The text of the next token. -/
def text (r : Recognizer) : String :=
  match r.ahead with
  | [] => ""
  | t :: _ => t.text

/-- The position that the next token says it has; past the last token, how many there
are. -/
def position (r : Recognizer) : Nat :=
  match r.ahead with
  | [] => r.index
  | t :: _ => t.position

/-- Tells the tracer. -/
def report (r : Recognizer) (e : Event) : Recognizer := { r with tracer := r.tracer.record e }

/-- Moves past the next token, unless it marks the end. -/
def advance (r : Recognizer) : Recognizer :=
  match r.ahead with
  | [] => r
  | t :: ts => if t.isEnd then r else { r with ahead := ts, index := r.index + 1 }

/-- Matches the next token against a category. -/
def expect (r : Recognizer) (expected : Category) : Bool × Recognizer :=
  if r.category = expected then
    (true, (r.report (.matched r.category r.position)).advance)
  else
    let r' := r.report (.mismatch expected r.category r.position)
    let d := Diagnostic.unexpected r.position expected r.category r.text
    (false, { r' with diagnostics := r.diagnostics ++ [d] })

theorem expect_of_eq {r : Recognizer} {c : Category} (h : r.category = c) :
    r.expect c = (true, (r.report (.matched r.category r.position)).advance) := if_pos h

theorem expect_of_ne {r : Recognizer} {c : Category} (h : r.category ≠ c) :
    r.expect c =
      (false, { r.report (.mismatch c r.category r.position) with
        diagnostics := r.diagnostics ++ [.unexpected r.position c r.category r.text] }) := if_neg h

/-! ### The rules -/

/-- Matches a rule: reports that it is entered, matches its body, and reports how it is
left. -/
def production {α : Type} (p : Production) (body : Recognizer → Option α × Recognizer)
    (r : Recognizer) : Option α × Recognizer :=
  let (result, r') := body (r.report (.productionEnter p))
  (result, r'.report (.productionExit p result.isSome))

/-- Matches one part after another; the second only if the first matches. -/
def andThen {α β : Type} (first : Recognizer → Option α × Recognizer)
    (second : Recognizer → Option β × Recognizer) (r : Recognizer) : Option β × Recognizer :=
  match first r with
  | (some _, r') => second r'
  | (none, r') => (none, r')

/-- Matches what is left of a noun phrase, as the machine asks for it. -/
def nounPhraseFrom (s : State) (r : Recognizer) : Option Shape × Recognizer :=
  match _h : s.next r.category with
  | .accept shape => (some shape, r)
  | .expect c s' =>
      match r.expect c with
      | (true, r') => nounPhraseFrom s' r'
      | (false, r') => (none, r')
termination_by s.remaining
decreasing_by exact State.remaining_lt _h

theorem nounPhraseFrom_of_accept {s : State} {r : Recognizer} {shape : Shape}
    (h : s.next r.category = .accept shape) : nounPhraseFrom s r = (some shape, r) := by
  unfold nounPhraseFrom
  split <;> simp_all

theorem nounPhraseFrom_of_match {s s' : State} {r r' : Recognizer} {c : Category}
    (h : s.next r.category = .expect c s') (he : r.expect c = (true, r')) :
    nounPhraseFrom s r = nounPhraseFrom s' r' := by
  rw [nounPhraseFrom.eq_def s r]
  split <;> simp_all

theorem nounPhraseFrom_of_mismatch {s s' : State} {r r' : Recognizer} {c : Category}
    (h : s.next r.category = .expect c s') (he : r.expect c = (false, r')) :
    nounPhraseFrom s r = (none, r') := by
  unfold nounPhraseFrom
  split <;> simp_all

/-- Matches a noun phrase. -/
def nounPhrase (r : Recognizer) : Option Shape × Recognizer := nounPhraseFrom .start r

/-- Matches a token of a category. -/
def token (c : Category) (r : Recognizer) : Option Unit × Recognizer :=
  match r.expect c with
  | (true, r') => (some (), r')
  | (false, r') => (none, r')

/-- Matches a subject. -/
def subject (r : Recognizer) : Option Shape × Recognizer := production .subject nounPhrase r

/-- Matches a complement. -/
def complement (r : Recognizer) : Option Shape × Recognizer := production .complement nounPhrase r

/-- Matches a predicate. -/
def predicate (r : Recognizer) : Option Shape × Recognizer :=
  production .predicate (andThen (token .verb) complement) r

/-- Matches a sentence. -/
def sentence (r : Recognizer) : Option Shape × Recognizer :=
  production .sentence (andThen subject predicate) r

/-- Matches a sentence with nothing after it. -/
def wholeSentence (r : Recognizer) : Bool × Recognizer :=
  match r.sentence with
  | (none, r') => (false, r')
  | (some _, r') =>
      if r'.category = .endOfInput then (true, r')
      else
        let d := Diagnostic.trailing r'.position r'.text
        (false, { r'.report (.trailingTokens r'.position) with
          diagnostics := r'.diagnostics ++ [d] })

theorem wholeSentence_of_none {r r' : Recognizer} (h : r.sentence = (none, r')) :
    r.wholeSentence = (false, r') := by
  rw [wholeSentence, h]

theorem wholeSentence_of_end {r r' : Recognizer} {shape : Shape}
    (h : r.sentence = (some shape, r')) (hend : r'.category = .endOfInput) :
    r.wholeSentence = (true, r') := by
  rw [wholeSentence, h]
  exact if_pos hend

theorem wholeSentence_of_rest {r r' : Recognizer} {shape : Shape}
    (h : r.sentence = (some shape, r')) (hend : r'.category ≠ .endOfInput) :
    r.wholeSentence =
      (false, { r'.report (.trailingTokens r'.position) with
        diagnostics := r'.diagnostics ++ [.trailing r'.position r'.text] }) := by
  rw [wholeSentence, h]
  exact if_neg hend

end Recognizer

/-! ### Sentences -/

/-- Decides whether a list of tokens is a sentence, and tells a tracer how. -/
def recognizeWith (ts : List Token) (tracer : Tracer) : Outcome × Tracer :=
  let (success, r) := Recognizer.wholeSentence ⟨ts, 0, [], tracer⟩
  (⟨success, r.diagnostics⟩, r.tracer)

/-- Decides whether a list of tokens is a sentence. -/
def recognize (ts : List Token) : Outcome := (recognizeWith ts .off).1

end Oracion
