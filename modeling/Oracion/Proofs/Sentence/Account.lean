import Oracion.Proofs.Sentence.Divergence
import Oracion.Proofs.Trace.Nesting
import Oracion.Proofs.Trace.Telling

/-!
# What the events say of a recognition

Diagnostics and events come from the same run by different ways.  Here they are brought
together: each matcher gives an *account* of itself by the events that it tells.  They are
balanced, they report a match for each token passed over and for no other, and they report
one mismatch or none: one exactly when the matcher is lost, and then about the token that
its diagnostic is about.  Accounts are inherited by rules and sequences, with a bound on how
many events there are.

## Main definitions

* `Recognizer.Account`, `Recognizer.Accounts` — the ways a matcher can account for itself.
* `Conclusion ts k es o` — the events `es` say how the recognition of `ts` ends at place `k` with
  outcome `o`.
* `Chronicle ts k es` — all that the events `es` say of the recognition of `ts`.

## Main results

* `Recognizer.Accounts.production`, `Recognizer.Accounts.andThen` — rules and sequences
  account for themselves if their parts do.
* `exists_chronicle` — **every recognition has a chronicle, the same for all tracers.**
-/

namespace Oracion

open Trace NounPhrase Grammar

namespace Trace.Event

/-- What a match reports: the category of a token and its position. -/
def matched? : Event → Option (Category × Nat)
  | matched category position => some (category, position)
  | _ => none

/-- The position of what follows a complete sentence. -/
def trailing? : Event → Option Nat
  | trailingTokens position => some position
  | _ => none

end Trace.Event

/-- What a match reports of a token. -/
def Token.sight (t : Token) : Category × Nat := (t.category, t.position)

namespace Recognizer

/-! ### Accounts -/

/-- The events are balanced, report that the tokens `u` are matched and no others, and
nothing after a sentence. -/
structure Recalls (u : List Token) (es : List Event) : Prop where
  /-- They are balanced. -/
  balanced : Balanced es
  /-- The matches among them are those of `u`. -/
  matched : es.filterMap Event.matched? = u.map Token.sight
  /-- None of them is about what follows a sentence. -/
  untrailed : es.filterMap Event.trailing? = []

/-- The ways in which a matcher that starts at `r` can account for its result by events. -/
inductive Account {α : Type} (r : Recognizer) (es : List Event) :
    Option α × Recognizer → Prop
  /-- It reports what it passes over, and no mismatch. -/
  | found {a : α} {u : List Token} {r' : Recognizer} (passes : r.Passes u r')
      (quiet : r'.diagnostics = r.diagnostics) (recalls : Recalls u es)
      (smooth : es.filterMap Event.mismatch? = []) : Account r es (some a, r')
  /-- It reports what it passes over, and as a mismatch what it complains about. -/
  | lost {u : List Token} {r' : Recognizer} {c : Category} (passes : r.Passes u r')
      (complains : r'.diagnostics = r.diagnostics ++ [r'.complaint c]) (recalls : Recalls u es)
      (mismatch : es.filterMap Event.mismatch? = [(c, r'.category, r'.position)]) :
      Account r es (none, r')

/-- A matcher accounts for itself by at most `n` events, the same for all tracers. -/
def Accounts {α : Type} (n : Nat) (p : Recognizer → Option α × Recognizer) : Prop :=
  ∀ r, ∃ es, es.length ≤ n ∧ Tells p r es ∧ Account r es (p r)

namespace Recalls

variable {u v : List Token} {es fs : List Event}

theorem nil : Recalls [] [] := ⟨.nil, rfl, rfl⟩

theorem append (h : Recalls u es) (h' : Recalls v fs) : Recalls (u ++ v) (es ++ fs) where
  balanced := h.balanced.append h'.balanced
  matched := by rw [List.filterMap_append, List.map_append, h.matched, h'.matched]
  untrailed := by rw [List.filterMap_append, h.untrailed, h'.untrailed, List.append_nil]

theorem rule (h : Recalls u es) {p : Production} {success : Bool}
    (hsuccess : success = (es.filterMap Event.mismatch?).isEmpty) :
    Recalls u (.productionEnter p :: (es ++ [.productionExit p success])) where
  balanced := h.balanced.rule hsuccess
  matched := by simp [List.filterMap_cons, Event.matched?, h.matched]
  untrailed := by simp [List.filterMap_cons, Event.trailing?, h.untrailed]

end Recalls

/-- To enter and to leave a rule is no mismatch. -/
theorem mismatches_rule (es : List Event) (p : Production) (success : Bool) :
    (.productionEnter p :: (es ++ [.productionExit p success])).filterMap Event.mismatch? =
      es.filterMap Event.mismatch? := by
  simp [List.filterMap_cons, Event.mismatch?]

/-! ### Matchers account for themselves -/

variable {α β : Type} {m n : Nat}

/-- A rule tells two events more than its body. -/
theorem Accounts.production {body : Recognizer → Option α × Recognizer} (hbody : Accounts n body)
    (p : Production) : Accounts (n + 2) (production p body) := by
  intro r
  obtain ⟨es, hle, htells, h⟩ := hbody (r.report (.productionEnter p))
  refine ⟨_, ?_, htells.production, ?_⟩
  · rw [List.length_cons, List.length_append, List.length_singleton]
    omega
  · unfold Recognizer.production
    generalize body (r.report (.productionEnter p)) = result at h ⊢
    cases h with
    | found passes quiet recalls smooth =>
      refine .found ⟨passes.ahead, passes.index⟩ quiet (recalls.rule ?_) ?_
      · rw [smooth]; rfl
      · rw [mismatches_rule, smooth]
    | lost passes complains recalls mismatch =>
      refine .lost ⟨passes.ahead, passes.index⟩ complains (recalls.rule ?_) ?_
      · rw [mismatch]; rfl
      · rw [mismatches_rule, mismatch]; rfl

/-- A sequence tells what its parts tell. -/
theorem Accounts.andThen {p : Recognizer → Option α × Recognizer}
    {q : Recognizer → Option β × Recognizer} (hp : Accounts m p) (hq : Accounts n q) :
    Accounts (m + n) (andThen p q) := by
  intro r
  obtain ⟨es, hle, htells, h⟩ := hp r
  rcases hr : p r with ⟨_ | a, r₁⟩
  · -- the first part is lost, and so is the sequence
    have hseq : Recognizer.andThen p q r = (none, r₁) := by rw [Recognizer.andThen, hr]
    rw [hr] at h
    refine ⟨es, by omega, htells.andThen_of_none hr, ?_⟩
    rw [hseq]
    cases h with
    | lost passes complains recalls mismatch => exact .lost passes complains recalls mismatch
  · have hseq : Recognizer.andThen p q r = q r₁ := by rw [Recognizer.andThen, hr]
    rw [hr] at h
    obtain ⟨fs, hle₁, htells₁, h₁⟩ := hq r₁
    refine ⟨es ++ fs, ?_, htells.andThen hr htells₁, ?_⟩
    · rw [List.length_append]
      omega
    · rw [hseq]
      obtain ⟨passes, quiet, recalls, smooth⟩ := h
      generalize q r₁ = result at h₁ ⊢
      cases h₁ with
      | found passes₁ quiet₁ recalls₁ smooth₁ =>
        refine .found (passes.trans passes₁) (quiet₁.trans quiet) (recalls.append recalls₁) ?_
        rw [List.filterMap_append, smooth, smooth₁, List.append_nil]
      | lost passes₁ complains₁ recalls₁ mismatch₁ =>
        refine .lost (passes.trans passes₁) (by rw [complains₁, quiet])
          (recalls.append recalls₁) ?_
        rw [List.filterMap_append, smooth, mismatch₁, List.nil_append]

/-- The next token is the first of those passed over. -/
theorem Passes.sight_eq {r r' : Recognizer} {t : Token} {u : List Token}
    (h : r.Passes (t :: u) r') : t.sight = (r.category, r.position) := by
  have ha : r.ahead = t :: (u ++ r'.ahead) := h.ahead
  rw [Token.sight, category, position, ha]

/-- The match of a token tells one event. -/
theorem accounts_token {c : Category} (hc : c ≠ .endOfInput) : Accounts 1 (token c) := by
  intro r
  by_cases hcat : r.category = c
  · refine ⟨_, ?_, tells_token_of_eq hcat, ?_⟩
    · exact Nat.le_refl 1
    have hexpect := expect_of_eq hcat
    obtain ⟨quiet, t, -, passes⟩ := passes_of_expect_true hc hexpect
    rw [token, hexpect]
    refine .found passes quiet ⟨.note rfl rfl, ?_, rfl⟩ rfl
    rw [List.map_singleton, passes.sight_eq]
    rfl
  · refine ⟨_, ?_, tells_token_of_ne hcat, ?_⟩
    · exact Nat.le_refl 1
    have hexpect := expect_of_ne hcat
    obtain ⟨-, complains, passes⟩ := passes_of_expect_false hexpect
    rw [token, hexpect]
    exact .lost passes complains ⟨.note rfl rfl, rfl, rfl⟩ rfl

/-- The machine tells at most one event for each match that it can still ask for. -/
theorem accounts_nounPhraseFrom (s : State) : Accounts s.remaining (nounPhraseFrom s) := by
  intro r
  cases h : s.next r.category with
  | accept shape =>
    refine ⟨[], Nat.zero_le _, tells_nounPhraseFrom_of_accept h, ?_⟩
    rw [nounPhraseFrom_of_accept h]
    exact .found (Passes.refl r) rfl .nil rfl
  | expect c s' =>
    have hfewer : s'.remaining < s.remaining := State.remaining_lt h
    have hrest := accounts_nounPhraseFrom s'
    obtain ⟨es, hle, htells, haccount⟩ :=
      (accounts_token (State.ne_endOfInput_of_next h)).andThen hrest r
    refine ⟨es, by omega, tells_nounPhraseFrom_of_expect h htells, ?_⟩
    rw [nounPhraseFrom_of_expect h]
    exact haccount
termination_by s.remaining

theorem accounts_nounPhrase : Accounts 3 nounPhrase := accounts_nounPhraseFrom .start

/-- The rule for sentences tells at most eight events of rules and seven of tokens. -/
theorem accounts_sentence : Accounts 15 sentence := by
  have hcomplement : Accounts 5 complement := accounts_nounPhrase.production .complement
  have hpredicate : Accounts 8 predicate :=
    ((accounts_token (by decide)).andThen hcomplement).production .predicate
  exact ((accounts_nounPhrase.production .subject).andThen hpredicate).production .sentence

/-! ### What is passed over -/

theorem Passes.unique {r r' : Recognizer} {u v : List Token} (h : r.Passes u r')
    (h' : r.Passes v r') : u = v := List.append_cancel_right (h.ahead.symm.trans h'.ahead)

/-- What a matcher passes over starts a word of the language that it reads. -/
theorem Attempt.viable {L : α → Language Category} {r r' : Recognizer} {result : Option α}
    {u : List Token} (h : Attempt L r (result, r')) (hu : r.Passes u r') :
    Viable (⨆ a, L a) (Token.categories u) := by
  cases h with
  | found passes _ word _ =>
    rw [hu.unique passes]
    exact viable_of_mem (Language.mem_iSup.mpr ⟨_, word⟩)
  | lost passes _ _ possible _ =>
    rw [hu.unique passes]
    exact possible.of_prefix (List.prefix_append _ _)

end Recognizer

/-! ### Chronicles -/

/-- The events say how the recognition of `ts` ends at place `k`: with the outcome given. -/
inductive Conclusion (ts : List Token) (k : Nat) (es : List Event) : Outcome → Prop
  /-- Nothing is reported, and the tokens are a sentence. -/
  | accepted (smooth : es.filterMap Event.mismatch? = [])
      (untrailed : es.filterMap Event.trailing? = []) : Conclusion ts k es ⟨true, []⟩
  /-- What is found at `k` is reported as a mismatch, and diagnosed as such. -/
  | rejected {c : Category}
      (mismatch : es.filterMap Event.mismatch? =
        [(c, Token.categoryAt ts k, Token.positionAt ts k)])
      (untrailed : es.filterMap Event.trailing? = []) :
      Conclusion ts k es
        ⟨false, [.unexpected (Token.positionAt ts k) c (Token.categoryAt ts k)
          (Token.textAt ts k)]⟩
  /-- What is found at `k` is reported as following a sentence, and diagnosed as such. -/
  | trailing (smooth : es.filterMap Event.mismatch? = [])
      (trailed : es.filterMap Event.trailing? = [Token.positionAt ts k]) :
      Conclusion ts k es ⟨false, [.trailing (Token.positionAt ts k) (Token.textAt ts k)]⟩

/-- The events tell the whole recognition of `ts`, which matches the first `k` tokens. -/
structure Chronicle (ts : List Token) (k : Nat) (es : List Event) : Prop where
  /-- Every tracer is told these events, and the outcome does not depend on the tracer. -/
  tells : ∀ t, recognizeWith ts t = (recognize ts, t.recordAll es)
  /-- They are few. -/
  length_le : es.length ≤ 16
  /-- They are balanced. -/
  balanced : Balanced es
  /-- There are so many tokens. -/
  le_length : k ≤ ts.length
  /-- The tokens matched start a sentence. -/
  viable : Viable language (Token.categories (ts.take k))
  /-- The matches among the events are theirs. -/
  matched : es.filterMap Event.matched? = (ts.take k).map Token.sight
  /-- The other events say how it ends. -/
  conclusion : Conclusion ts k es (recognize ts)

/-- What the recognizer tells is told by a recognition. -/
theorem recognizeWith_of_tells {ts : List Token} {es : List Event}
    (h : Recognizer.Tells Recognizer.wholeSentence ⟨ts, 0, [], .off⟩ es) (t : Tracer) :
    recognizeWith ts t = (recognize ts, t.recordAll es) := by
  have ht : Recognizer.mk ts 0 [] t = (Recognizer.mk ts 0 [] .off).telling t := rfl
  rw [recognize, recognizeWith, recognizeWith, ht, h t]
  rfl

/-- The rule for sentences stands at a place up to which the tokens start a sentence. -/
theorem place_of_passes {ts u : List Token} {result : Option Shape} {r : Recognizer}
    (hreads : Recognizer.Attempt Recognizer.sentenceWords ⟨ts, 0, [], .off⟩ (result, r))
    (hu : (Recognizer.mk ts 0 [] .off).Passes u r) :
    u.length ≤ ts.length ∧ Viable language (Token.categories (ts.take u.length)) := by
  obtain ⟨htake, -⟩ := hu.of_start
  have hts : ts = u ++ r.ahead := hu.ahead
  refine ⟨?_, ?_⟩
  · rw [hts, List.length_append]
    exact Nat.le_add_right _ _
  · rw [htake, ← Recognizer.iSup_sentenceWords]
    exact hreads.viable hu

/-- **Every recognition has a chronicle**, the same for all tracers. -/
theorem exists_chronicle (ts : List Token) : ∃ k es, Chronicle ts k es := by
  obtain ⟨es, hle, htells, haccount⟩ := Recognizer.accounts_sentence ⟨ts, 0, [], .off⟩
  have hreads := Recognizer.reads_sentence ⟨ts, 0, [], .off⟩
  rcases hs : Recognizer.sentence ⟨ts, 0, [], .off⟩ with ⟨result, r⟩
  rw [hs] at haccount hreads
  cases haccount with
  | @lost u r c passes complains recalls mismatch =>
    obtain ⟨htake, hcategory, htext, hposition⟩ := passes.of_start
    obtain ⟨hlength, hviable⟩ := place_of_passes hreads passes
    have houtcome : recognize ts = ⟨false, [r.complaint c]⟩ := by
      rw [recognize, recognizeWith_fst (Recognizer.wholeSentence_of_none hs), complains]
      rfl
    refine ⟨u.length, es, recognizeWith_of_tells (htells.wholeSentence_of_none hs), by omega,
      recalls.balanced, hlength, hviable, by rw [htake, recalls.matched], ?_⟩
    rw [houtcome, Recognizer.complaint, hposition, hcategory, htext]
    rw [hposition, hcategory] at mismatch
    exact .rejected mismatch recalls.untrailed
  | @found shape u r passes quiet recalls smooth =>
    obtain ⟨htake, -, htext, hposition⟩ := passes.of_start
    obtain ⟨hlength, hviable⟩ := place_of_passes hreads passes
    -- a sentence has been read, and what follows decides
    by_cases hend : r.category = .endOfInput
    · have houtcome : recognize ts = ⟨true, []⟩ := by
        rw [recognize, recognizeWith_fst (Recognizer.wholeSentence_of_end hs hend), quiet]
      refine ⟨u.length, es, recognizeWith_of_tells (htells.wholeSentence_of_end hs hend), by omega,
        recalls.balanced, hlength, hviable, by rw [htake, recalls.matched], ?_⟩
      rw [houtcome]
      exact .accepted smooth recalls.untrailed
    · have houtcome : recognize ts = ⟨false, [.trailing r.position r.text]⟩ := by
        rw [recognize, recognizeWith_fst (Recognizer.wholeSentence_of_rest hs hend), quiet]
        rfl
      refine ⟨u.length, es ++ [.trailingTokens r.position],
        recognizeWith_of_tells (htells.wholeSentence_of_rest hs hend), ?_,
        recalls.balanced.append (.note rfl rfl), hlength, hviable, ?_, ?_⟩
      · rw [List.length_append, List.length_singleton]
        omega
      · rw [List.filterMap_append, htake, recalls.matched]
        exact List.append_nil _
      · rw [houtcome, hposition, htext]
        refine .trailing ?_ ?_
        · rw [List.filterMap_append, smooth]
          rfl
        · rw [List.filterMap_append, recalls.untrailed]
          rfl

end Oracion
