import Oracion.Proofs.Sentence.Divergence

/-!
# The cursor

What a recognizer has ahead of it and how many tokens it has passed say the same thing twice: it
stands at a place of a list of tokens.  Only a match changes the place, and it does so in one way:
with a category that is there and is not the end of the input, it moves one place on.  So after any
matches, asked for in whatever order and whatever their answers, the cursor has not moved past the
first marker of the end, and place and diagnostics are accounted for by the answers alone.

## Main definitions

* `Recognizer.standingAt` — the recognizer at a place of a list of tokens.
* `Recognizer.expectAll` — one match after another, with the answers.
* `Recognizer.Tally` — the answers account for the place and for the diagnostics.

## Main results

* `Recognizer.expect_standingAt` — **what a match does at a place.**
* `Recognizer.Tally.expect`, `Recognizer.Tally.expectAll` — a match keeps the tally, and so does
  any number of them.
* `Recognizer.expectAll_accounts_for_cursor` — **the answers account for the cursor.**
-/

namespace Oracion

namespace Token

/-- Nothing is passed over at the first marker of the end, be it only the end of the list. -/
theorem categoryAt_findIdx_isEnd (ts : List Token) :
    categoryAt ts (ts.findIdx isEnd) = .endOfInput := by
  rw [categoryAt]
  have hle : ts.findIdx isEnd ≤ ts.length := List.findIdx_le_length
  rcases Nat.lt_or_eq_of_le hle with hlt | heq
  · have hend : (ts[ts.findIdx isEnd]).isEnd = true := List.findIdx_getElem
    rw [List.getElem?_eq_getElem hlt, Option.map_some, Option.getD_some]
    simpa [isEnd] using hend
  · rw [heq, List.getElem?_eq_none (Nat.le_refl _)]
    rfl

/-- The tokens up to a place and the one that is found there are the tokens up to the next. -/
theorem categories_take_succ {ts : List Token} {k : Nat} (hk : k < ts.length) :
    categories (ts.take (k + 1)) = categories (ts.take k) ++ [categoryAt ts k] := by
  rw [categories_take hk, take_withEnd (Nat.le_of_lt hk)]

end Token

namespace Recognizer

/-! ### Places -/

/-- The recognizer that stands at place `k` of the tokens `ts`. -/
def standingAt (ts : List Token) (k : Nat) (ds : List Diagnostic) (tracer : Tracer) : Recognizer :=
  ⟨ts.drop k, k, ds, tracer⟩

section Places

variable (ts : List Token) (k : Nat) (ds : List Diagnostic) (tracer : Tracer)

@[simp] theorem index_standingAt : (standingAt ts k ds tracer).index = k := rfl

@[simp] theorem diagnostics_standingAt : (standingAt ts k ds tracer).diagnostics = ds := rfl

@[simp] theorem category_standingAt :
    (standingAt ts k ds tracer).category = Token.categoryAt ts k := by
  rw [category, standingAt, Token.categoryAt, ← List.head?_drop]
  cases ts.drop k <;> rfl

@[simp] theorem text_standingAt : (standingAt ts k ds tracer).text = Token.textAt ts k := by
  rw [text, standingAt, Token.textAt, ← List.head?_drop]
  cases ts.drop k <;> rfl

@[simp] theorem position_standingAt :
    (standingAt ts k ds tracer).position = Token.positionAt ts k := by
  rw [position, standingAt, Token.positionAt, ← List.head?_drop]
  cases ts.drop k <;> rfl

/-- The end of the input is not moved past. -/
theorem advance_standingAt :
    (standingAt ts k ds tracer).advance =
      standingAt ts (if Token.categoryAt ts k = .endOfInput then k else k + 1) ds tracer := by
  rw [← category_standingAt ts k ds tracer]
  cases h : ts.drop k with
  | nil => simp [advance, category, standingAt, h]
  | cons t rest =>
    have hrest : ts.drop (k + 1) = rest := by rw [← List.drop_drop, h]; rfl
    by_cases hend : t.category = .endOfInput
    · simp [advance, category, standingAt, h, Token.isEnd, hend]
    · simp [advance, category, standingAt, h, Token.isEnd, hend, hrest]

/-- **What a match does at a place.**  The category found there is matched, and passed over unless
it is the end of the input; any other is not, the place stays, and a diagnostic says what is found
there. -/
theorem expect_standingAt (c : Category) :
    ∃ tracer', (standingAt ts k ds tracer).expect c =
      if Token.categoryAt ts k = c then
        (true, standingAt ts (if c = .endOfInput then k else k + 1) ds tracer')
      else
        (false, standingAt ts k (ds ++ [.unexpected (Token.positionAt ts k) c
          (Token.categoryAt ts k) (Token.textAt ts k)]) tracer') := by
  by_cases hc : Token.categoryAt ts k = c
  · subst hc
    simp only [if_true, expect_of_eq (category_standingAt ts k ds tracer)]
    exact ⟨_, congrArg (Prod.mk true) (advance_standingAt ts k ds _)⟩
  · have hfound : (standingAt ts k ds tracer).category ≠ c := by rwa [category_standingAt]
    simp only [if_neg hc, expect_of_ne hfound, category_standingAt, position_standingAt,
      text_standingAt]
    exact ⟨_, rfl⟩

end Places

/-! ### One match after another -/

/-- Matches one category after another, whatever the answers, and keeps them. -/
def expectAll (r : Recognizer) : List Category → List (Category × Bool) × Recognizer
  | [] => ([], r)
  | c :: cs =>
      let (answer, r') := r.expect c
      let (calls, r'') := r'.expectAll cs
      ((c, answer) :: calls, r'')

/-- The categories that were asked for and found, the end of the input left out. -/
def passedIn (calls : List (Category × Bool)) : List Category :=
  (calls.filter fun call => call.2 && call.1 != .endOfInput).map Prod.fst

/-- The categories that were asked for and not found. -/
def missedIn (calls : List (Category × Bool)) : List Category :=
  (calls.filter fun call => !call.2).map Prod.fst

/-- The answers to some calls account for a recognizer that was put in front of `ts`. -/
structure Tally (ts : List Token) (calls : List (Category × Bool)) (r : Recognizer) : Prop where
  /-- It stands where it has counted to. -/
  ahead : r.ahead = ts.drop r.index
  /-- It has not moved past the first marker of the end. -/
  le_end : r.index ≤ ts.findIdx Token.isEnd
  /-- It has passed over the categories that were found. -/
  passed : passedIn calls = Token.categories (ts.take r.index)
  /-- It has one diagnostic for each category that was not. -/
  missed : r.diagnostics.length = (missedIn calls).length

section Calls

variable {ts : List Token} {calls : List (Category × Bool)} {r : Recognizer}

theorem map_fst_expectAll (r : Recognizer) (cs : List Category) :
    (r.expectAll cs).1.map Prod.fst = cs := by
  induction cs generalizing r with
  | nil => rfl
  | cons c cs ih => exact congrArg (c :: ·) (ih (r.expect c).2)

theorem Tally.eq_standingAt (h : Tally ts calls r) :
    r = standingAt ts r.index r.diagnostics r.tracer := by
  rw [standingAt, ← h.ahead]

theorem tally_start (ts : List Token) (tracer : Tracer) : Tally ts [] ⟨ts, 0, [], tracer⟩ :=
  ⟨rfl, Nat.zero_le _, rfl, rfl⟩

/-- **A match keeps the tally.** -/
theorem Tally.expect (h : Tally ts calls r) (c : Category) :
    Tally ts (calls ++ [(c, (r.expect c).1)]) (r.expect c).2 := by
  obtain ⟨tracer', hexpect⟩ := expect_standingAt ts r.index r.diagnostics r.tracer c
  rw [← h.eq_standingAt] at hexpect
  by_cases hc : Token.categoryAt ts r.index = c
  · rw [if_pos hc] at hexpect
    have hmissed : r.diagnostics.length = (missedIn (calls ++ [(c, true)])).length := by
      simpa [missedIn] using h.missed
    rw [hexpect]
    by_cases hend : c = .endOfInput
    · -- to match the end of the input moves nothing
      rw [if_pos hend]
      refine ⟨rfl, h.le_end, ?_, hmissed⟩
      simpa [passedIn, hend] using h.passed
    · rw [if_neg hend]
      have hlt : r.index < ts.findIdx Token.isEnd := by
        refine Nat.lt_of_le_of_ne h.le_end fun heq => hend ?_
        rw [← hc, heq, Token.categoryAt_findIdx_isEnd]
      have hlength : r.index < ts.length := Nat.lt_of_lt_of_le hlt List.findIdx_le_length
      refine ⟨rfl, hlt, ?_, hmissed⟩
      show passedIn (calls ++ [(c, true)]) = Token.categories (ts.take (r.index + 1))
      rw [Token.categories_take_succ hlength, ← h.passed, hc]
      simp [passedIn, hend]
  · rw [if_neg hc] at hexpect
    rw [hexpect]
    refine ⟨rfl, h.le_end, ?_, ?_⟩
    · simpa [passedIn] using h.passed
    · simpa [missedIn] using h.missed

/-- **So does any number of them.** -/
theorem Tally.expectAll (h : Tally ts calls r) (cs : List Category) :
    Tally ts (calls ++ (r.expectAll cs).1) (r.expectAll cs).2 := by
  induction cs generalizing calls r with
  | nil =>
    rw [Recognizer.expectAll, List.append_nil]
    exact h
  | cons c cs ih =>
    have hrest := ih (h.expect c)
    rw [List.append_assoc] at hrest
    exact hrest

/-- Up to the first marker of the end there are as many categories as places. -/
theorem Tally.index_eq (h : Tally ts calls r) : r.index = (passedIn calls).length := by
  have hlength : r.index ≤ ts.length := Nat.le_trans h.le_end List.findIdx_le_length
  rw [h.passed, Token.categories, List.length_map, List.length_take_of_le hlength]

/-- A failed match leaves the place and what was said before. -/
theorem expect_of_fst_eq_false {c : Category} (h : (r.expect c).1 = false) :
    (r.expect c).2.ahead = r.ahead ∧ (r.expect c).2.index = r.index ∧
      ∃ d, (r.expect c).2.diagnostics = r.diagnostics ++ [d] := by
  obtain ⟨-, complains, passes⟩ := passes_of_expect_false (Prod.ext h rfl)
  exact ⟨passes.ahead.symm, passes.index, _, complains⟩

end Calls

/-- **The answers account for the cursor.**  Let a new recognizer match any categories one after
another.  What is ahead of it then is what follows its cursor, which has not moved past the first
marker of the end, or past the end of the list if there is none.  The cursor is the number of
categories found, the end of the input left out, and these are in order the categories of the tokens
before it; and there are as many diagnostics as categories not found.  One more match succeeds
exactly with the category at the cursor, and if it fails, the cursor and the diagnostics so far stay
as they are. -/
theorem expectAll_accounts_for_cursor (ts : List Token) (tracer : Tracer) (cs : List Category) :
    let calls := (expectAll ⟨ts, 0, [], tracer⟩ cs).1
    let r := (expectAll ⟨ts, 0, [], tracer⟩ cs).2
    calls.map Prod.fst = cs ∧
      r.ahead = ts.drop r.index ∧
      r.index ≤ ts.findIdx Token.isEnd ∧
      r.index = (passedIn calls).length ∧
      passedIn calls = Token.categories (ts.take r.index) ∧
      r.diagnostics.length = (missedIn calls).length ∧
      ∀ c, ((r.expect c).1 = true ↔ Token.categoryAt ts r.index = c) ∧
        ((r.expect c).1 = false → (r.expect c).2.ahead = r.ahead ∧
          (r.expect c).2.index = r.index ∧
          ∃ d, (r.expect c).2.diagnostics = r.diagnostics ++ [d]) := by
  intro calls r
  have h : Tally ts calls r := (tally_start ts tracer).expectAll cs
  refine ⟨map_fst_expectAll _ cs, h.ahead, h.le_end, h.index_eq, h.passed, h.missed,
    fun c => ⟨?_, ?_⟩⟩
  · obtain ⟨tracer', hexpect⟩ := expect_standingAt ts r.index r.diagnostics r.tracer c
    rw [← h.eq_standingAt] at hexpect
    rw [hexpect]
    split <;> simp [*]
  · exact expect_of_fst_eq_false

/-- An article and an early marker, at which the end of the input is matched twice and a noun is
missed. -/
theorem expectAll_accounts_for_cursor_of_early_end :
    let ts : List Token := [⟨.article, "el", 0⟩, ⟨.endOfInput, "fin", 7⟩, ⟨.noun, "perro", 1⟩]
    let r := (expectAll ⟨ts, 0, [], .off⟩ [.article, .endOfInput, .endOfInput, .noun]).2
    (r.expect .verb).1 = false ∧ r.index = 1 ∧ r.index ≤ ts.findIdx Token.isEnd ∧
      r.diagnostics.length = 1 ∧ (r.expect .verb).2.index = 1 ∧
      ∃ d, (r.expect .verb).2.diagnostics = r.diagnostics ++ [d] := by
  intro ts r
  obtain ⟨-, -, hend, hindex, -, hmissed, hnext⟩ :=
    expectAll_accounts_for_cursor ts .off [.article, .endOfInput, .endOfInput, .noun]
  have hfails : (r.expect .verb).1 = false := by decide
  obtain ⟨-, hstays, hsaid⟩ := (hnext .verb).2 hfails
  exact ⟨hfails, hindex, hend, hmissed, hstays.trans hindex, hsaid⟩

end Recognizer
end Oracion
