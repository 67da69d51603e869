import Oracion.Proofs.Sentence.Account
import Oracion.Proofs.Sentence.Cursor
import Oracion.Proofs.Sentence.Split

/-!
# The longest noun phrase ahead

The machine for noun phrases is driven by a loop that has no bound of its own: it goes on with
whatever state the machine is in after a match, and at the end of the input it does not even move.
It ends because each match brings the machine closer to its end.  So it asks for three categories at
most, and they are the categories of the tokens that it passes over, with one more if that one is
not found.

Wherever it is started, the loop then finds the longest of the noun phrases that begin there.  If
none does, it stands at the first token that no noun phrase has at this place, and the one
diagnostic that it adds is about this token.

## Main definitions

* `Recognizer.Drives` — the loop, match by match.
* `NounPhrase.Shape.LongestIn` — the longest shape that some categories begin with.
* `Recognizer.PhraseEnd` — the ways in which the match of a noun phrase at a place can end.

## Main results

* `Recognizer.exists_drives` — **the loop ends**, after at most as many matches as the state leaves.
* `Recognizer.fst_nounPhrase_eq_some_iff` — **it finds the longest phrase.**
* `Recognizer.nounPhrase_matches_longest` — **a noun phrase is matched in three steps at most, and
  is the longest one.**
-/

namespace Oracion

open NounPhrase Grammar

/-! ### Longest shapes -/

namespace NounPhrase.Shape

/-- A shape is the longest of those that some categories begin with. -/
def LongestIn (shape : Shape) (cs : List Category) : Prop :=
  shape.categories <+: cs ∧
    ∀ other : Shape, other.categories <+: cs → other.categories.length ≤ shape.categories.length

theorem length_categories (shape : Shape) :
    shape.categories.length = if shape = .bare then 2 else 3 := by
  cases shape <;> rfl

theorem length_categories_le (shape : Shape) : shape.categories.length ≤ 3 := by
  cases shape <;> decide

/-- There is only one: of the same length, two shapes are the same. -/
theorem LongestIn.unique {s t : Shape} {cs : List Category} (hs : s.LongestIn cs)
    (ht : t.LongestIn cs) : s = t := by
  have hlength := Nat.le_antisymm (ht.2 s hs.1) (hs.2 t ht.1)
  exact categories_injective ((List.prefix_of_prefix_length_le hs.1 ht.1 hlength.le).eq_of_length
    hlength)

theorem longestIn_adjectiveLast {cs : List Category} (h : adjectiveLast.categories <+: cs) :
    adjectiveLast.LongestIn cs := ⟨h, fun other _ => length_categories_le other⟩

end NounPhrase.Shape

namespace Recognizer

/-! ### The loop -/

/-- The loop goes from a state of the machine and a recognizer to a result, and asks for categories
one after another on its way. -/
inductive Drives : State → Recognizer → List Category → Option Shape × Recognizer → Prop
  /-- The machine accepts, and nothing is asked for. -/
  | accepted {s : State} {r : Recognizer} {shape : Shape}
      (next : s.next r.category = .accept shape) : Drives s r [] (some shape, r)
  /-- The machine asks for a category that is not found. -/
  | missed {s s' : State} {r r' : Recognizer} {c : Category}
      (next : s.next r.category = .expect c s') (answer : r.expect c = (false, r')) :
      Drives s r [c] (none, r')
  /-- The machine asks for a category that is found, and the loop goes on. -/
  | matched {s s' : State} {r r' : Recognizer} {c : Category} {cs : List Category}
      {result : Option Shape × Recognizer} (next : s.next r.category = .expect c s')
      (answer : r.expect c = (true, r')) (rest : Drives s' r' cs result) :
      Drives s r (c :: cs) result

/-- **The loop ends**, and before that asks for no more categories than the state leaves to ask
for. -/
theorem exists_drives (s : State) (r : Recognizer) :
    ∃ cs, cs.length ≤ s.remaining ∧ Drives s r cs (nounPhraseFrom s r) := by
  fun_induction nounPhraseFrom s r with
  | case1 s r shape h => exact ⟨[], Nat.zero_le _, .accepted h⟩
  | case2 s r c s' h r' he ih =>
    obtain ⟨cs, hle, hdrives⟩ := ih
    have hcloser := State.remaining_lt h
    exact ⟨c :: cs, by rw [List.length_cons]; omega, .matched h he hdrives⟩
  | case3 s r c s' h r' he =>
    have hcloser := State.remaining_lt h
    exact ⟨[c], by rw [List.length_singleton]; omega, .missed h he⟩

/-- With a shape, the loop has asked for the categories of the tokens that it has passed over. -/
theorem Drives.of_some {s : State} {r r' : Recognizer} {cs : List Category} {shape : Shape}
    (h : Drives s r cs (some shape, r')) : ∃ u, r.Passes u r' ∧ cs = Token.categories u := by
  generalize hresult : (some shape, r') = result at h
  induction h with
  | accepted =>
    obtain ⟨-, rfl⟩ := Prod.mk.inj hresult
    exact ⟨[], Passes.refl _, rfl⟩
  | missed => cases hresult
  | matched next answer _ ih =>
    obtain ⟨-, t, rfl, passes⟩ := passes_of_expect_true (State.ne_endOfInput_of_next next) answer
    obtain ⟨u, passes', rfl⟩ := ih hresult
    exact ⟨[t] ++ u, passes.trans passes', rfl⟩

/-- Without one, it has asked for one category more, and complains that this one is missing. -/
theorem Drives.of_none {s : State} {r r' : Recognizer} {cs : List Category}
    (h : Drives s r cs (none, r')) :
    ∃ u c, r.Passes u r' ∧ cs = Token.categories u ++ [c] ∧
      r'.diagnostics = r.diagnostics ++ [r'.complaint c] := by
  generalize hresult : ((none : Option Shape), r') = result at h
  induction h with
  | accepted => cases hresult
  | missed next answer =>
    obtain ⟨-, rfl⟩ := Prod.mk.inj hresult
    obtain ⟨-, complains, passes⟩ := passes_of_expect_false answer
    exact ⟨[], _, passes, rfl, complains⟩
  | matched next answer _ ih =>
    obtain ⟨quiet, t, rfl, passes⟩ :=
      passes_of_expect_true (State.ne_endOfInput_of_next next) answer
    obtain ⟨u, c, passes', rfl, complains⟩ := ih hresult
    exact ⟨[t] ++ u, c, passes.trans passes', rfl, by rw [complains, quiet]⟩

/-! ### What it finds -/

/-- What is ahead begins with some categories if it can be passed over so far. -/
theorem exists_passes_of_prefix {r : Recognizer} {cs : List Category}
    (h : cs <+: Token.categories r.ahead) :
    ∃ u r', r.Passes u r' ∧ Token.categories u = cs := by
  obtain ⟨rest, hrest⟩ := h
  obtain ⟨u, v, hahead, hu, -⟩ := List.map_eq_append_iff.mp hrest.symm
  obtain ⟨r', passes, -⟩ := exists_passes hahead
  exact ⟨u, r', passes, hu⟩

/-- A matcher that has found a word has found the longest one. -/
theorem Attempt.length_le {α : Type} {L : α → Language Category} {r r' : Recognizer} {a : α}
    {u : List Token} {w : List Category} (h : Attempt L r (some a, r')) (hu : r.Passes u r')
    (hword : w ∈ ⨆ a, L a) (hw : w <+: Token.categories r.ahead) : w.length ≤ u.length := by
  obtain ⟨v, r₁, hv, rfl⟩ := exists_passes_of_prefix hw
  cases h with
  | found passes quiet word longest =>
    rw [hu.unique passes, Token.categories, List.length_map]
    exact hv.length_le passes (viable_of_mem hword) longest

theorem longestIn_of_nounPhrase {r r' : Recognizer} {shape : Shape}
    (h : r.nounPhrase = (some shape, r')) : shape.LongestIn (Token.categories r.ahead) := by
  have hreads := reads_nounPhrase r
  rw [h] at hreads
  obtain ⟨u, passes, hword⟩ :
      ∃ u, r.Passes u r' ∧ Token.categories u = shape.categories := by
    cases hreads with
    | found passes quiet word longest => exact ⟨_, passes, word⟩
  refine ⟨?_, fun other hother => ?_⟩
  · rw [passes.ahead, Token.categories_append, hword]
    exact List.prefix_append _ _
  · rw [← hword, Token.categories, List.length_map]
    exact hreads.length_le passes (Language.mem_iSup.mpr ⟨other, rfl⟩) hother

/-- A start of a noun phrase has three words at most. -/
theorem length_le_of_viable_phrase {cs : List Category}
    (h : Viable (⨆ shape, phrase shape) cs) : cs.length ≤ 3 := by
  obtain ⟨shape, hpre⟩ := viable_phrase.mp h
  exact hpre.length_le.trans shape.length_categories_le

theorem not_prefix_of_nounPhrase {r r' : Recognizer} (h : r.nounPhrase = (none, r'))
    (shape : Shape) : ¬ shape.categories <+: Token.categories r.ahead := by
  intro hpre
  obtain ⟨v, r₁, hv, hword⟩ := exists_passes_of_prefix hpre
  have hmem : Token.categories v ∈ ⨆ shape, phrase shape := Language.mem_iSup.mpr ⟨shape, hword⟩
  have hreads := reads_nounPhrase r
  rw [h] at hreads
  cases hreads with
  | @lost u r' c passes complains unfinished possible misplaced =>
    -- the phrase would end where the matcher has stopped, which is before a phrase has ended
    have hle := hv.length_le passes (viable_of_mem hmem) misplaced
    have hshort := length_le_of_viable_phrase possible
    have hlong : 2 ≤ v.length := by
      have hlength := congrArg List.length hword
      rw [Shape.length_categories, Token.categories, List.length_map] at hlength
      split at hlength <;> omega
    rw [Token.categories, List.length_append, List.length_map, List.length_singleton] at hshort
    have hsame : v = u :=
      (List.append_inj (hv.ahead.symm.trans passes.ahead) (by omega)).1
    exact unfinished (hsame ▸ hmem)

/-- **The loop finds the longest phrase.** -/
theorem fst_nounPhrase_eq_some_iff {r : Recognizer} {shape : Shape} :
    r.nounPhrase.1 = some shape ↔ shape.LongestIn (Token.categories r.ahead) := by
  rcases h : r.nounPhrase with ⟨_ | found, r'⟩
  · have hnone := not_prefix_of_nounPhrase h shape
    exact iff_of_false nofun fun hlongest => hnone hlongest.1
  · have hfound := longestIn_of_nounPhrase h
    constructor
    · intro heq
      exact Option.some.inj heq ▸ hfound
    · intro hshape
      exact congrArg some (hfound.unique hshape)

/-- It finds one if there is one. -/
theorem isSome_fst_nounPhrase_iff {r : Recognizer} :
    r.nounPhrase.1.isSome = true ↔ ∃ cs, IsNounPhrase cs ∧ cs <+: Token.categories r.ahead := by
  rcases h : r.nounPhrase with ⟨_ | shape, r'⟩
  · refine iff_of_false nofun ?_
    rintro ⟨_, ⟨shape, rfl⟩, hpre⟩
    exact not_prefix_of_nounPhrase h shape hpre
  · exact iff_of_true rfl ⟨_, ⟨shape, rfl⟩, (longestIn_of_nounPhrase h).1⟩

/-! ### Where it ends -/

/-- The ways in which the match of a noun phrase at place `k` of `ts` can end, with the categories
that it has asked for. -/
inductive PhraseEnd (ts : List Token) (k : Nat) (ds : List Diagnostic) :
    List Category → Option Shape × Recognizer → Prop
  /-- It passes over the phrase, two tokens or, with an adjective, three, and says nothing. -/
  | found {shape : Shape} {n : Nat} {tracer : Tracer} (count : n = if shape = .bare then 2 else 3) :
      PhraseEnd ts k ds (Token.categories ((ts.drop k).take n))
        (some shape, standingAt ts (k + n) ds tracer)
  /-- It passes over two tokens at most, which begin a phrase.  The next does not go on with it, and
  this is said of that token, with a category that would. -/
  | lost {j : Nat} {c : Category} {tracer : Tracer} (few : j ≤ 2) (within : j ≤ (ts.drop k).length)
      (possible : ∃ shape : Shape,
        Token.categories ((ts.drop k).take j) ++ [c] <+: shape.categories)
      (misplaced : ∀ shape : Shape, ¬ Token.categories ((ts.drop k).take j) ++
        [Token.categoryAt ts (k + j)] <+: shape.categories) :
      PhraseEnd ts k ds (Token.categories ((ts.drop k).take j) ++ [c])
        (none, standingAt ts (k + j) (ds ++ [.unexpected (Token.positionAt ts (k + j)) c
          (Token.categoryAt ts (k + j)) (Token.textAt ts (k + j))]) tracer)

/-- A recognizer that passes over tokens from a place on stands behind them. -/
theorem Passes.eq_standingAt {ts u : List Token} {k : Nat} {ds : List Diagnostic}
    {tracer : Tracer} {r : Recognizer} (h : (standingAt ts k ds tracer).Passes u r) :
    r = standingAt ts (k + u.length) r.diagnostics r.tracer ∧ (ts.drop k).take u.length = u := by
  have hahead : ts.drop k = u ++ r.ahead := h.ahead
  have hindex : r.index = k + u.length := h.index
  constructor
  · rw [standingAt, ← List.drop_drop, hahead, List.drop_left, ← hindex]
  · rw [hahead, List.take_left]

section Ends

variable {ts u : List Token} {k : Nat} {ds : List Diagnostic} {tracer : Tracer} {r : Recognizer}

/-- The end of a match that has passed over a phrase. -/
theorem PhraseEnd.of_word {shape : Shape} (passes : (standingAt ts k ds tracer).Passes u r)
    (quiet : r.diagnostics = ds) (word : Token.categories u = shape.categories) :
    PhraseEnd ts k ds (Token.categories u) (some shape, r) := by
  obtain ⟨hplace, htake⟩ := passes.eq_standingAt
  have hcount : u.length = if shape = .bare then 2 else 3 := by
    rw [← shape.length_categories, ← word, Token.categories, List.length_map]
  have hend : PhraseEnd ts k ds (Token.categories ((ts.drop k).take u.length))
      (some shape, standingAt ts (k + u.length) ds r.tracer) := .found hcount
  rw [htake] at hend
  rw [hplace, quiet]
  exact hend

/-- The end of a match that stands at a token which is out of place. -/
theorem PhraseEnd.of_misplaced {c : Category} (passes : (standingAt ts k ds tracer).Passes u r)
    (complains : r.diagnostics = ds ++ [r.complaint c])
    (possible : Viable (⨆ shape, phrase shape) (Token.categories u ++ [c]))
    (misplaced : ¬ Viable (⨆ shape, phrase shape) (Token.categories u ++ [r.category])) :
    PhraseEnd ts k ds (Token.categories u ++ [c]) (none, r) := by
  obtain ⟨hplace, htake⟩ := passes.eq_standingAt
  have hcomplaint : r.complaint c = .unexpected (Token.positionAt ts (k + u.length)) c
      (Token.categoryAt ts (k + u.length)) (Token.textAt ts (k + u.length)) := by
    rw [complaint, hplace, position_standingAt, category_standingAt, text_standingAt]
  have hfew : u.length ≤ 2 := by
    have hshort := length_le_of_viable_phrase possible
    rw [Token.categories, List.length_append, List.length_map, List.length_singleton] at hshort
    omega
  have hwithin : u.length ≤ (ts.drop k).length := by
    rw [← htake, List.length_take]
    exact Nat.min_le_right _ _
  have hpossible : ∃ shape : Shape,
      Token.categories ((ts.drop k).take u.length) ++ [c] <+: shape.categories := by
    rw [htake]
    exact viable_phrase.mp possible
  have hmisplaced : ∀ shape : Shape, ¬ Token.categories ((ts.drop k).take u.length) ++
      [Token.categoryAt ts (k + u.length)] <+: shape.categories := by
    intro shape hpre
    rw [htake, ← category_standingAt ts (k + u.length) r.diagnostics r.tracer, ← hplace] at hpre
    exact misplaced (viable_phrase.mpr ⟨shape, hpre⟩)
  have hend : PhraseEnd ts k ds _ (none, standingAt ts (k + u.length) _ r.tracer) :=
    .lost hfew hwithin hpossible hmisplaced
  rw [htake] at hend
  rw [hplace, complains, hcomplaint]
  exact hend

end Ends

/-- The loop ends in one of these ways. -/
theorem Drives.phraseEnd {ts : List Token} {k : Nat} {ds : List Diagnostic} {tracer : Tracer}
    {asked : List Category}
    (h : Drives .start (standingAt ts k ds tracer) asked (standingAt ts k ds tracer).nounPhrase) :
    PhraseEnd ts k ds asked (standingAt ts k ds tracer).nounPhrase := by
  have hreads := reads_nounPhrase (standingAt ts k ds tracer)
  rcases hr : (standingAt ts k ds tracer).nounPhrase with ⟨result, r⟩
  rw [hr] at h hreads
  cases hreads with
  | found passes quiet word longest =>
    obtain ⟨u, passes', rfl⟩ := h.of_some
    obtain rfl := passes.unique passes'
    exact .of_word passes quiet word
  | @lost u r c passes complains unfinished possible misplaced =>
    obtain ⟨u', c', passes', rfl, complains'⟩ := h.of_none
    obtain rfl := passes.unique passes'
    -- both say the same of the same token, so it is the same category that is missing
    obtain rfl : c = c' := by
      have hsame := complains.symm.trans complains'
      simpa [complaint] using hsame
    exact .of_misplaced passes complains possible misplaced

/-- **A noun phrase is matched in three steps at most, and is the longest one.**  From any place of
any tokens, after any diagnostics and whoever is told about it, the match succeeds exactly when the
categories from there on begin with a noun phrase; its shape is that of the longest such phrase, so
an adjective behind an article and a noun is never left.  The loop asks for three categories at most
and ends as `PhraseEnd` says. -/
theorem nounPhrase_matches_longest (ts : List Token) (k : Nat) (ds : List Diagnostic)
    (tracer : Tracer) :
    let r := standingAt ts k ds tracer
    let ahead := Token.categories (ts.drop k)
    (r.nounPhrase.1.isSome = true ↔ ∃ cs, IsNounPhrase cs ∧ cs <+: ahead) ∧
      (∀ shape, r.nounPhrase.1 = some shape ↔ shape.LongestIn ahead) ∧
      ([.article, .noun, .adjective] <+: ahead → r.nounPhrase.1 = some .adjectiveLast) ∧
      ∃ asked, asked.length ≤ 3 ∧ Drives .start r asked r.nounPhrase ∧
        PhraseEnd ts k ds asked r.nounPhrase := by
  intro r ahead
  obtain ⟨asked, hle, hdrives⟩ := exists_drives .start r
  refine ⟨isSome_fst_nounPhrase_iff, fun shape => fst_nounPhrase_eq_some_iff, fun h => ?_,
    asked, hle, hdrives, hdrives.phraseEnd⟩
  exact fst_nounPhrase_eq_some_iff.mpr (Shape.longestIn_adjectiveLast h)

/-- Behind a verb, and after a diagnostic, a phrase that two adjectives follow: the first of them
belongs to it. -/
theorem nounPhrase_matches_longest_of_two_adjectives :
    let ts : List Token := [⟨.verb, "ve", 0⟩, ⟨.article, "la", 9⟩, ⟨.noun, "casa", 2⟩,
      ⟨.adjective, "roja", 3⟩, ⟨.adjective, "vieja", 4⟩]
    let ds : List Diagnostic := [.trailing 5 "come"]
    let r := standingAt ts 1 ds .buffered
    [.article, .noun, .adjective] <+: Token.categories (ts.drop 1) ∧
      r.nounPhrase.1 = some .adjectiveLast ∧
      ∃ asked, asked.length ≤ 3 ∧ Drives .start r asked r.nounPhrase ∧
        PhraseEnd ts 1 ds asked r.nounPhrase := by
  intro ts ds r
  obtain ⟨-, -, hlast, hends⟩ := nounPhrase_matches_longest ts 1 ds .buffered
  have hpre : [.article, .noun, .adjective] <+: Token.categories (ts.drop 1) := by decide
  exact ⟨hpre, hlast hpre, hends⟩

end Recognizer
end Oracion
