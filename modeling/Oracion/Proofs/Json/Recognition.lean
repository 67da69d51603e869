import Oracion.Proofs.Json.Grammar

/-!
# The reader recognizes the grammar

The reader accepts the texts of the grammar and no others.  In one direction the induction
goes along the grammar: its text is read in front of everything that can follow it, and each
symbol pays for the step of the recursion that it takes, so the bound is never met.  In the
other direction it goes along the bound: what one call takes from the front is a text of the
grammar if that holds of the calls it makes.

## Main definitions

* `Part.IsRead` — characters are read as a part of a text, wherever they stand.
* `ReadsGrammar` — what the reader takes from the front is a text of the grammar.

## Main results

* `Spells.isRead` — what the grammar allows is read.
* `readsGrammar` — what is read is allowed by the grammar.
* `parse?_eq_some_iff` — **the reader accepts the texts of the grammar and no others.**
-/

namespace Oracion
namespace Json

/-! ### What the grammar allows is read -/

section Steps

variable {fuel : Nat} {cs cs' rest : List Char} {j : Json} {js : List Json} {k : Option String}
  {ms : List (Option String × Json)}

theorem readValue_skipSpace (fuel : Nat) (cs : List Char) :
    readValue fuel (skipSpace cs) = readValue fuel cs := by
  cases fuel with
  | zero => rfl
  | succ fuel => rw [readValue, readValue, skipSpace_skipSpace]

theorem readItems_skipSpace (fuel : Nat) (cs : List Char) :
    readItems fuel (skipSpace cs) = readItems fuel cs := by
  cases fuel with
  | zero => rfl
  | succ fuel => rw [readItems, readItems, readValue_skipSpace]

theorem readMembers_skipSpace (fuel : Nat) (cs : List Char) :
    readMembers fuel (skipSpace cs) = readMembers fuel cs := by
  cases fuel with
  | zero => rfl
  | succ fuel => rw [readMembers, readMembers, skipSpace_skipSpace]

/-- A numeral starts like no other document. -/
theorem readValue_numeral (hcs : Numeral cs) (h : Closes rest) :
    readValue (fuel + 1) (cs ++ rest) = some (.num (String.ofList cs), rest) := by
  have hread := readNumeral_append hcs h
  obtain ⟨c, cs, rfl, hc⟩ : ∃ c cs', cs = c :: cs' ∧ (c.isDigit || c == '-') = true := by
    rcases hcs with hcs | ⟨ds, -, rfl⟩
    · obtain ⟨d, ds, hds, hd⟩ := hcs.exists_cons
      exact ⟨d, ds, hds, by rw [hd, Bool.true_or]⟩
    · exact ⟨'-', ds, rfl, rfl⟩
  have hne : ∀ d : Char, (d.isDigit || d == '-') = false → c ≠ d := by
    rintro d hd rfl
    rw [hc] at hd
    cases hd
  have hspace : isSpace c = false := by
    simp [isSpace, hne ' ' rfl, hne '\n' rfl, hne '\t' rfl, hne '\r' rfl]
  rw [List.cons_append] at hread ⊢
  simp [readValue, skipSpace_cons hspace, hread, hne '"' rfl, hne '[' rfl, hne '\x7b' rfl,
    hne 'n' rfl, hne 't' rfl, hne 'f' rfl]

/-- No item starts with the bracket that closes an array. -/
theorem readItems_bracket (fuel : Nat) (cs : List Char) : readItems fuel (']' :: cs) = none := by
  cases fuel with
  | zero => rfl
  | succ fuel =>
    cases fuel with
    | zero => simp [readItems, readValue]
    | succ fuel =>
      simp [readItems, readValue, skipSpace, isSpace, readNumeral, readUnsigned, readWhole,
        readDigits]

theorem readMembers_brace (fuel : Nat) (cs : List Char) :
    readMembers fuel ('\x7d' :: cs) = none := by
  cases fuel with
  | zero => rfl
  | succ fuel => simp [readMembers, skipSpace, isSpace]

theorem readValue_arr (h : readItems fuel cs = some (js, rest)) :
    readValue (fuel + 1) ('[' :: cs) = some (.arr js, rest) := by
  rw [← readItems_skipSpace] at h
  simp (disch := decide) only [readValue, skipSpace_cons]
  split
  · next heq =>
    rw [heq, readItems_bracket] at h
    cases h
  · rw [h]
    rfl

theorem readValue_obj (h : readMembers fuel cs = some (ms, rest)) :
    readValue (fuel + 1) ('\x7b' :: cs) = some (.obj ms, rest) := by
  rw [← readMembers_skipSpace] at h
  simp (disch := decide) only [readValue, skipSpace_cons]
  split
  · next heq =>
    rw [heq, readMembers_brace] at h
    cases h
  · rw [h]
    rfl

theorem readItems_last (h : readValue fuel cs = some (j, cs'))
    (hcs' : skipSpace cs' = ']' :: rest) : readItems (fuel + 1) cs = some ([j], rest) := by
  simp [readItems, h, hcs']

theorem readItems_more {cs'' : List Char} (h : readValue fuel cs = some (j, cs'))
    (hcs' : skipSpace cs' = ',' :: cs'') (h' : readItems fuel cs'' = some (js, rest)) :
    readItems (fuel + 1) cs = some (j :: js, rest) := by
  simp [readItems, h, hcs', h']

theorem readMembers_last {body cs₁ cs₂ : List Char} (hcs : skipSpace cs = '"' :: body)
    (hk : readText body = some (k, cs₁)) (hcs₁ : skipSpace cs₁ = ':' :: cs₂)
    (h : readValue fuel cs₂ = some (j, cs')) (hcs' : skipSpace cs' = '\x7d' :: rest) :
    readMembers (fuel + 1) cs = some ([(k, j)], rest) := by
  simp [readMembers, hcs, hk, hcs₁, h, hcs']

theorem readMembers_more {body cs₁ cs₂ cs'' : List Char} (hcs : skipSpace cs = '"' :: body)
    (hk : readText body = some (k, cs₁)) (hcs₁ : skipSpace cs₁ = ':' :: cs₂)
    (h : readValue fuel cs₂ = some (j, cs')) (hcs' : skipSpace cs' = ',' :: cs'')
    (h' : readMembers fuel cs'' = some (ms, rest)) :
    readMembers (fuel + 1) cs = some ((k, j) :: ms, rest) := by
  simp [readMembers, hcs, hk, hcs₁, h, hcs', h']

/-- A name is read up to the colon behind it, with the space around it. -/
theorem exists_readText {s name s' : List Char} (hs : Blank s) (hname : Literal name k)
    (hs' : Blank s') (cs : List Char) :
    ∃ body cs₁, skipSpace (s ++ name ++ s' ++ ':' :: cs) = '"' :: body ∧
      readText body = some (k, cs₁) ∧ skipSpace cs₁ = ':' :: cs := by
  obtain ⟨body, rfl, hbody⟩ := readText_append hname
  refine ⟨body ++ (s' ++ ':' :: cs), s' ++ ':' :: cs, ?_, hbody _, ?_⟩
  · rw [List.append_assoc, List.append_assoc, hs.skipSpace_append]
    exact skipSpace_cons (by decide) _
  · rw [hs'.skipSpace_append]
    exact skipSpace_cons (by decide) _

end Steps

/-- The characters are read as this part of a text, in front of anything that can follow it,
if the bound on the recursion exceeds their number.  Space behind a document may be left. -/
def Part.IsRead (cs : List Char) : Part → Prop
  | .value j => ∀ fuel rest, cs.length ≤ fuel → Closes rest →
      ∃ rest', readValue (fuel + 1) (cs ++ rest) = some (j, rest') ∧
        skipSpace rest' = skipSpace rest
  | .items js => ∀ fuel rest, cs.length ≤ fuel →
      readItems (fuel + 2) (cs ++ ']' :: rest) = some (js, rest)
  | .members ms => ∀ fuel rest, cs.length ≤ fuel →
      readMembers (fuel + 2) (cs ++ '\x7d' :: rest) = some (ms, rest)

/-- **What the grammar allows is read**, wherever it stands. -/
theorem Spells.isRead {cs : List Char} {p : Part} (h : Spells cs p) : p.IsRead cs := by
  induction h with
  | null =>
    intro fuel rest _ _
    exact ⟨rest, by simp [readValue, skipSpace, isSpace, dropText?], rfl⟩
  | true =>
    intro fuel rest _ _
    exact ⟨rest, by simp [readValue, skipSpace, isSpace, dropText?], rfl⟩
  | false =>
    intro fuel rest _ _
    exact ⟨rest, by simp [readValue, skipSpace, isSpace, dropText?], rfl⟩
  | num h =>
    intro fuel rest _ hrest
    exact ⟨rest, readValue_numeral h hrest, rfl⟩
  | str h =>
    intro fuel rest _ _
    obtain ⟨body, rfl, hbody⟩ := readText_append h
    refine ⟨rest, ?_, rfl⟩
    simp (disch := decide) [readValue, skipSpace_cons, hbody]
  | noItems hs =>
    intro fuel rest _ _
    refine ⟨rest, ?_, rfl⟩
    simp (disch := decide) [readValue, skipSpace_cons, hs.skipSpace_append]
  | arr _ ih =>
    intro fuel rest hfuel _
    simp only [List.length_cons, List.length_append, List.length_nil] at hfuel
    obtain ⟨fuel, rfl⟩ : ∃ n, fuel = n + 2 := ⟨fuel - 2, by omega⟩
    refine ⟨rest, ?_, rfl⟩
    rw [List.cons_append, List.append_assoc, List.singleton_append]
    exact readValue_arr (ih fuel rest (by omega))
  | noMembers hs =>
    intro fuel rest _ _
    refine ⟨rest, ?_, rfl⟩
    simp (disch := decide) [readValue, skipSpace_cons, hs.skipSpace_append]
  | obj _ ih =>
    intro fuel rest hfuel _
    simp only [List.length_cons, List.length_append, List.length_nil] at hfuel
    obtain ⟨fuel, rfl⟩ : ∃ n, fuel = n + 2 := ⟨fuel - 2, by omega⟩
    refine ⟨rest, ?_, rfl⟩
    rw [List.cons_append, List.append_assoc, List.singleton_append]
    exact readValue_obj (ih fuel rest (by omega))
  | @space s cs s' j hs _ hs' ih =>
    intro fuel rest hfuel hrest
    simp only [List.length_append] at hfuel
    obtain ⟨rest', hread, hskip⟩ := ih fuel (s' ++ rest) (by omega) (hs'.closes_append hrest)
    refine ⟨rest', ?_, hskip.trans (hs'.skipSpace_append rest)⟩
    rw [List.append_assoc, List.append_assoc, ← readValue_skipSpace, hs.skipSpace_append,
      readValue_skipSpace, hread]
  | item _ ih =>
    intro fuel rest hfuel
    obtain ⟨rest', hread, hskip⟩ := ih fuel (']' :: rest) hfuel (closes_cons (by decide) rest)
    exact readItems_last hread (hskip.trans (skipSpace_cons (by decide) rest))
  | @items cs cs' j js _ _ ih ih' =>
    intro fuel rest hfuel
    simp only [List.length_cons, List.length_append] at hfuel
    -- the comma pays for the step to the next item
    obtain ⟨fuel, rfl⟩ : ∃ n, fuel = n + 1 := ⟨fuel - 1, by omega⟩
    obtain ⟨rest', hread, hskip⟩ := ih (fuel + 1) (',' :: (cs' ++ ']' :: rest)) (by omega)
      (closes_cons (by decide) _)
    rw [List.append_assoc, List.cons_append]
    exact readItems_more hread (hskip.trans (skipSpace_cons (by decide) _))
      (ih' fuel rest (by omega))
  | @member s name s' cs k j hs hname hs' _ ih =>
    intro fuel rest hfuel
    simp only [List.length_cons, List.length_append] at hfuel
    obtain ⟨body, cs₁, hbody, htext, hcolon⟩ :=
      exists_readText hs hname hs' (cs ++ '\x7d' :: rest)
    obtain ⟨rest', hread, hskip⟩ := ih fuel ('\x7d' :: rest) (by omega)
      (closes_cons (by decide) rest)
    rw [List.append_assoc, List.cons_append]
    exact readMembers_last hbody htext hcolon hread
      (hskip.trans (skipSpace_cons (by decide) rest))
  | @members s name s' cs cs' k j ms hs hname hs' _ _ ih ih' =>
    intro fuel rest hfuel
    simp only [List.length_cons, List.length_append] at hfuel
    obtain ⟨fuel, rfl⟩ : ∃ n, fuel = n + 1 := ⟨fuel - 1, by omega⟩
    obtain ⟨body, cs₁, hbody, htext, hcolon⟩ :=
      exists_readText hs hname hs' (cs ++ ',' :: (cs' ++ '\x7d' :: rest))
    obtain ⟨rest', hread, hskip⟩ := ih (fuel + 1) (',' :: (cs' ++ '\x7d' :: rest)) (by omega)
      (closes_cons (by decide) _)
    rw [List.append_assoc, List.cons_append, List.append_assoc cs, List.cons_append]
    exact readMembers_more hbody htext hcolon hread (hskip.trans (skipSpace_cons (by decide) _))
      (ih' fuel rest (by omega))

/-! ### What is read is allowed by the grammar -/

/-- What each part of the reader takes from the front is what the grammar calls by that
name. -/
structure ReadsGrammar (fuel : Nat) : Prop where
  /-- Documents. -/
  value : ∀ {cs j rest}, readValue fuel cs = some (j, rest) →
    ∃ ds, Spells ds (.value j) ∧ cs = ds ++ rest
  /-- The items of an array, with the closing bracket. -/
  items : ∀ {cs js rest}, readItems fuel cs = some (js, rest) →
    ∃ ds, Spells ds (.items js) ∧ cs = ds ++ ']' :: rest
  /-- The members of an object, with the closing brace. -/
  members : ∀ {cs ms rest}, readMembers fuel cs = some (ms, rest) →
    ∃ ds, Spells ds (.members ms) ∧ cs = ds ++ '\x7d' :: rest

theorem dropText?_sound {text cs rest : List Char} (h : dropText? text cs = some rest) :
    cs = text ++ rest := by
  fun_induction dropText? text cs with
  | case1 cs => exact Option.some.inj h
  | case2 => cases h
  | case3 as c cs ih => rw [ih h, List.cons_append]
  | case4 => cases h

/-- Space in front of a document belongs to its text. -/
theorem Spells.spaced {cs ds rest : List Char} {j : Json} (h : Spells ds (.value j))
    (hcs : skipSpace cs = ds ++ rest) : ∃ ds', Spells ds' (.value j) ∧ cs = ds' ++ rest := by
  obtain ⟨s, hs, heq⟩ := exists_blank_append cs
  refine ⟨s ++ ds ++ [], .space hs h blank_nil, ?_⟩
  rw [List.append_nil, List.append_assoc, ← hcs]
  exact heq

section Sound

variable {fuel : Nat} {cs rest : List Char}

theorem readValue_sound {j : Json} (ih : ReadsGrammar fuel)
    (h : readValue (fuel + 1) cs = some (j, rest)) :
    ∃ ds, Spells ds (.value j) ∧ cs = ds ++ rest := by
  rw [readValue] at h
  split at h
  · cases h
  · next cs' heq =>
    obtain ⟨⟨t, rest'⟩, hread, hj⟩ := Option.map_eq_some_iff.mp h
    obtain ⟨rfl, rfl⟩ := Prod.mk.inj hj
    obtain ⟨name, hname, htext⟩ := readText_sound hread
    exact (Spells.str hname).spaced (heq.trans htext)
  · next cs' heq =>
    split at h
    · next rest' hclose =>
      obtain ⟨rfl, rfl⟩ := Prod.mk.inj (Option.some.inj h)
      obtain ⟨s, hs, hcs'⟩ := exists_blank_append cs'
      rw [hclose] at hcs'
      exact (Spells.noItems hs).spaced (by rw [heq, hcs']; simp)
    · obtain ⟨⟨js, rest'⟩, hread, hj⟩ := Option.map_eq_some_iff.mp h
      obtain ⟨rfl, rfl⟩ := Prod.mk.inj hj
      rw [readItems_skipSpace] at hread
      obtain ⟨ds, hds, rfl⟩ := ih.items hread
      exact (Spells.arr hds).spaced (by rw [heq]; simp)
  · next cs' heq =>
    split at h
    · next rest' hclose =>
      obtain ⟨rfl, rfl⟩ := Prod.mk.inj (Option.some.inj h)
      obtain ⟨s, hs, hcs'⟩ := exists_blank_append cs'
      rw [hclose] at hcs'
      exact (Spells.noMembers hs).spaced (by rw [heq, hcs']; simp)
    · obtain ⟨⟨ms, rest'⟩, hread, hj⟩ := Option.map_eq_some_iff.mp h
      obtain ⟨rfl, rfl⟩ := Prod.mk.inj hj
      rw [readMembers_skipSpace] at hread
      obtain ⟨ds, hds, rfl⟩ := ih.members hread
      exact (Spells.obj hds).spaced (by rw [heq]; simp)
  · next cs' heq =>
    obtain ⟨rest', hread, hj⟩ := Option.map_eq_some_iff.mp h
    obtain ⟨rfl, rfl⟩ := Prod.mk.inj hj
    exact Spells.null.spaced (by rw [heq, dropText?_sound hread]; rfl)
  · next cs' heq =>
    obtain ⟨rest', hread, hj⟩ := Option.map_eq_some_iff.mp h
    obtain ⟨rfl, rfl⟩ := Prod.mk.inj hj
    exact Spells.true.spaced (by rw [heq, dropText?_sound hread]; rfl)
  · next cs' heq =>
    obtain ⟨rest', hread, hj⟩ := Option.map_eq_some_iff.mp h
    obtain ⟨rfl, rfl⟩ := Prod.mk.inj hj
    exact Spells.false.spaced (by rw [heq, dropText?_sound hread]; rfl)
  · obtain ⟨⟨ds, rest'⟩, hread, hj⟩ := Option.map_eq_some_iff.mp h
    obtain ⟨rfl, rfl⟩ := Prod.mk.inj hj
    obtain ⟨hds, hcs⟩ := readNumeral_sound hread
    exact (Spells.num hds).spaced hcs

theorem readItems_sound {js : List Json} (ih : ReadsGrammar fuel)
    (h : readItems (fuel + 1) cs = some (js, rest)) :
    ∃ ds, Spells ds (.items js) ∧ cs = ds ++ ']' :: rest := by
  rw [readItems] at h
  obtain ⟨⟨j, cs'⟩, hread, hmore⟩ := Option.bind_eq_some_iff.mp h
  obtain ⟨ds, hds, rfl⟩ := ih.value hread
  obtain ⟨s, hs, hcs'⟩ := exists_blank_append cs'
  have hspaced : Spells (ds ++ s) (.value j) := .space blank_nil hds hs
  dsimp only at hmore
  split at hmore
  · next rest' hclose =>
    obtain ⟨rfl, rfl⟩ := Prod.mk.inj (Option.some.inj hmore)
    refine ⟨ds ++ s, .item hspaced, ?_⟩
    rw [hcs', hclose, List.append_assoc]
  · next cs'' hcomma =>
    obtain ⟨⟨js, rest'⟩, hread', hjs⟩ := Option.bind_eq_some_iff.mp hmore
    obtain ⟨rfl, rfl⟩ := Prod.mk.inj (Option.some.inj hjs)
    obtain ⟨ds', hds', rfl⟩ := ih.items hread'
    refine ⟨ds ++ s ++ ',' :: ds', .items hspaced hds', ?_⟩
    rw [hcs', hcomma]
    simp only [List.append_assoc, List.cons_append]
  · cases hmore

theorem readMembers_sound {ms : List (Option String × Json)} (ih : ReadsGrammar fuel)
    (h : readMembers (fuel + 1) cs = some (ms, rest)) :
    ∃ ds, Spells ds (.members ms) ∧ cs = ds ++ '\x7d' :: rest := by
  obtain ⟨s, hs, hcs⟩ := exists_blank_append cs
  rw [readMembers] at h
  split at h
  · next cs₁ hquote =>
    obtain ⟨⟨k, cs₂⟩, hname, hvalue⟩ := Option.bind_eq_some_iff.mp h
    obtain ⟨name, hliteral, htext⟩ := readText_sound hname
    obtain ⟨s', hs', hcs₂⟩ := exists_blank_append cs₂
    dsimp only at hvalue
    split at hvalue
    · next cs₃ hcolon =>
      obtain ⟨⟨j, cs₄⟩, hread, hmore⟩ := Option.bind_eq_some_iff.mp hvalue
      obtain ⟨ds, hds, rfl⟩ := ih.value hread
      obtain ⟨s'', hs'', hcs₄⟩ := exists_blank_append cs₄
      have hspaced : Spells (ds ++ s'') (.value j) := .space blank_nil hds hs''
      -- all that has been read, up to what follows the value
      have hfront : cs = s ++ name ++ s' ++ ':' :: (ds ++ s'' ++ skipSpace cs₄) := by
        rw [hcs, hquote, htext, hcs₂, hcolon, List.append_assoc ds, ← hcs₄]
        simp only [List.append_assoc]
      dsimp only at hmore
      split at hmore
      · next rest' hclose =>
        obtain ⟨rfl, rfl⟩ := Prod.mk.inj (Option.some.inj hmore)
        refine ⟨_, .member hs hliteral hs' hspaced, ?_⟩
        rw [hfront, hclose]
        simp only [List.append_assoc, List.cons_append]
      · next cs₅ hcomma =>
        obtain ⟨⟨ms, rest'⟩, hread', hms⟩ := Option.bind_eq_some_iff.mp hmore
        obtain ⟨rfl, rfl⟩ := Prod.mk.inj (Option.some.inj hms)
        obtain ⟨ds', hds', rfl⟩ := ih.members hread'
        refine ⟨_, .members hs hliteral hs' hspaced hds', ?_⟩
        rw [hfront, hcomma]
        simp only [List.append_assoc, List.cons_append]
      · cases hmore
    · cases hvalue
  · cases h

end Sound

/-- **What is read is allowed by the grammar.** -/
theorem readsGrammar (fuel : Nat) : ReadsGrammar fuel := by
  induction fuel with
  | zero =>
    refine ⟨?_, ?_, ?_⟩
    · intro cs j rest h
      cases h
    · intro cs js rest h
      cases h
    · intro cs ms rest h
      cases h
  | succ fuel ih => exact ⟨readValue_sound ih, readItems_sound ih, readMembers_sound ih⟩

/-- **The reader accepts the texts of the grammar and no others**, each as the document that
the grammar says it is. -/
theorem parse?_eq_some_iff {text : String} {j : Json} :
    parse? text = some j ↔ Spells text.toList (.value j) := by
  constructor
  · intro h
    unfold parse? at h
    dsimp only at h
    split at h
    · next j' rest hread =>
      split at h
      · next hrest =>
        obtain rfl := Option.some.inj h
        obtain ⟨ds, hds, htext⟩ := (readsGrammar _).value hread
        obtain ⟨s, hs, hcs⟩ := exists_blank_append rest
        rw [List.isEmpty_iff.mp hrest, List.append_nil] at hcs
        rw [htext, hcs]
        exact .space blank_nil hds hs
      · cases h
    · cases h
  · intro h
    obtain ⟨rest, hread, hrest⟩ := h.isRead (2 * text.toList.length) [] (by omega)
      (by simp [Closes])
    rw [List.append_nil] at hread
    have hend : (skipSpace rest).isEmpty = true := by
      rw [hrest]
      rfl
    simp only [parse?, hread, hend, if_true]

end Json
end Oracion
