import Mathlib.Data.List.Nodup
import Oracion.Proofs.Analysis.Verdict

/-!
# Words with two categories

A word is given the first category whose set holds it.  So a word that stands in two sets is lost
to the later one, and `Vocabulary.overlaps` lists just these losses: each word with each pair of an
earlier and a later category that both hold it, once.  A vocabulary without such words can be read
the other way round: to be given a category is to stand in its set.

That one category comes before another is said by a sublist: `[a, b] <+ l` when `a` stands in `l`
somewhere before `b`.

## Main results

* `mem_orderedPairs`, `nodup_orderedPairs` — the pairs of an earlier and a later item.
* `find?_eq_some_iff_sublist` — the item that a search finds.
* `Vocabulary.mem_overlaps`, `Vocabulary.nodup_overlaps` — **what is listed, and that it is listed
  once.**
* `Vocabulary.classify_eq_iff` — **a word has the first category whose set holds it.**
* `Vocabulary.overlaps_tell_ambiguity` — **nothing is listed exactly when each word has one
  category.**
-/

namespace Oracion

open scoped List

/-! ### Earlier and later items -/

section Lists

variable {α : Type} {l : List α}

/-- The pairs of a list are the pairs of an item and one that comes later. -/
theorem mem_orderedPairs {p : α × α} : p ∈ orderedPairs l ↔ [p.1, p.2] <+ l := by
  induction l with
  | nil => simp [orderedPairs]
  | cons a l ih =>
    obtain ⟨x, y⟩ := p
    rw [orderedPairs, List.mem_append, ih, List.sublist_cons_iff, or_comm]
    refine or_congr_right ?_
    constructor
    · intro h
      obtain ⟨b, hb, heq⟩ := List.mem_map.mp h
      obtain ⟨rfl, rfl⟩ := Prod.mk.inj heq
      exact ⟨[b], rfl, List.singleton_sublist.mpr hb⟩
    · rintro ⟨r, heq, hr⟩
      obtain ⟨rfl, rfl⟩ := List.cons.inj heq
      exact List.mem_map_of_mem (List.singleton_sublist.mp hr)

theorem nodup_orderedPairs (h : l.Nodup) : (orderedPairs l).Nodup := by
  induction l with
  | nil => exact List.nodup_nil
  | cons a l ih =>
    obtain ⟨ha, hl⟩ := List.nodup_cons.mp h
    refine List.Nodup.append (hl.map (Prod.mk_right_injective a)) (ih hl) ?_
    -- a pair that begins with `a` is not one of later items
    intro p hp hq
    obtain ⟨b, -, rfl⟩ := List.mem_map.mp hp
    exact ha ((mem_orderedPairs.mp hq).subset List.mem_cons_self)

/-- A search finds the one item that fits and comes before all others that do. -/
theorem find?_eq_some_iff_sublist {p : α → Bool} {c : α} (h : l.Nodup) :
    l.find? p = some c ↔ c ∈ l ∧ p c = true ∧ ∀ d, [d, c] <+ l → p d = false := by
  induction l with
  | nil => simp
  | cons a l ih =>
    obtain ⟨ha, hl⟩ := List.nodup_cons.mp h
    cases hp : p a with
    | true =>
      rw [List.find?_cons_of_pos hp, Option.some.injEq]
      constructor
      · rintro rfl
        refine ⟨List.mem_cons_self, hp, fun d hd => ?_⟩
        -- the item would stand in the list twice
        have hmem : a ∈ l := List.singleton_sublist.mp (hd.tail)
        exact absurd hmem ha
      · rintro ⟨hmem, -, hfirst⟩
        rcases List.mem_cons.mp hmem with rfl | hmem
        · rfl
        · have hbefore := hfirst a ((List.singleton_sublist.mpr hmem).cons_cons a)
          rw [hp] at hbefore
          cases hbefore
    | false =>
      rw [List.find?_cons_of_neg (by simp [hp]), ih hl]
      constructor
      · rintro ⟨hmem, hc, hfirst⟩
        refine ⟨List.mem_cons_of_mem a hmem, hc, fun d hd => ?_⟩
        rcases List.sublist_cons_iff.mp hd with hd | ⟨r, heq, -⟩
        · exact hfirst d hd
        · rw [(List.cons.inj heq).1, hp]
      · rintro ⟨hmem, hc, hfirst⟩
        refine ⟨List.mem_of_ne_of_mem ?_ hmem, hc, fun d hd => hfirst d (hd.cons a)⟩
        rintro rfl
        rw [hp] at hc
        cases hc

end Lists

namespace Vocabulary

theorem nodup_lexical : Category.lexical.Nodup := by decide

/-! ### What is listed -/

/-- **A word is listed with two categories if both hold it** and the first comes before the
second. -/
theorem mem_overlaps {v : Vocabulary} {o : Overlap} :
    o ∈ v.overlaps ↔ [o.first, o.second] <+ Category.lexical ∧
      v.contains o.first o.word = true ∧ v.contains o.second o.word = true := by
  rw [overlaps, List.mem_flatMap]
  constructor
  · rintro ⟨p, hp, ho⟩
    obtain ⟨w, hw, rfl⟩ := List.mem_map.mp ho
    obtain ⟨hfirst, hsecond⟩ := List.mem_filter.mp hw
    exact ⟨mem_orderedPairs.mp hp, contains_iff.mpr hfirst, hsecond⟩
  · rintro ⟨hbefore, hfirst, hsecond⟩
    refine ⟨(o.first, o.second), mem_orderedPairs.mpr hbefore, List.mem_map.mpr ⟨o.word, ?_, rfl⟩⟩
    exact List.mem_filter.mpr ⟨contains_iff.mp hfirst, hsecond⟩

/-- **It is listed once.** -/
theorem nodup_overlaps (v : Vocabulary) : v.overlaps.Nodup := by
  rw [overlaps, List.nodup_flatMap]
  constructor
  · -- for one pair of categories, because a set holds a word once
    intro p _
    have hwords : ((v.words p.1).filter (v.contains p.2)).Nodup := (v.set p.1).nodup.filter _
    exact hwords.map fun w w' h => congrArg Overlap.word h
  · -- and for different pairs, because they are part of what is listed
    refine (nodup_orderedPairs nodup_lexical).imp fun {p q} hne o hp hq => ?_
    obtain ⟨w, -, rfl⟩ := List.mem_map.mp hp
    obtain ⟨w', -, heq⟩ := List.mem_map.mp hq
    have hfirst : q.1 = p.1 := congrArg Overlap.first heq
    have hsecond : q.2 = p.2 := congrArg Overlap.second heq
    exact hne (Prod.ext hfirst.symm hsecond.symm)

/-! ### The category of a word -/

/-- **A word has the first category whose set holds it.** -/
theorem classify_eq_iff {v : Vocabulary} {w : String} {c : Category}
    (hc : c ∈ Category.lexical) :
    v.classify w = c ↔ v.contains c w = true ∧
      ∀ d, [d, c] <+ Category.lexical → v.contains d w = false := by
  have hfound : v.classify w = c ↔ Category.lexical.find? (fun c => v.contains c w) = some c := by
    rw [classify]
    cases Category.lexical.find? fun c => v.contains c w with
    | none => simpa using (Category.mem_lexical_iff.mp hc).2.symm
    | some d => simp
  rw [hfound, find?_eq_some_iff_sublist nodup_lexical]
  exact and_iff_right hc

/-- **Nothing is listed exactly when to have a category is to stand in its set.** -/
theorem overlaps_eq_nil_iff {v : Vocabulary} :
    v.overlaps = [] ↔
      ∀ w, ∀ c ∈ Category.lexical, v.classify w = c ↔ v.contains c w = true := by
  rw [List.eq_nil_iff_forall_not_mem]
  constructor
  · intro hnone w c hc
    rw [classify_eq_iff hc]
    refine and_iff_left_of_imp fun hw d hd => ?_
    -- an earlier set that holds the word would be listed with this one
    by_contra hheld
    exact hnone ⟨w, d, c⟩ (mem_overlaps.mpr ⟨hd, by simpa using hheld, hw⟩)
  · intro hplain o ho
    obtain ⟨hbefore, hfirst, hsecond⟩ := mem_overlaps.mp ho
    have hmem := hbefore.subset
    have hone : o.first = o.second := by
      rw [← (hplain o.word o.first (hmem (by simp))).mpr hfirst]
      exact (hplain o.word o.second (hmem (by simp))).mpr hsecond
    rw [hone] at hbefore
    exact List.nodup_iff_sublist.mp nodup_lexical _ hbefore

example : spanish.overlaps = [] := by decide +kernel

/-- **The overlaps tell where a vocabulary is ambiguous.**  There are none exactly when, for every
word and every category of words, the word has the category if and only if the set of the category
holds it.  In general they are the words that stand in two sets, with the two categories in the
order in which a word is looked up, each once and nothing else.  And a word is unknown if no set
holds it, and otherwise has the first category whose set does. -/
theorem overlaps_tell_ambiguity (v : Vocabulary) :
    (v.overlaps = [] ↔
      ∀ w, ∀ c ∈ Category.lexical, v.classify w = c ↔ v.contains c w = true) ∧
    v.overlaps.Nodup ∧
    (∀ o, o ∈ v.overlaps ↔ [o.first, o.second] <+ Category.lexical ∧
      v.contains o.first o.word = true ∧ v.contains o.second o.word = true) ∧
    ∀ w,
      (v.classify w = .unknown ↔ ∀ c ∈ Category.lexical, v.contains c w = false) ∧
      ∀ c ∈ Category.lexical, v.classify w = c ↔ v.contains c w = true ∧
        ∀ d, [d, c] <+ Category.lexical → v.contains d w = false := by
  refine ⟨overlaps_eq_nil_iff, v.nodup_overlaps, fun o => mem_overlaps, fun w => ⟨?_, ?_⟩⟩
  · rw [classify_eq_unknown_iff, Knows]
    simp only [not_exists, not_and, ← contains_iff, Bool.not_eq_true]
  · intro c hc
    exact classify_eq_iff hc

/-- Two words that stand among the nouns and among the verbs. -/
theorem overlaps_tell_ambiguity_of_shared_words :
    let v : Vocabulary :=
      ⟨.ofList ["el"], .ofList ["ve", "perro", "come"], .empty, .ofList ["come", "lee", "ve"]⟩
    v.overlaps = [⟨"come", .noun, .verb⟩, ⟨"ve", .noun, .verb⟩] ∧
      Category.verb ∈ Category.lexical ∧ [.noun, .verb] <+ Category.lexical ∧
      v.contains .verb "ve" = true ∧ v.classify "ve" ≠ .verb ∧
      ¬ ∀ w, ∀ c ∈ Category.lexical, v.classify w = c ↔ v.contains c w = true := by
  intro v
  have hoverlaps : v.overlaps = [⟨"come", .noun, .verb⟩, ⟨"ve", .noun, .verb⟩] := by decide
  obtain ⟨hnone, -, hlisted, hcategory⟩ := overlaps_tell_ambiguity v
  have hmem : (⟨"ve", .noun, .verb⟩ : Overlap) ∈ v.overlaps := by simp [hoverlaps]
  obtain ⟨hbefore, hnoun, hverb⟩ := (hlisted _).mp hmem
  refine ⟨hoverlaps, by decide, hbefore, hverb, fun hclassify => ?_, ?_⟩
  · -- the nouns are looked up first
    have hfree := (((hcategory "ve").2 .verb (by decide)).mp hclassify).2 .noun hbefore
    exact Bool.false_ne_true (hfree.symm.trans hnoun)
  · rw [← hnone, hoverlaps]
    exact List.cons_ne_nil _ _

end Vocabulary
end Oracion
