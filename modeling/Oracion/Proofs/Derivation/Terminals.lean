import Oracion.Proofs.Derivation.Rules

/-!
# The terminals of a derivation

A derivation is made of the tokens of an analysis, whatever these are: nothing but the verdict and
the categories is looked at.  An analysis that says it is valid can have been put together by hand,
with markers between the words, with several verbs, or with nothing before or after the verb.  Read
from left to right, the words of the tree are still those of the analysis.

## Main definitions

* `Derivation.terminals` — the nodes of a tree that have a word, from left to right.

## Main results

* `Derivation.terminals_branch` — the terminals of a branch are those of its children in turn.
* `Derivation.splitAtVerb_eq_none_iff` — the cut at the verb fails only where there is no verb.
* `Derivation.ofAnalysis?_of_verb` — the derivation of a valid analysis that is cut at its first
  verb.
* `derivation_keeps_words` — **a derivation has the words of the analysis, in order.**
-/

namespace Oracion

/-! ### Words among tokens -/

namespace Token

theorem proper_append (ts us : List Token) : proper (ts ++ us) = proper ts ++ proper us :=
  List.filter_append ts us

/-- A verb is no marker, so it stays. -/
theorem proper_cons_verb {verb : Token} (hverb : verb.category = .verb) (ts : List Token) :
    proper (verb :: ts) = verb :: proper ts := by
  simp [proper, isEnd, hverb]

theorem proper_eq_nil_iff {ts : List Token} :
    proper ts = [] ↔ ∀ t ∈ ts, t.category = .endOfInput := by
  simp [proper, isEnd]

theorem verb_mem_categories_proper_iff {ts : List Token} :
    .verb ∈ categories (proper ts) ↔ .verb ∈ categories ts := by
  simp only [categories, proper, List.mem_map, List.mem_filter]
  constructor
  · rintro ⟨t, ⟨ht, -⟩, hverb⟩
    exact ⟨t, ht, hverb⟩
  · rintro ⟨t, ht, hverb⟩
    exact ⟨t, ⟨ht, by simp [isEnd, hverb]⟩, hverb⟩

/-- Tokens with a verb among them can be cut at the first. -/
theorem exists_first_verb {ts : List Token} (h : .verb ∈ categories ts) :
    ∃ before verb after, ts = before ++ verb :: after ∧ verb.category = .verb ∧
      .verb ∉ categories before := by
  cases hindex : verbIndex? ts with
  | none =>
    obtain ⟨t, ht, hverb⟩ := List.mem_map.mp h
    exact absurd hverb (by simpa using List.findIdx?_eq_none_iff.mp hindex t ht)
  | some v =>
    obtain ⟨verb, hts, hverb, hbefore⟩ := exists_of_verbIndex? hindex
    exact ⟨_, verb, _, hts, hverb, hbefore⟩

end Token

namespace Derivation

variable {a : Analysis} {before after : List Token} {verb : Token}

/-! ### Terminals -/

/-- The terminals of a tree from left to right: its nodes that have a word. -/
def terminals (t : Derivation) : List Derivation :=
  (t.nodes.map Prod.snd).filter fun d => d.word.isSome

theorem map_snd_nodesFrom (i : Nat) (ts : List Derivation) :
    (nodesFrom i ts).map Prod.snd = ts.flatMap fun t => t.nodes.map Prod.snd := by
  induction ts generalizing i with
  | nil => rfl
  | cons t ts ih =>
    rw [nodesFrom_cons, List.map_append, List.map_map, ih, List.flatMap_cons]
    rfl

/-- **The terminals of a branch are those of its children in turn.** -/
theorem terminals_branch (l : Label) (ts : List Derivation) :
    (branch l ts).terminals = ts.flatMap terminals := by
  rw [terminals, branch, nodes_node, List.map_cons, map_snd_nodesFrom,
    List.filter_cons_of_neg (by simp [word]), List.filter_flatMap]
  rfl

theorem terminals_leaf (t : Token) : (leaf t).terminals = [leaf t] := rfl

theorem terminals_branch_leaves (l : Label) (ts : List Token) :
    (branch l (ts.map leaf)).terminals = ts.map leaf := by
  rw [terminals_branch, List.flatMap_map, List.map_eq_flatMap]
  rfl

theorem terminals_predicate (verb : Token) (after : List Token) :
    (branch .predicate (predicateParts verb after)).terminals = leaf verb :: after.map leaf := by
  rw [terminals_branch, predicateParts]
  split
  · next hnil =>
    rw [List.isEmpty_iff.mp hnil]
    rfl
  · rw [List.flatMap_cons, List.flatMap_singleton, terminals_branch_leaves, terminals_leaf,
      List.singleton_append]

/-- A predicate starts with the verb. -/
theorem head?_predicateParts (verb : Token) (after : List Token) :
    (predicateParts verb after).head? = some (leaf verb) := by
  rw [predicateParts]
  split <;> rfl

/-- A predicate has a complement if something follows the verb. -/
theorem complement_mem_predicateParts_iff {verb : Token} {after : List Token} :
    (∃ d ∈ predicateParts verb after, d.label = .complement) ↔ after ≠ [] := by
  cases after with
  | nil => simp [predicateParts, leaf, label]
  | cons t ts => simp [predicateParts, leaf, branch, label]

/-! ### The cut at the first verb -/

/-- The cut at the verb fails only where there is no verb. -/
theorem splitAtVerb_eq_none_iff {ts : List Token} :
    splitAtVerb ts = none ↔ .verb ∉ Token.categories ts := by
  induction ts with
  | nil => simp [splitAtVerb, Token.categories]
  | cons t ts ih =>
    rw [splitAtVerb]
    split
    · next hverb => simp [Token.categories, hverb]
    · next hother =>
      rw [Option.map_eq_none_iff, ih, Token.categories, Token.categories, List.map_cons,
        List.mem_cons, not_or]
      exact ⟨fun h => ⟨Ne.symm hother, h⟩, fun h => h.2⟩

/-- The derivation of a valid analysis that is cut at its first verb. -/
theorem ofAnalysis?_of_verb (ha : a.isValid = true) (htokens : a.tokens = before ++ verb :: after)
    (hverb : verb.category = .verb) (hbefore : .verb ∉ Token.categories before) :
    ofAnalysis? a = some (branch .sentence
      [branch .subject ((Token.proper before).map leaf),
        branch .predicate (predicateParts verb (Token.proper after))]) := by
  have hwords : a.words = Token.proper before ++ verb :: Token.proper after := by
    rw [Analysis.words, htokens, Token.proper_append, Token.proper_cons_verb hverb]
  have hproper : .verb ∉ Token.categories (Token.proper before) :=
    mt Token.verb_mem_categories_proper_iff.mp hbefore
  rw [ofAnalysis?, if_pos ha, hwords, splitAtVerb_append hproper hverb]
  rfl

/-- **There is a derivation if the analysis is valid and has a verb.** -/
theorem isSome_ofAnalysis?_iff :
    (ofAnalysis? a).isSome = true ↔ a.isValid = true ∧ .verb ∈ Token.categories a.tokens := by
  rw [ofAnalysis?]
  split
  · next ha =>
    rw [Option.isSome_map, ← Option.ne_none_iff_isSome, Ne, splitAtVerb_eq_none_iff,
      not_not, Analysis.words, Token.verb_mem_categories_proper_iff]
    exact ⟨fun h => ⟨ha, h⟩, fun h => h.2⟩
  · next ha => exact iff_of_false Bool.false_ne_true fun h => ha h.1

end Derivation

/-! ### The words of a derivation -/

/-- **A derivation has the words of the analysis, in order.**  Any analysis that is valid and has a
verb among its tokens has a derivation, and no other has.  The terminals of the derivation are the
tokens without the markers, none of them lost or listed twice.  The subject has no verb in it; the
predicate starts with the first verb of the analysis; and it has a complement if a token that is no
marker follows that verb. -/
theorem derivation_keeps_words (a : Analysis) :
    ((Derivation.ofAnalysis? a).isSome = true ↔
      a.isValid = true ∧ ∃ w ∈ a.tokens, w.category = .verb) ∧
    ∀ t, Derivation.ofAnalysis? a = some t →
      t.terminals = a.words.map (fun w => .node (.word w.category) (some w.text) []) ∧
      ∃ subject predicate before verb after,
        t = .node .sentence none [subject, predicate] ∧
        subject.label = .subject ∧ predicate.label = .predicate ∧
        a.tokens = before ++ verb :: after ∧ verb.category = .verb ∧
        (∀ w ∈ before, w.category ≠ .verb) ∧
        (∀ d ∈ subject.terminals, d.label ≠ .word .verb) ∧
        predicate.children.head? = some (.node (.word .verb) (some verb.text) []) ∧
        ((∃ d ∈ predicate.children, d.label = .complement) ↔
          ∃ w ∈ after, w.category ≠ .endOfInput) := by
  have hsome : (Derivation.ofAnalysis? a).isSome = true ↔
      a.isValid = true ∧ ∃ w ∈ a.tokens, w.category = .verb := by
    rw [Derivation.isSome_ofAnalysis?_iff, Token.categories, List.mem_map]
  refine ⟨hsome, ?_⟩
  intro t ht
  obtain ⟨ha, hverb⟩ := Derivation.isSome_ofAnalysis?_iff.mp (by rw [ht, Option.isSome_some])
  obtain ⟨before, verb, after, htokens, hcategory, hbefore⟩ := Token.exists_first_verb hverb
  rw [Derivation.ofAnalysis?_of_verb ha htokens hcategory hbefore] at ht
  obtain rfl := Option.some.inj ht
  refine ⟨?_, _, _, before, verb, after, rfl, rfl, rfl, htokens, hcategory, ?_, ?_, ?_, ?_⟩
  · rw [Derivation.terminals_branch, List.flatMap_cons, List.flatMap_singleton,
      Derivation.terminals_branch_leaves, Derivation.terminals_predicate, ← List.map_cons,
      ← List.map_append, Analysis.words, htokens, Token.proper_append,
      Token.proper_cons_verb hcategory]
    rfl
  · intro w hw hwverb
    exact hbefore (hwverb ▸ List.mem_map_of_mem hw)
  · intro d hd hlabel
    rw [Derivation.terminals_branch_leaves] at hd
    obtain ⟨w, hw, rfl⟩ := List.mem_map.mp hd
    have hwverb : w.category = .verb := Label.word.inj hlabel
    exact hbefore (hwverb ▸ List.mem_map_of_mem (List.mem_of_mem_filter hw))
  · show (Derivation.predicateParts verb (Token.proper after)).head? = _
    rw [Derivation.head?_predicateParts, Derivation.leaf, hcategory]
  · show (∃ d ∈ Derivation.predicateParts verb (Token.proper after), d.label = .complement) ↔ _
    rw [Derivation.complement_mem_predicateParts_iff, Ne, Token.proper_eq_nil_iff]
    simp only [not_forall, exists_prop]

/-- Markers before and after a verb that comes first, a second verb, and places out of order. -/
theorem derivation_keeps_words_of_verb_first :
    let a : Analysis := ⟨"", [.endAt 3, ⟨.verb, "come", 7⟩, .endAt 0, ⟨.verb, "ve", 7⟩], .valid⟩
    let t := Derivation.branch .sentence
      [.branch .subject [],
        .branch .predicate
          [.leaf ⟨.verb, "come", 7⟩, .branch .complement [.leaf ⟨.verb, "ve", 7⟩]]]
    Derivation.ofAnalysis? a = some t ∧
      t.terminals.map Derivation.word = [some "come", some "ve"] := by
  intro a t
  have ht : Derivation.ofAnalysis? a = some t := rfl
  obtain ⟨hterminals, -⟩ := (derivation_keeps_words a).2 t ht
  exact ⟨ht, by rw [hterminals]; rfl⟩

end Oracion
