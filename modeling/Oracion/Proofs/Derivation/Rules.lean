import Oracion.Derivation.Steps
import Oracion.Proofs.Analysis.Extension
import Oracion.Proofs.Derivation.Nodes

/-!
# The derivation of a sentence

The derivation of a text is put together from its words alone, by a cut at the first verb, and so
are the rules that are listed for it.  Nothing of what the recognizer has found out is kept.  That
the tree is still the one that the grammar gives, and the rules those that it uses, is because a
sentence has one verb, with a noun phrase on either side.

## Main definitions

* `SentenceParts` — how the words of a sentence fall apart.
* `Derivation.ofParts` — the derivation that the grammar gives for the parts.
* `Derivation.symbols` — the right-hand side of a rule that derives given trees.

## Main results

* `SentenceParts.ofAnalysis?_eq` — the cut at the verb finds the parts.
* `Derivation.label_ofParts_eq_verb_iff` — the verb is the only leaf of its kind.
* `SentenceParts.derivingRules_eq` — the rules listed are those of the derivation.
* `derivation_follows_grammar` — **a text has a derivation if it is a sentence, and it is the one
  that the grammar gives.**
-/

namespace Oracion

open Grammar

/-- The words of a sentence are those of its subject, its verb and those of its complement. -/
structure SentenceParts (ts subject : List Token) (verb : Token) (complement : List Token) :
    Prop where
  /-- Nothing is left over. -/
  words : ts = subject ++ verb :: complement
  /-- The subject is a noun phrase. -/
  subject : IsNounPhrase (Token.categories subject)
  /-- The verb is one. -/
  verb : verb.category = .verb
  /-- The complement is a noun phrase. -/
  complement : IsNounPhrase (Token.categories complement)

variable {ts subject complement : List Token} {verb : Token}

theorem exists_sentenceParts (h : IsSentence (Token.categories ts)) :
    ∃ subject verb complement, SentenceParts ts subject verb complement := by
  obtain ⟨_, _, hs, ht, hts⟩ := h
  obtain ⟨before, rest, rfl, rfl, hrest⟩ := List.map_eq_append_iff.mp hts
  obtain ⟨verb, after, rfl, hverb, rfl⟩ := List.map_eq_cons_iff.mp hrest
  exact ⟨before, verb, after, rfl, hs, hverb, ht⟩

theorem verb_notMem_of_isNounPhrase {cs : List Category} (h : IsNounPhrase cs) : .verb ∉ cs := by
  obtain ⟨s, rfl⟩ := h
  exact verb_notMem_categories s

namespace Derivation

/-! ### The cut at the verb -/

theorem splitAtVerb_append (hsubject : .verb ∉ Token.categories subject)
    (hverb : verb.category = .verb) :
    splitAtVerb (subject ++ verb :: complement) = some (subject, verb, complement) := by
  induction subject with
  | nil => simp [splitAtVerb, hverb]
  | cons t ts ih =>
    have ht : t.category ≠ .verb := fun h => hsubject (h ▸ List.mem_cons_self)
    have hts : .verb ∉ Token.categories ts := fun h => hsubject (List.mem_cons_of_mem _ h)
    rw [List.cons_append, splitAtVerb, if_neg ht, ih hts]
    rfl

/-- The derivation that the grammar gives for a sentence of the given parts. -/
def ofParts (subject : List Token) (verb : Token) (complement : List Token) : Derivation :=
  branch .sentence
    [branch .subject (subject.map leaf),
      branch .predicate [leaf verb, branch .complement (complement.map leaf)]]

/-! ### The verb in the tree -/

/-- A branch of leaves has nothing else below it. -/
theorem subtree?_branch_leaves {l : Label} {p : List Nat} {d : Derivation}
    (h : (branch l (ts.map leaf)).subtree? p = some d) :
    p = [] ∧ d.label = l ∨ ∃ i, p = [i] ∧ ∃ t ∈ ts, d = leaf t := by
  cases p with
  | nil =>
    obtain rfl := Option.some.inj h
    exact .inl ⟨rfl, rfl⟩
  | cons i p =>
    obtain ⟨c, hc, hd⟩ := Option.bind_eq_some_iff.mp h
    obtain ⟨t, ht, rfl⟩ : ∃ t, ts[i]? = some t ∧ leaf t = c := by
      simpa [branch, children] using hc
    cases p with
    | nil =>
      obtain rfl := Option.some.inj hd
      exact .inr ⟨i, rfl, t, List.mem_of_getElem? ht, rfl⟩
    | cons j p => cases hd

/-- No node of a branch of leaves is a verb, if none of the words is. -/
theorem label_branch_leaves_ne_verb {l : Label} {p : List Nat} {d : Derivation}
    (h : (branch l (ts.map leaf)).subtree? p = some d) (hl : l ≠ .word .verb)
    (hts : IsNounPhrase (Token.categories ts)) : d.label ≠ .word .verb := by
  rcases subtree?_branch_leaves h with ⟨-, rfl⟩ | ⟨i, -, t, ht, rfl⟩
  · exact hl
  · intro hverb
    have hcategory : t.category = .verb := Label.word.inj hverb
    exact verb_notMem_of_isNounPhrase hts (hcategory ▸ List.mem_map_of_mem ht)

/-- **The verb is the only node of its kind**, and it stands first in the predicate. -/
theorem label_ofParts_eq_verb_iff (h : SentenceParts ts subject verb complement) {p : List Nat}
    {d : Derivation} (hd : (ofParts subject verb complement).subtree? p = some d) :
    d.label = .word .verb ↔ p = [1, 0] := by
  match p, hd with
  | [], hd =>
    obtain rfl := Option.some.inj hd
    exact iff_of_false nofun nofun
  | 0 :: p, hd =>
    exact iff_of_false (label_branch_leaves_ne_verb (p := p) hd nofun h.subject) nofun
  | [1], hd =>
    obtain rfl := Option.some.inj hd
    exact iff_of_false nofun nofun
  | [1, 0], hd =>
    obtain rfl := Option.some.inj hd
    exact iff_of_true (congrArg Label.word h.verb) rfl
  | 1 :: 0 :: i :: p, hd => cases hd
  | 1 :: 1 :: p, hd =>
    exact iff_of_false (label_branch_leaves_ne_verb (p := p) hd nofun h.complement) nofun
  | 1 :: (i + 2) :: p, hd => cases hd
  | (i + 2) :: p, hd => cases hd

end Derivation

/-! ### The tree and the rules -/

/-- The right-hand side of a rule that derives given trees: their labels, in angle brackets and in
lower case. -/
def Derivation.symbols (ds : List Derivation) : String :=
  " ".intercalate (ds.map fun d => "<" ++ Text.lower d.label.name ++ ">")

theorem isSome_ofTokens?_of_isNounPhrase (h : IsNounPhrase (Token.categories ts)) :
    (NounPhrase.ofTokens? ts).isSome = true := by
  obtain ⟨s, hs⟩ := h
  obtain ⟨np, hnp, -⟩ := exists_ofTokens?_of_categories hs
  rw [hnp, Option.isSome_some]

/-- The rule for a noun phrase has the categories of its words on the right. -/
theorem spanRule_eq_symbols (h : IsNounPhrase (Token.categories ts)) :
    spanRule ts = Derivation.symbols (ts.map Derivation.leaf) := by
  obtain ⟨s, hs⟩ := h
  obtain ⟨np, hnp, hshape⟩ := exists_ofTokens?_of_categories hs
  have hsymbols : Derivation.symbols (ts.map Derivation.leaf) =
      " ".intercalate ((Token.categories ts).map fun c => "<" ++ Text.lower c.name ++ ">") := by
    rw [Derivation.symbols, Token.categories, List.map_map, List.map_map]
    rfl
  rw [hsymbols, hs, spanRule, hnp]
  show np.shape.production = _
  rw [hshape]
  cases s <;> decide +kernel

namespace SentenceParts

variable {a : Analysis}

theorem splitAtVerb_eq (h : SentenceParts ts subject verb complement) :
    Derivation.splitAtVerb ts = some (subject, verb, complement) := by
  rw [h.words]
  exact Derivation.splitAtVerb_append (verb_notMem_of_isNounPhrase h.subject) h.verb

/-- A valid analysis of a sentence has the derivation that the grammar gives. -/
theorem ofAnalysis?_eq (h : SentenceParts a.words subject verb complement)
    (ha : a.isValid = true) :
    Derivation.ofAnalysis? a = some (Derivation.ofParts subject verb complement) := by
  have hpredicate : Derivation.predicateParts verb complement =
      [.leaf verb, .branch .complement (complement.map .leaf)] := by
    obtain ⟨s, hs⟩ := h.complement
    cases complement with
    | nil => cases s <;> cases hs
    | cons t ts => rfl
  rw [Derivation.ofAnalysis?, if_pos ha, h.splitAtVerb_eq, Derivation.ofParts, ← hpredicate]
  rfl

/-- The rules listed for a sentence are those of its derivation. -/
theorem derivingRules_eq (h : SentenceParts a.words subject verb complement) :
    derivingRules a =
      ["<sentence> ::= <subject> <predicate>",
       "<subject> ::= " ++ Derivation.symbols (subject.map Derivation.leaf),
       "<predicate> ::= <verb> <complement>",
       "<complement> ::= " ++ Derivation.symbols (complement.map Derivation.leaf)] := by
  rw [derivingRules, h.splitAtVerb_eq, ← spanRule_eq_symbols h.subject,
    ← spanRule_eq_symbols h.complement]

end SentenceParts

/-! ### The explanation of a sentence -/

/-- The explanation of a sentence up to its rules. -/
def linesBeforeRules (text : String) : List String :=
  [Text.times 70 "=", "STEP-BY-STEP ANALYSIS: '" ++ text ++ "'", Text.times 70 "=", "",
      "STEP 1: LEXICAL ANALYSIS (tokenization)", Text.times 70 "-"] ++
    numbered "  Token " ": " ((analyze text).words.map Token.describe) ++
    ["", "STEP 2: SYNTACTIC ANALYSIS", Text.times 70 "-",
      "  The sentence is syntactically valid", "", "  Rules applied:"]

/-- The explanation of a sentence from its rules on. -/
def linesAfterRules (t : Derivation) : List String :=
  ["", "STEP 3: DERIVATION TREE", Text.times 70 "-", t.draw, "", Text.times 70 "="]

/-- The explanation of a sentence lists the rules that derive it and draws its derivation. -/
theorem explain_of_valid {text : String} {t : Derivation}
    (hvalid : (analyze text).isValid = true)
    (ht : Derivation.ofAnalysis? (analyze text) = some t) :
    explain text =
      Text.joinLines
        (linesBeforeRules text ++ numbered "  " ". " (derivingRules (analyze text)) ++
          linesAfterRules t) := by
  have hverdict : (analyze text).verdict = .valid := by
    cases hv : (analyze text).verdict with
    | valid => rfl
    | invalid p ds =>
      rw [(Analysis.of_verdict_invalid hv).2.1] at hvalid
      cases hvalid
  simp only [explain, ht, syntaxLines, hverdict, linesBeforeRules, linesAfterRules,
    List.append_assoc, List.cons_append, List.nil_append]

theorem exists_sentenceParts_analyze {text : String} (h : (analyze text).isValid = true) :
    ∃ subject verb complement, SentenceParts (analyze text).words subject verb complement := by
  apply exists_sentenceParts
  rw [categories_words_analyze]
  exact isValid_iff_isSentence.mp h

/-- **A text has a derivation if it is a sentence, and it is the one that the grammar gives.**  The
derivation of a sentence has a subject, a verb and a complement, whose words are those of the
text; subject and complement are noun phrases of the grammar, and the verb is the only one.  The
explanation lists four rules, and the two for noun phrases have the categories of the words of
the subject and of the complement on the right, for both are found to be noun phrases. -/
theorem derivation_follows_grammar (text : String) :
    ((Derivation.ofAnalysis? (analyze text)).isSome = true ↔ (analyze text).isValid = true) ∧
      ∀ t, Derivation.ofAnalysis? (analyze text) = some t →
        ∃ subject verb complement,
          (analyze text).words = subject ++ verb :: complement ∧
          t = .branch .sentence
            [.branch .subject (subject.map .leaf),
              .branch .predicate [.leaf verb, .branch .complement (complement.map .leaf)]] ∧
          IsNounPhrase (Token.categories subject) ∧ verb.category = .verb ∧
          IsNounPhrase (Token.categories complement) ∧
          (∀ p d, t.subtree? p = some d → (d.label = .word .verb ↔ p = [1, 0])) ∧
          (NounPhrase.ofTokens? subject).isSome = true ∧
          (NounPhrase.ofTokens? complement).isSome = true ∧
          explain text =
            Text.joinLines
              (linesBeforeRules text ++
                numbered "  " ". "
                  ["<sentence> ::= <subject> <predicate>",
                   "<subject> ::= " ++ Derivation.symbols (subject.map .leaf),
                   "<predicate> ::= <verb> <complement>",
                   "<complement> ::= " ++ Derivation.symbols (complement.map .leaf)] ++
                linesAfterRules t) := by
  have hvalid_of_some : ∀ t, Derivation.ofAnalysis? (analyze text) = some t →
      (analyze text).isValid = true := by
    intro t ht
    by_contra hvalid
    rw [Derivation.ofAnalysis?, if_neg hvalid] at ht
    cases ht
  constructor
  · constructor
    · intro h
      obtain ⟨t, ht⟩ := Option.isSome_iff_exists.mp h
      exact hvalid_of_some t ht
    · intro h
      obtain ⟨subject, verb, complement, hparts⟩ := exists_sentenceParts_analyze h
      rw [hparts.ofAnalysis?_eq h, Option.isSome_some]
  · intro t ht
    have hvalid := hvalid_of_some t ht
    obtain ⟨subject, verb, complement, hparts⟩ := exists_sentenceParts_analyze hvalid
    have hexplain := explain_of_valid hvalid ht
    rw [hparts.derivingRules_eq] at hexplain
    rw [hparts.ofAnalysis?_eq hvalid] at ht
    obtain rfl := Option.some.inj ht
    exact ⟨subject, verb, complement, hparts.words, rfl, hparts.subject, hparts.verb,
      hparts.complement, fun p d => Derivation.label_ofParts_eq_verb_iff hparts,
      isSome_ofTokens?_of_isNounPhrase hparts.subject,
      isSome_ofTokens?_of_isNounPhrase hparts.complement, hexplain⟩

/-- A sentence with an adjective before one noun and after the other, and with a capital. -/
theorem derivation_follows_grammar_of_adjectives :
    let text := "El grande perro come un hueso rojo"
    let t := Derivation.ofParts
      [⟨.article, "el", 0⟩, ⟨.adjective, "grande", 1⟩, ⟨.noun, "perro", 2⟩] ⟨.verb, "come", 3⟩
      [⟨.article, "un", 4⟩, ⟨.noun, "hueso", 5⟩, ⟨.adjective, "rojo", 6⟩]
    (analyze text).isValid = true ∧ Derivation.ofAnalysis? (analyze text) = some t ∧
      explain text =
        Text.joinLines
          (linesBeforeRules text ++
            ["  1. <sentence> ::= <subject> <predicate>",
             "  2. <subject> ::= <article> <adjective> <noun>",
             "  3. <predicate> ::= <verb> <complement>",
             "  4. <complement> ::= <article> <noun> <adjective>"] ++
            linesAfterRules t) := by
  intro text t
  have hparts : SentenceParts (analyze text).words
      [⟨.article, "el", 0⟩, ⟨.adjective, "grande", 1⟩, ⟨.noun, "perro", 2⟩] ⟨.verb, "come", 3⟩
      [⟨.article, "un", 4⟩, ⟨.noun, "hueso", 5⟩, ⟨.adjective, "rojo", 6⟩] :=
    ⟨by decide +kernel, ⟨.adjectiveFirst, rfl⟩, rfl, ⟨.adjectiveLast, rfl⟩⟩
  have hvalid : (analyze text).isValid = true := by
    rw [isValid_iff_isSentence, ← categories_words_analyze, hparts.words]
    decide
  have ht : Derivation.ofAnalysis? (analyze text) = some t := hparts.ofAnalysis?_eq hvalid
  obtain ⟨subject, verb, complement, -, htree, -, -, -, -, -, -, hexplain⟩ :=
    (derivation_follows_grammar text).2 t ht
  simp only [t, Derivation.ofParts, Derivation.branch, Derivation.node.injEq, List.cons.injEq,
    true_and, and_true] at htree
  obtain ⟨hsubject, -, hcomplement⟩ := htree
  refine ⟨hvalid, ht, ?_⟩
  rw [hexplain, ← hsubject, ← hcomplement]
  exact congrArg (fun rules => Text.joinLines (linesBeforeRules text ++ rules ++ linesAfterRules t))
    (by decide +kernel)

end Oracion
