import Oracion.Proofs.Analysis.Verdict
import Oracion.Proofs.Chars.Cuts
import Oracion.Proofs.Chars.Runs
import Oracion.Proofs.Command.Switch
import Oracion.Highlight

/-!
# How a line is read as a command

A line is read by two texts: its first word, and what follows that word without the blanks around
it.  The first word says whether the line is a command and which, and what follows is looked at by
two commands only.  So blanks before, after and between the two do not matter.

The colours of a line are found without reading it, but a line is bold exactly if it is read as a
command, sound or not.

## Main definitions

* `Command.names` — the names of a command.
* `Command.plain` — the commands that take no argument.
* `Command.Calls name argument result` — what a name and an argument come to.

## Main results

* `Command.calls_iff` — a name and an argument come to what the rules say.
* `Command.read_eq` — a line is read by its first word and what follows.
* `Vocabulary.highlight_eq_bold_iff` — a line is bold exactly if its first word starts with a colon.
* `Command.read_by_first_word` — **how every line is read.**
-/

namespace Oracion
namespace Command

/-! ### Names and arguments -/

/-- The names of a command. -/
def names : Command → List String
  | help => [":help", ":h"]
  | grammar => [":grammar"]
  | vocabulary => [":vocab"]
  | examples => [":examples"]
  | tree _ => [":tree"]
  | trace _ => [":trace"]
  | quit => [":quit", ":q", ":exit"]

/-- The commands that take no argument. -/
def plain : List Command := [help, grammar, vocabulary, examples, quit]

/-- What a name and an argument come to. -/
inductive Calls : String → String → Except Fault Command → Prop
  /-- A plain command does not look at the argument. -/
  | plain {c : Command} {name argument : String} (simple : c ∈ plain) (named : name ∈ c.names) :
      Calls name argument (.ok c)
  /-- The sentence to be explained is the argument. -/
  | tree {argument : String} (sentence : argument ≠ "") :
      Calls ":tree" argument (.ok (tree argument))
  /-- There has to be one. -/
  | treeless : Calls ":tree" "" (.error .treeWithoutSentence)
  /-- The argument says how tracing is switched. -/
  | trace (on : Bool) : Calls ":trace" (switchWord on) (.ok (trace on))
  /-- It has to say one or the other. -/
  | switchless {argument : String} (other : ∀ on, argument ≠ switchWord on) :
      Calls ":trace" argument (.error .traceWithoutSwitch)
  /-- No other name is that of a command. -/
  | unknown {name argument : String} (unlisted : ∀ c : Command, name ∉ c.names) :
      Calls name argument (.error (.unknown name))

theorem calls_ofParts (name argument : String) : Calls name argument (ofParts name argument) := by
  unfold ofParts
  split
  case h_6 =>
    split
    · next h => exact String.isEmpty_iff.mp h ▸ .treeless
    · next h => exact .tree (mt String.isEmpty_iff.mpr h)
  case h_7 =>
    split
    · exact .trace true
    · exact .trace false
    · next hon hoff =>
      refine .switchless fun on => ?_
      cases on with
      | true => exact hon
      | false => exact hoff
  case h_11 =>
    refine .unknown fun c => ?_
    cases c <;> simp_all [names]
  all_goals exact .plain (by decide) (by decide)

theorem ofParts_of_plain {c : Command} {name : String} (argument : String) (simple : c ∈ plain)
    (named : name ∈ c.names) : ofParts name argument = .ok c := by
  simp only [plain, List.mem_cons, List.not_mem_nil, or_false] at simple
  rcases simple with rfl | rfl | rfl | rfl | rfl <;>
    simp only [names, List.mem_cons, List.not_mem_nil, or_false] at named
  · rcases named with rfl | rfl <;> rfl
  · subst named; rfl
  · subst named; rfl
  · subst named; rfl
  · rcases named with rfl | rfl | rfl <;> rfl

theorem ofParts_of_unlisted {name : String} (argument : String)
    (unlisted : ∀ c : Command, name ∉ c.names) :
    ofParts name argument = .error (.unknown name) := by
  have h := calls_ofParts name argument
  generalize ofParts name argument = result at h ⊢
  cases h with
  | @plain c _ _ simple named => exact absurd named (unlisted c)
  | tree sentence => exact absurd List.mem_cons_self (unlisted (.tree ""))
  | treeless => exact absurd List.mem_cons_self (unlisted (.tree ""))
  | trace on => exact absurd List.mem_cons_self (unlisted (.trace on))
  | switchless other => exact absurd List.mem_cons_self (unlisted (.trace true))
  | unknown => rfl

/-- **A name and an argument come to what the rules say**, and to nothing else. -/
theorem calls_iff {name argument : String} {result : Except Fault Command} :
    Calls name argument result ↔ ofParts name argument = result := by
  constructor
  · intro h
    cases h with
    | plain simple named => exact ofParts_of_plain argument simple named
    | tree sentence => simp [ofParts, sentence]
    | treeless => rfl
    | trace on => cases on <;> rfl
    | switchless other =>
      simp only [ofParts]
      split
      · exact absurd rfl (other true)
      · exact absurd rfl (other false)
      · rfl
    | unknown unlisted => exact ofParts_of_unlisted argument unlisted
  · rintro rfl
    exact calls_ofParts name argument

section Calls

variable {name argument : String}

theorem calls_plain_iff {c : Command} (hc : c ∈ plain) :
    Calls name argument (.ok c) ↔ name ∈ c.names := by
  constructor
  · intro h
    cases h with
    | plain simple named => exact named
    | tree sentence => simp [plain] at hc
    | trace on => simp [plain] at hc
  · exact fun named => .plain hc named

theorem calls_tree_iff {sentence : String} :
    Calls name argument (.ok (tree sentence)) ↔
      name = ":tree" ∧ argument ≠ "" ∧ sentence = argument := by
  constructor
  · intro h
    cases h with
    | plain simple named => simp [plain] at simple
    | tree sentence => exact ⟨rfl, sentence, rfl⟩
  · rintro ⟨rfl, sentence, rfl⟩
    exact .tree sentence

theorem calls_trace_iff {on : Bool} :
    Calls name argument (.ok (trace on)) ↔ name = ":trace" ∧ argument = switchWord on :=
  calls_iff.trans ofParts_eq_trace_iff

/-- The three things that can be wrong. -/
theorem calls_error_iff {f : Fault} :
    Calls name argument (.error f) ↔
      (name = ":tree" ∧ argument = "" ∧ f = .treeWithoutSentence) ∨
      (name = ":trace" ∧ argument ≠ "on" ∧ argument ≠ "off" ∧ f = .traceWithoutSwitch) ∨
      ((∀ c : Command, name ∉ c.names) ∧ f = .unknown name) := by
  constructor
  · intro h
    cases h with
    | treeless => exact .inl ⟨rfl, rfl, rfl⟩
    | switchless other => exact .inr (.inl ⟨rfl, other true, other false, rfl⟩)
    | unknown unlisted => exact .inr (.inr ⟨unlisted, rfl⟩)
  · rintro (⟨rfl, rfl, rfl⟩ | ⟨rfl, hon, hoff, rfl⟩ | ⟨unlisted, rfl⟩)
    · exact .treeless
    · refine .switchless fun on => ?_
      cases on with
      | true => exact hon
      | false => exact hoff
    · exact .unknown unlisted

/-- A command is called by one of its names. -/
theorem Calls.mem_names {c : Command} (h : Calls name argument (.ok c)) : name ∈ c.names := by
  cases h with
  | plain simple named => exact named
  | tree sentence => exact List.mem_cons_self
  | trace on => exact List.mem_cons_self

/-- Every name starts with a colon. -/
theorem startsWith_of_mem_names {c : Command} (h : name ∈ c.names) :
    Text.startsWith name ":" = true := by
  have hall : ∀ n ∈ c.names, Text.startsWith n ":" = true := by
    cases c <;> simp only [names] <;> decide
  exact hall name h

end Calls

/-! ### Lines -/

theorem read_of_opens {line lead word rest : String} (h : Text.Opens line lead word rest) :
    read line =
      if Text.startsWith word ":" then (ofParts word (Text.trim rest)).map some else .ok none := by
  have htrim : Chars.trim line.toList = word.toList ++ Chars.trimEnd rest.toList := by
    rw [Chars.trim, h.trimStart_eq, Chars.trimEnd_append h.solid]
  obtain ⟨hword, hrest⟩ := Chars.span_append h.solid (Chars.isBlank_of_mem_head?_trimEnd h.ends)
  obtain ⟨c, cs, hcs⟩ := List.exists_cons_of_ne_nil h.ne_nil
  have hcons : Chars.trim line.toList = c :: (cs ++ Chars.trimEnd rest.toList) := by
    rw [htrim, hcs, List.cons_append]
  by_cases hc : c = ':'
  · have hstart : Text.startsWith word ":" = true := by simp [Text.startsWith, hcs, hc]
    rw [hc] at hcons
    rw [if_pos hstart, read_of_colon hcons, ← hcons, htrim, hword, hrest, Chars.trim_trimEnd,
      String.ofList_toList, Text.trim]
  · have hstart : ¬ Text.startsWith word ":" = true := by
      simpa [Text.startsWith, hcs] using Ne.symm hc
    rw [if_neg hstart]
    apply read_of_not_colon
    intro v hv
    exact hc (List.cons.inj (hcons.symm.trans hv)).1

/-- **A line is read by its first word and what follows it.** -/
theorem read_eq (line : String) :
    read line =
      if Text.startsWith (Text.firstWord line) ":" then
        (ofParts (Text.firstWord line) (Text.remainder line)).map some
      else .ok none := by
  cases hblank : Text.isBlank line with
  | true =>
    rw [read_of_isBlank hblank, (Text.firstWord_of_isBlank hblank).1]
    rfl
  | false =>
    obtain ⟨lead, word, rest, h⟩ := Text.exists_opens hblank
    rw [read_of_opens h, h.firstWord_eq, h.remainder_eq]

variable {line : String}

theorem read_eq_none_iff :
    read line = .ok none ↔ Text.startsWith (Text.firstWord line) ":" = false := by
  rw [read_eq]
  cases Text.startsWith (Text.firstWord line) ":" with
  | false => simp
  | true => cases ofParts (Text.firstWord line) (Text.remainder line) <;> simp [Except.map]

theorem read_eq_some_iff {c : Command} :
    read line = .ok (some c) ↔ Calls (Text.firstWord line) (Text.remainder line) (.ok c) := by
  have hcolon : Calls (Text.firstWord line) (Text.remainder line) (.ok c) →
      Text.startsWith (Text.firstWord line) ":" = true :=
    fun h => startsWith_of_mem_names h.mem_names
  rw [calls_iff] at hcolon ⊢
  rw [read_eq]
  cases hstart : Text.startsWith (Text.firstWord line) ":" with
  | false =>
    rw [hstart] at hcolon
    exact iff_of_false (by simp) fun h => Bool.false_ne_true (hcolon h)
  | true => cases ofParts (Text.firstWord line) (Text.remainder line) <;> simp [Except.map]

theorem read_eq_error_iff {f : Fault} :
    read line = .error f ↔
      Text.startsWith (Text.firstWord line) ":" = true ∧
        Calls (Text.firstWord line) (Text.remainder line) (.error f) := by
  rw [read_eq, calls_iff]
  cases Text.startsWith (Text.firstWord line) ":" with
  | false => simp
  | true => cases ofParts (Text.firstWord line) (Text.remainder line) <;> simp [Except.map]

end Command

/-! ### Bold lines -/

/-- No colour of a word starts as bold type does. -/
theorem not_bold_prefix_color {c : Category} (hc : c ≠ .endOfInput) (x : List Char) :
    ¬ boldStyle.toList <+: c.color.toList ++ x := by
  have hcolors : ∀ c ∈ Category.all, c ≠ .endOfInput →
      boldStyle.toList.length ≤ c.color.toList.length ∧
        ¬ boldStyle.toList <+: c.color.toList := by decide
  obtain ⟨hlength, hcolor⟩ := hcolors c (Category.mem_all c) hc
  intro h
  exact hcolor (List.prefix_of_prefix_length_le h (List.prefix_append _ x) hlength)

namespace Vocabulary

/-- What is painted piece by piece does not start in bold type. -/
theorem not_bold_prefix_pieces (v : Vocabulary) (cs : List Char) :
    ¬ boldStyle.toList <+: (String.join ((Chars.pieces cs).map v.paintPiece)).toList := by
  have hproper := (Chars.isSplit_pieces cs).proper
  cases hps : Chars.pieces cs with
  | nil =>
    rw [List.map_nil]
    decide
  | cons p ps =>
    have hp : p.Proper := hproper p (hps ▸ List.mem_cons_self)
    rw [List.map_cons, String.join_cons, String.toList_append]
    cases p with
    | blank b =>
      -- the escape is no blank
      have hb : Chars.isBlank b = true := hp
      have hbold : boldStyle.toList = '\x1b' :: "[1m".toList := by decide
      rw [paintPiece, String.toList_ofList, List.singleton_append, hbold, List.cons_prefix_cons]
      rintro ⟨rfl, -⟩
      exact absurd hb (by decide)
    | word w =>
      rw [paintPiece, paint, String.toList_append, String.toList_append, List.append_assoc,
        List.append_assoc]
      exact not_bold_prefix_color (v.classify_ne_endOfInput _) _

theorem isCommandLine_of_opens {line lead word rest : String}
    (h : Text.Opens line lead word rest) : isCommandLine line = Text.startsWith word ":" := by
  obtain ⟨c, cs, hcs⟩ := List.exists_cons_of_ne_nil h.ne_nil
  have hcolon : ":".toList = [':'] := by decide
  rw [isCommandLine, h.trimStart_eq, hcs, Text.startsWith, hcs, hcolon]
  show (c == ':') = (':' == c && true)
  rw [Bool.and_true, BEq.comm]

/-- **A line is bold exactly if its first word starts with a colon.** -/
theorem highlight_eq_bold_iff (v : Vocabulary) (line : String) :
    v.highlight line = boldStyle ++ line ++ plainStyle ↔
      Text.startsWith (Text.firstWord line) ":" = true := by
  cases hblank : Text.isBlank line with
  | true =>
    have hlonger : line ≠ boldStyle ++ line ++ plainStyle := by
      intro h
      have hlength := congrArg String.length h
      have hbold : boldStyle.length = 4 := by decide
      rw [String.length_append, String.length_append] at hlength
      omega
    rw [highlight, if_pos hblank, (Text.firstWord_of_isBlank hblank).1]
    exact iff_of_false hlonger (by decide)
  | false =>
    obtain ⟨lead, word, rest, h⟩ := Text.exists_opens hblank
    rw [highlight, hblank, if_neg Bool.false_ne_true, isCommandLine_of_opens h, h.firstWord_eq]
    cases Text.startsWith word ":" with
    | true => simp
    | false =>
      refine iff_of_false (fun heq => ?_) Bool.false_ne_true
      apply v.not_bold_prefix_pieces line.toList
      rw [if_neg Bool.false_ne_true] at heq
      rw [heq, String.append_assoc, String.toList_append]
      exact List.prefix_append _ _

end Vocabulary

/-! ### All lines -/

/-- **How every line is read.**  Let `h` be the first word of a line and `r` what follows it,
without the blanks around.  The line is no command exactly if `h` does not start with a colon; it
asks for the sentence `s` to be explained exactly if `h` is `:tree` and `s` is `r`, which is not
empty; it switches tracing exactly if `h` is `:trace` and `r` says how; it is a command without an
argument exactly if `h` is one of its names; and it is faulty in all other cases, where a name that
no command has is reported.  Hence blanks around a line do not matter, nor how many stand after its
first word; a sentence to be explained is not empty and has no blanks around it; and a line is
shown in bold type exactly if it is a command, sound or not. -/
theorem Command.read_by_first_word (line : String) :
    let h := Text.firstWord line
    let r := Text.remainder line
    (read line = .ok none ↔ Text.startsWith h ":" = false) ∧
    (∀ s, read line = .ok (some (.tree s)) ↔ h = ":tree" ∧ r ≠ "" ∧ s = r) ∧
    (∀ on, read line = .ok (some (.trace on)) ↔
      h = ":trace" ∧ r = if on then "on" else "off") ∧
    (∀ c ∈ [help, grammar, vocabulary, examples, quit],
      read line = .ok (some c) ↔ h ∈ c.names) ∧
    (∀ f, read line = .error f ↔ Text.startsWith h ":" = true ∧
      ((h = ":tree" ∧ r = "" ∧ f = .treeWithoutSentence) ∨
       (h = ":trace" ∧ r ≠ "on" ∧ r ≠ "off" ∧ f = .traceWithoutSwitch) ∨
       ((∀ c : Command, h ∉ c.names) ∧ f = .unknown h))) ∧
    (∀ p q, Text.isBlank p = true → Text.isBlank q = true →
      read (p ++ line ++ q) = read line) ∧
    (∀ u gap gap' rest, (Text.words u).length = 1 → Text.isBlank gap = true → gap ≠ "" →
      Text.isBlank gap' = true → gap' ≠ "" → read (u ++ gap ++ rest) = read (u ++ gap' ++ rest)) ∧
    (∀ s, read line = .ok (some (.tree s)) → s ≠ "" ∧ Text.trim s = s) ∧
    (highlight line = boldStyle ++ line ++ plainStyle ↔ read line ≠ .ok none) := by
  intro h r
  refine ⟨read_eq_none_iff, fun s => read_eq_some_iff.trans calls_tree_iff,
    fun on => read_eq_some_iff.trans calls_trace_iff,
    fun c hc => read_eq_some_iff.trans (calls_plain_iff hc),
    fun f => read_eq_error_iff.trans (and_congr_right' calls_error_iff), ?_, ?_, ?_, ?_⟩
  · intro p q hp hq
    obtain ⟨hword, hrest⟩ := Text.firstWord_remainder_pad hp hq line
    rw [read_eq, hword, hrest, ← read_eq]
  · intro u gap gap' rest hu hgap hne hgap' hne'
    obtain ⟨hword, hrest⟩ := Text.firstWord_remainder_gap hu hgap hne rest
    obtain ⟨hword', hrest'⟩ := Text.firstWord_remainder_gap hu hgap' hne' rest
    rw [read_eq, read_eq (u ++ gap' ++ rest), hword, hword', hrest, hrest']
  · intro s hs
    obtain ⟨-, hne, hsentence⟩ := calls_tree_iff.mp (read_eq_some_iff.mp hs)
    rw [hsentence]
    exact ⟨hne, Text.trim_remainder line⟩
  · rw [highlight, Vocabulary.highlight_eq_bold_iff, Ne, read_eq_none_iff, Bool.not_eq_false]

/-- A sentence to be explained, among blanks of several kinds. -/
theorem Command.read_by_first_word_of_spaced_sentence :
    let u := " :tree"
    let gap := "\u00a0\t"
    Text.isBlank "\u3000" = true ∧ Text.isBlank "\n" = true ∧ (Text.words u).length = 1 ∧
      Text.isBlank gap = true ∧ gap ≠ "" ∧
        read ("\u3000" ++ (u ++ gap ++ "el  perro ") ++ "\n") = .ok (some (.tree "el  perro")) ∧
          read (u ++ gap ++ "el  perro ") = read (u ++ " " ++ "el  perro ") := by
  intro u gap
  have hlead : Text.isBlank "\u3000" = true := by decide +kernel
  have htrail : Text.isBlank "\n" = true := by decide +kernel
  have hu : (Text.words u).length = 1 := by decide +kernel
  have hgap : Text.isBlank gap = true := by decide +kernel
  have hspace : Text.isBlank " " = true := by decide +kernel
  obtain ⟨-, htree, -, -, -, hpad, hrun, -⟩ := read_by_first_word (u ++ gap ++ "el  perro ")
  refine ⟨hlead, htrail, hu, hgap, by decide, ?_,
    hrun u gap " " "el  perro " hu hgap (by decide) hspace (by decide)⟩
  rw [hpad "\u3000" "\n" hlead htrail, htree]
  decide +kernel

end Oracion
