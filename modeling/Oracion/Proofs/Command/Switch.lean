import Oracion.Command
import Oracion.Proofs.Chars.Words

/-!
# Lines that switch tracing

Which lines are commands to switch tracing can be seen from their words alone: there are
two of them, the name of the command and `on` or `off`.  How the words are set apart, and
what stands around them, does not matter.

## Main definitions

* `Command.switchWord` — the argument that turns the switch one way.
* `Command.switch?` — how the words of a line turn the switch.

## Main results

* `Command.read_eq_trace_iff` — **the lines that are read as a command to switch tracing.**
-/

namespace Oracion
namespace Command

/-- The argument that switches tracing on or off. -/
def switchWord (on : Bool) : String := if on then "on" else "off"

/-- How a line switches tracing, if its words are a command to do so. -/
def switch? (line : String) : Option Bool :=
  if Text.words line = [":trace", switchWord true] then some true
  else if Text.words line = [":trace", switchWord false] then some false
  else none

theorem switch?_eq_some_iff {line : String} {on : Bool} :
    switch? line = some on ↔ Text.words line = [":trace", switchWord on] := by
  have hne : [":trace", switchWord true] ≠ [":trace", switchWord false] := by decide
  unfold switch?
  cases on with
  | true => split_ifs <;> simp_all
  | false => split_ifs <;> simp_all

/-- The parts of the commands to switch tracing. -/
theorem ofParts_eq_trace_iff {name argument : String} {on : Bool} :
    ofParts name argument = .ok (.trace on) ↔ name = ":trace" ∧ argument = switchWord on := by
  constructor
  · intro h
    unfold ofParts at h
    -- the argument counts for two names only: `:tree` and `:trace`
    split at h
    case h_6 => split at h <;> cases h
    case h_7 =>
      refine ⟨rfl, ?_⟩
      split at h <;> cases h <;> rfl
    all_goals cases h
  · rintro ⟨rfl, rfl⟩
    cases on <;> rfl

/-! ### How a line is read -/

variable {line : String} {c : Char} {v : List Char}

/-- A line with a colon in front is read by its first word and what follows it. -/
theorem read_of_colon (h : Chars.trim line.toList = ':' :: v) :
    read line =
      (ofParts (String.ofList ((':' :: v).takeWhile fun c => !Chars.isBlank c))
        (String.ofList (Chars.trim ((':' :: v).dropWhile fun c => !Chars.isBlank c)))).map some := by
  simp only [read, h]

/-- Any other line is no command. -/
theorem read_of_not_colon (h : ∀ v, Chars.trim line.toList ≠ ':' :: v) : read line = .ok none := by
  unfold read
  dsimp only
  split
  · exact absurd ‹_› (h _)
  · rfl

/-- A blank line is no command. -/
theorem read_of_isBlank (h : Text.isBlank line = true) :
    read line = .ok none := by
  apply read_of_not_colon
  intro v hv
  have hblank : ∀ c ∈ line.toList, Chars.isBlank c = true := List.all_eq_true.mp h
  have hstart : Chars.trimStart line.toList = [] := List.dropWhile_eq_nil_iff.mpr hblank
  rw [Chars.trim, hstart] at hv
  cases hv

/-- The words of a line that is not blank are its first word and those that follow. -/
theorem words_of_trim_eq_cons (h : Chars.trim line.toList = c :: v) :
    Text.words line =
      String.ofList ((c :: v).takeWhile fun d => !Chars.isBlank d) ::
        (Chars.words ((c :: v).dropWhile fun d => !Chars.isBlank d)).map String.ofList := by
  have hc : Chars.isBlank c = false := Chars.not_isBlank_of_trim_eq_cons h
  rw [Text.words, ← Chars.words_trim, h, Chars.words_eq_cons hc, List.map_cons]

/-- What follows the first word is the argument `on` or `off` if it has no other words. -/
theorem map_words_eq_switchWord_iff {on : Bool} :
    (Chars.words v).map String.ofList = [switchWord on] ↔
      String.ofList (Chars.trim v) = switchWord on := by
  have hne : (switchWord on).toList ≠ [] := by cases on <;> decide
  have hword : ∀ c ∈ (switchWord on).toList, Chars.isBlank c = false := by
    have hall : (switchWord on).toList.all (fun c => !Chars.isBlank c) = true := by
      cases on <;> decide
    simpa using hall
  have hinj : Function.Injective String.ofList := fun _ _ => String.ofList_injective
  calc (Chars.words v).map String.ofList = [switchWord on]
      ↔ (Chars.words v).map String.ofList = [(switchWord on).toList].map String.ofList := by
        rw [List.map_singleton, String.ofList_toList]
    _ ↔ Chars.words v = [(switchWord on).toList] := (List.map_injective_iff.mpr hinj).eq_iff
    _ ↔ Chars.trim v = (switchWord on).toList := Chars.words_eq_singleton_iff hne hword
    _ ↔ String.ofList (Chars.trim v) = switchWord on := by
        rw [← hinj.eq_iff, String.ofList_toList]

/-- **A line is read as a command to switch tracing if its words are one**, and only
then. -/
theorem read_eq_trace_iff (line : String) (on : Bool) :
    read line = .ok (some (.trace on)) ↔ switch? line = some on := by
  rw [switch?_eq_some_iff]
  by_cases hcolon : ∃ v, Chars.trim line.toList = ':' :: v
  · obtain ⟨v, hv⟩ := hcolon
    rw [read_of_colon hv, words_of_trim_eq_cons hv, List.cons.injEq, map_words_eq_switchWord_iff,
      ← ofParts_eq_trace_iff]
    generalize ofParts _ _ = result
    cases result <;> simp [Except.map]
  · have hread : read line = .ok none := read_of_not_colon fun v hv => hcolon ⟨v, hv⟩
    rw [hread]
    refine iff_of_false (fun h => by cases h) fun hwords => hcolon ?_
    -- the first character of the line is that of its first word, a colon
    cases htrim : Chars.trim line.toList with
    | nil => simp [Text.words, ← Chars.words_trim line.toList, htrim] at hwords
    | cons c v =>
      have hc : Chars.isBlank c = false := Chars.not_isBlank_of_trim_eq_cons htrim
      rw [words_of_trim_eq_cons htrim, List.takeWhile_cons_of_pos (by simp [hc])] at hwords
      have hfirst := congrArg String.toList (List.cons.inj hwords).1
      rw [String.toList_ofList] at hfirst
      exact ⟨v, congrArg (· :: v) (List.cons.inj hfirst).1⟩

/-- A line that is not read as a command to switch tracing does not do so. -/
theorem switch?_eq_none (h : ∀ on, read line ≠ .ok (some (.trace on))) : switch? line = none := by
  rw [Option.eq_none_iff_forall_ne_some]
  exact fun on hon => h on ((read_eq_trace_iff line on).mpr hon)

end Command
end Oracion
