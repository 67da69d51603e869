import Oracion.Proofs.Session.Independence
import Oracion.Session.Dialogue

/-!
# What a dialogue comes to

A dialogue is driven by what its editor reads.  It goes on up to the first reading that ends
it, and what it prints, remembers and comes to can be told from the readings up to there: the
lines that are not blank are remembered and answered in order, each by the session as the
lines before have left it, and nothing else that is read changes the session.

## Main definitions

* `Reading.ends`, `Reading.ending` — the readings that end a dialogue, and how.
* `Reading.spoken rs` — the lines among readings that are not blank.
* `Session.printedAll s rs` — what is printed for readings, from the session `s` on.

## Main results

* `Dialogue.turn_eq` — one step, in these terms.
* `Dialogue.loop_of_ends` — all steps up to the reading that ends the dialogue.
* `Dialogue.run_transcribes_readings` — **the transcript of a dialogue, read off its script.**
-/

namespace Oracion

/-! ### Readings -/

namespace Reading

/-- Whether a dialogue ends with a reading: the input ends, reading fails, or the line is the
command to leave. -/
def ends : Reading → Bool
  | line text => decide (Command.read text = .ok (some .quit))
  | interrupted => false
  | endOfInput => true
  | failed _ => true

/-- How a dialogue ends that ends with a reading. -/
def ending : Reading → Ending
  | failed detail => .failed (.editor detail)
  | _ => .left

/-- The line of a reading, unless it is blank. -/
def spoken? : Reading → Option String
  | line text => if Text.isBlank text then none else some text
  | _ => none

/-- The lines among readings that are not blank. -/
def spoken (rs : List Reading) : List String := rs.filterMap spoken?

theorem spoken_cons (r : Reading) (rs : List Reading) :
    spoken (r :: rs) = spoken [r] ++ spoken rs := List.filterMap_append (l := [r])

/-- Every list of readings that is closed by the end of the input has a first that ends a
dialogue. -/
theorem exists_first_ends (rs : List Reading) :
    ∃ before last rest, rs ++ [endOfInput] = before ++ last :: rest ∧
      (∀ r ∈ before, r.ends = false) ∧ last.ends = true := by
  have hsome : ((rs ++ [endOfInput]).find? ends).isSome := by
    rw [List.find?_isSome]
    exact ⟨endOfInput, List.mem_append_right rs (List.mem_singleton.mpr rfl), rfl⟩
  obtain ⟨last, hlast⟩ := Option.isSome_iff_exists.mp hsome
  obtain ⟨hends, before, rest, hsplit, hbefore⟩ := List.find?_eq_some_iff_append.mp hlast
  refine ⟨before, last, rest, hsplit, ?_, hends⟩
  intro r hr
  simpa using hbefore r hr

end Reading

open Reading

/-! ### Lines that end a dialogue -/

namespace Session

/-- Only the command to leave is not answered. -/
theorem respond_eq_none_iff (s : Session) (line : String) :
    (s.respond line).1 = none ↔ Command.read line = .ok (some .quit) := by
  rcases hread : Command.read line with fault | _ | command
  · rw [respond_of_fault hread]
    simp
  · rw [respond_of_sentence hread]
    simp
  · rw [respond_of_command hread]
    cases command <;> simp [execute]

theorem after_append (s : Session) (lines lines' : List String) :
    s.after (lines ++ lines') = (s.after lines).after lines' := List.foldl_append

/-! ### What is printed -/

/-- What is printed for a reading: the answer to a line that is not blank, a line feed for
one that was given up, and nothing else. -/
def printed (s : Session) : Reading → String
  | .line text =>
      if Text.isBlank text then ""
      else match (s.respond text).1 with
        | some answer => answer ++ "\n"
        | none => ""
  | .interrupted => "\n"
  | .endOfInput => ""
  | .failed _ => ""

/-- What is printed for readings.  Each finds the session as the lines spoken before it have
left it. -/
def printedAll (s : Session) (rs : List Reading) : String :=
  String.join (rs.mapIdx fun i r => (s.after (spoken (rs.take i))).printed r)

@[simp] theorem printedAll_nil (s : Session) : s.printedAll [] = "" := rfl

theorem printedAll_cons (s : Session) (r : Reading) (rs : List Reading) :
    s.printedAll (r :: rs) = s.printed r ++ (s.after (spoken [r])).printedAll rs := by
  have hrest : ∀ i, s.after (spoken ((r :: rs).take (i + 1))) =
      (s.after (spoken [r])).after (spoken (rs.take i)) := by
    intro i
    rw [List.take_succ_cons, spoken_cons, after_append]
  simp only [printedAll, List.mapIdx_cons, hrest, String.join_cons]
  rfl

end Session

/-! ### Steps -/

namespace Dialogue

/-- A dialogue after readings: the lines among them have been answered and are remembered. -/
def hear (d : Dialogue) (rs : List Reading) : Dialogue :=
  ⟨d.session.after (spoken rs), d.history ++ spoken rs⟩

theorem hear_cons (d : Dialogue) (r : Reading) (rs : List Reading) :
    d.hear (r :: rs) = (d.hear [r]).hear rs := by
  unfold hear
  rw [spoken_cons, Session.after_append, List.append_assoc]

/-- **One step**: what the reading has printed, the dialogue that has heard it, and an ending
if the reading is one that ends a dialogue. -/
theorem turn_eq (d : Dialogue) (r : Reading) :
    d.turn r = ⟨d.session.printed r, d.hear [r], if r.ends then some r.ending else none⟩ := by
  have hquiet : spoken [r] = [] → d.hear [r] = d := by
    intro hr
    unfold hear
    rw [hr, List.append_nil, Session.after_nil]
  cases r with
  | interrupted => rw [hquiet rfl]; rfl
  | endOfInput => rw [hquiet rfl]; rfl
  | failed detail => rw [hquiet rfl]; rfl
  | line text =>
    by_cases hblank : Text.isBlank text = true
    · have hends : (Reading.line text).ends = false := by
        simp [ends, Command.read_of_isBlank hblank]
      rw [hquiet (by simp [spoken, spoken?, hblank]), hends]
      simp [turn, Session.printed, hblank]
    · have hspoken : spoken [.line text] = [text] := by simp [spoken, spoken?, hblank]
      have hends : (Reading.line text).ends = (d.session.respond text).1.isNone := by
        rw [ends, Bool.eq_iff_iff, decide_eq_true_iff, ← Session.respond_eq_none_iff d.session,
          Option.isNone_iff_eq_none]
      have hhear : d.hear [.line text] =
          ⟨(d.session.respond text).2, d.history ++ [text]⟩ := by
        unfold hear
        rw [hspoken]
        rfl
      rw [hends, hhear]
      simp only [turn, Session.printed, if_neg hblank]
      cases (d.session.respond text).1 <;> rfl

theorem loop_cons_of_ends {r : Reading} (h : r.ends = true) (d : Dialogue) (rs : List Reading) :
    d.loop (r :: rs) = ⟨d.session.printed r, 1, 1, r.ending, d.hear [r]⟩ := by
  simp [loop, turn_eq, h]

theorem loop_cons_of_goes_on {r : Reading} (h : r.ends = false) (d : Dialogue)
    (rs : List Reading) :
    d.loop (r :: rs) =
      let rest := (d.hear [r]).loop rs
      ⟨d.session.printed r ++ rest.output, rest.prompts + 1, rest.consumed + 1, rest.ending,
        rest.dialogue⟩ := by
  simp [loop, turn_eq, h]

/-! ### Whole dialogues -/

/-- **All steps, up to the first reading that ends the dialogue.** -/
theorem loop_of_ends {before rest : List Reading} {last : Reading}
    (hbefore : ∀ r ∈ before, r.ends = false) (hlast : last.ends = true) (d : Dialogue) :
    d.loop (before ++ last :: rest) =
      ⟨d.session.printedAll (before ++ [last]), before.length + 1, before.length + 1,
        last.ending, d.hear (before ++ [last])⟩ := by
  induction before generalizing d with
  | nil =>
    rw [List.nil_append, List.nil_append, loop_cons_of_ends hlast, Session.printedAll_cons,
      Session.printedAll_nil, String.append_empty]
    rfl
  | cons r before ih =>
    obtain ⟨hr, hrest⟩ := List.forall_mem_cons.mp hbefore
    -- the rest is a dialogue of its own, which has heard `r`
    rw [List.cons_append, loop_cons_of_goes_on hr, ih hrest, List.cons_append,
      Session.printedAll_cons, hear_cons d r (before ++ [last])]
    rfl

/-- The end of the input that follows the last reading can as well be read. -/
theorem loop_concat_endOfInput (d : Dialogue) (rs : List Reading) :
    d.loop (rs ++ [.endOfInput]) = { d.loop rs with consumed := (d.loop rs).prompts } ∧
      (d.loop rs).consumed = min (d.loop rs).prompts rs.length := by
  induction rs generalizing d with
  | nil => exact ⟨rfl, rfl⟩
  | cons r rs ih =>
    cases hr : r.ends with
    | true =>
      rw [List.cons_append, loop_cons_of_ends hr, loop_cons_of_ends hr, List.length_cons]
      refine ⟨rfl, ?_⟩
      show 1 = min 1 (rs.length + 1)
      omega
    | false =>
      obtain ⟨hloop, hconsumed⟩ := ih (d.hear [r])
      rw [List.cons_append, loop_cons_of_goes_on hr, loop_cons_of_goes_on hr, hloop,
        List.length_cons]
      refine ⟨rfl, ?_⟩
      show _ + 1 = min (_ + 1) (rs.length + 1)
      omega

/-- **The transcript of a dialogue, read off its script.**  The script is what the editor
gives, with the end of the input after it.  A dialogue reads it up to and including the first
reading that ends it, and asks for a line before each.  It remembers the lines read that are
not blank.  It prints the banner if that is wanted, then for each reading what the session
prints that has answered the lines before, and the farewell unless reading has failed. -/
theorem run_transcribes_readings (d : Dialogue) (withBanner : Bool) (rs : List Reading) :
    let t := d.run withBanner rs
    ∃ before last rest, rs ++ [.endOfInput] = before ++ last :: rest ∧
      (∀ r ∈ before, r.ends = false) ∧ last.ends = true ∧
      t.prompts = (before ++ [last]).length ∧
      t.consumed = min t.prompts rs.length ∧
      t.dialogue.history = d.history ++ spoken (before ++ [last]) ∧
      t.dialogue.session = d.session.after (spoken (before ++ [last])) ∧
      t.ending = last.ending ∧
      t.output = (if withBanner then banner else "") ++ d.session.printedAll (before ++ [last]) ++
        (if t.ending = .left then farewell else "") := by
  intro t
  obtain ⟨before, last, rest, hsplit, hbefore, hlast⟩ := exists_first_ends rs
  refine ⟨before, last, rest, hsplit, hbefore, hlast, ?_⟩
  obtain ⟨hloop, hconsumed⟩ := loop_concat_endOfInput d rs
  rw [hsplit, loop_of_ends hbefore hlast d] at hloop
  have houtput : (d.loop rs).output = d.session.printedAll (before ++ [last]) :=
    (congrArg Transcript.output hloop).symm
  have hprompts : (d.loop rs).prompts = before.length + 1 :=
    (congrArg Transcript.prompts hloop).symm
  have hending : (d.loop rs).ending = last.ending := (congrArg Transcript.ending hloop).symm
  have hdialogue : (d.loop rs).dialogue = d.hear (before ++ [last]) :=
    (congrArg Transcript.dialogue hloop).symm
  refine ⟨?_, hconsumed, ?_, ?_, hending, ?_⟩
  · rw [List.length_append]
    exact hprompts
  · exact congrArg Dialogue.history hdialogue
  · exact congrArg Dialogue.session hdialogue
  · show _ ++ (d.loop rs).output ++ _ = _ ++ _ ++ if (d.loop rs).ending = .left then _ else _
    rw [houtput]
    cases (d.loop rs).ending <;> rfl

end Dialogue
end Oracion
