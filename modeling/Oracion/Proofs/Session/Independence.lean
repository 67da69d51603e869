import Oracion.Proofs.Command.Switch
import Oracion.Proofs.Trace.Agreement
import Oracion.Session

/-!
# A session forgets its lines

All that a session remembers of the lines it has answered is whether tracing is on.  Its
tracer counts the events of all of them, but the count is never shown; its buffer and
depth are back at their start after every line, whether the line is a sentence, a
command or a mistake.  So a line is answered as by a new session with the same switch.

## Main definitions

* `Session.after` — a session after some lines.
* `Session.lastSwitch` — how the commands among some lines leave the switch.
* `Session.Idle` — the state between two lines.

## Main results

* `Session.idle_respond`, `Session.idle_after` — a line, and a list of them, leave a
  session idle.
* `Session.respond_of_idle` — an idle session answers like a new one.
* `Session.respond_forgets_history` — **no line's answer depends on earlier lines.**
-/

namespace Oracion

open Trace

namespace Session

/-! ### Lines one after the other -/

/-- A session after it has answered some lines; a command to leave does not end it. -/
def after (s : Session) (lines : List String) : Session :=
  lines.foldl (fun s line => (s.respond line).2) s

/-- How the last line that switches tracing leaves it; `tracing` if no line does. -/
def lastSwitch (tracing : Bool) (lines : List String) : Bool :=
  (lines.filterMap Command.switch?).getLast?.getD tracing

@[simp] theorem after_nil (s : Session) : s.after [] = s := rfl

@[simp] theorem after_cons (s : Session) (line : String) (lines : List String) :
    s.after (line :: lines) = (s.respond line).2.after lines := rfl

@[simp] theorem lastSwitch_nil (tracing : Bool) : lastSwitch tracing [] = tracing := rfl

theorem lastSwitch_cons (tracing : Bool) (line : String) (lines : List String) :
    lastSwitch tracing (line :: lines) = lastSwitch ((Command.switch? line).getD tracing) lines := by
  unfold lastSwitch
  cases h : Command.switch? line with
  | none => rw [List.filterMap_cons_none h, Option.getD_none]
  | some on =>
    rw [List.filterMap_cons_some h, List.getLast?_cons, Option.getD_some, Option.getD_some]

/-! ### Between two lines -/

/-- A session between two lines: its tracer is that of a new session with the same
switch, the count of events aside. -/
structure Idle (s : Session) : Prop where
  /-- The tracer treats events as that of a new session. -/
  config : s.tracer.config = (start s.isTracing).tracer.config
  /-- The buffer is empty. -/
  buffer : s.tracer.buffer = []
  /-- No rule is being matched. -/
  depth : s.tracer.depth = 0

theorem idle_start (tracing : Bool) : (start tracing).Idle := by
  cases tracing <;> exact ⟨rfl, rfl, rfl⟩

@[simp] theorem isTracing_start (tracing : Bool) : (start tracing).isTracing = tracing := by
  cases tracing <;> rfl

/-- Clearing a tracer that treats events as that of a new session makes a session idle. -/
theorem idle_clear {t : Tracer} {tracing : Bool} (h : t.config = (start tracing).tracer.config) :
    Idle ⟨t.clear⟩ ∧ isTracing ⟨t.clear⟩ = tracing := by
  have htracing : isTracing ⟨t.clear⟩ = tracing :=
    (congrArg Config.enabled h).trans (isTracing_start tracing)
  exact ⟨⟨htracing ▸ h, rfl, rfl⟩, htracing⟩

/-- The tracer of an idle session agrees with that of a new one. -/
theorem Idle.agrees {s : Session} (h : s.Idle) : s.tracer.Agrees (start s.isTracing).tracer := by
  have hstart := idle_start s.isTracing
  refine ⟨h.config, h.depth.trans hstart.depth.symm, ?_⟩
  rw [Tracer.entries, Tracer.entries, h.buffer, hstart.buffer]

/-! ### Sentences -/

/-- What a session answers to a sentence, and what is left of the session: the tracer is
told the events of the analysis, and what it keeps of them goes into the answer. -/
theorem analyzeLine_eq (line : String) : ∃ es, ∀ s : Session, s.analyzeLine line =
    if s.isTracing then
      ((analyze line).page ++ "\n\nTrace:\n" ++ Layout.plain.text (s.tracer.recordAll es).buffer,
        ⟨(s.tracer.recordAll es).clear⟩)
    else ((analyze line).page, s) := by
  obtain ⟨es, hes⟩ := analyzeWith_eq_recordAll line
  refine ⟨es, fun s => ?_⟩
  have henabled : (s.tracer.recordAll es).isEnabled = s.isTracing :=
    congrArg Config.enabled (s.tracer.config_recordAll es)
  simp only [analyzeLine, hes, henabled, Tracer.drain]
  split
  · rfl
  · next h => rw [Tracer.recordAll_of_disabled (Bool.eq_false_iff.mpr h)]

variable {s : Session}

/-- A sentence leaves a session idle, and tracing as it was. -/
theorem Idle.analyzeLine (h : s.Idle) (line : String) :
    (s.analyzeLine line).2.Idle ∧ (s.analyzeLine line).2.isTracing = s.isTracing := by
  obtain ⟨es, hes⟩ := analyzeLine_eq line
  rw [hes]
  cases htracing : s.isTracing with
  | false => exact ⟨h, htracing⟩
  | true =>
    have hclear := idle_clear ((s.tracer.config_recordAll es).trans h.config)
    rwa [htracing] at hclear

/-- An idle session answers a sentence like a new one. -/
theorem Idle.analyzeLine_fst (h : s.Idle) (line : String) :
    (s.analyzeLine line).1 = ((start s.isTracing).analyzeLine line).1 := by
  obtain ⟨es, hes⟩ := analyzeLine_eq line
  rw [hes, hes, isTracing_start]
  split
  · -- the two tracers may number their records differently, which the text does not show
    rw [Layout.text_plain_congr (h.agrees.recordAll es).entries]
  · rfl

/-! ### Commands -/

theorem Idle.switchTracing (h : s.Idle) (on : Bool) :
    (s.switchTracing on).Idle ∧ (s.switchTracing on).isTracing = on := by
  have hconfig : { s.tracer.config with enabled := on } = (start on).tracer.config := by
    rw [h.config]
    cases s.isTracing <;> cases on <;> rfl
  cases on with
  | false => exact idle_clear hconfig
  | true =>
    -- nothing is cleared, but nothing was there either
    exact ⟨⟨hconfig, h.buffer, h.depth⟩, rfl⟩

theorem Idle.execute (h : s.Idle) (command : Command) : (s.execute command).2.Idle := by
  cases command with
  | trace on => exact (h.switchTracing on).1
  | _ => exact h

/-- No other command than the one to switch tracing does so. -/
theorem isTracing_execute {command : Command} (h : ∀ on, command ≠ .trace on) :
    (s.execute command).2.isTracing = s.isTracing := by
  cases command with
  | trace on => exact absurd rfl (h on)
  | _ => rfl

theorem execute_fst (s s' : Session) (command : Command) :
    (s.execute command).1 = (s'.execute command).1 := by
  cases command <;> rfl

/-! ### Lines -/

/-- A line leaves a session idle. -/
theorem idle_respond (h : s.Idle) (line : String) : (s.respond line).2.Idle := by
  rcases hread : Command.read line with fault | _ | command
  · rw [respond_of_fault hread]
    exact h
  · rw [respond_of_sentence hread]
    dsimp only
    exact (h.analyzeLine _).1
  · rw [respond_of_command hread]
    exact h.execute command

/-- A line switches tracing if its words say so, and only then. -/
theorem isTracing_respond (h : s.Idle) (line : String) :
    (s.respond line).2.isTracing = (Command.switch? line).getD s.isTracing := by
  by_cases hswitch : ∃ on, Command.read line = .ok (some (.trace on))
  · obtain ⟨on, hread⟩ := hswitch
    rw [respond_of_command hread, (Command.read_eq_trace_iff line on).mp hread]
    exact (h.switchTracing on).2
  · have hother : ∀ on, Command.read line ≠ .ok (some (.trace on)) := not_exists.mp hswitch
    rw [Command.switch?_eq_none hother, Option.getD_none]
    rcases hread : Command.read line with fault | _ | command
    · rw [respond_of_fault hread]
    · rw [respond_of_sentence hread]
      dsimp only
      exact (h.analyzeLine _).2
    · rw [respond_of_command hread]
      refine isTracing_execute fun on hon => hother on ?_
      rw [hread, hon]

/-- An idle session answers like a new one. -/
theorem respond_of_idle (h : s.Idle) (line : String) :
    (s.respond line).1 = ((start s.isTracing).respond line).1 := by
  rcases hread : Command.read line with fault | _ | command
  · rw [respond_of_fault hread, respond_of_fault hread]
  · rw [respond_of_sentence hread, respond_of_sentence hread, h.analyzeLine_fst]
  · rw [respond_of_command hread, respond_of_command hread]
    exact execute_fst _ _ command

/-- Lines leave a session idle, and tracing as the last command among them says. -/
theorem idle_after (h : s.Idle) (lines : List String) :
    (s.after lines).Idle ∧ (s.after lines).isTracing = lastSwitch s.isTracing lines := by
  induction lines generalizing s with
  | nil =>
    rw [after_nil, lastSwitch_nil]
    exact ⟨h, rfl⟩
  | cons line lines ih =>
    -- the rest of the lines is answered by an idle session, with the switch as `line` left it
    rw [after_cons, lastSwitch_cons, ← isTracing_respond h]
    exact ih (idle_respond h line)

/-- **No line's answer depends on earlier lines.**  After any lines, tracing is as the last
command among them to switch it says, nothing is left in the buffer, the depth is zero,
and every further line is answered as by a new session with the same switch. -/
theorem respond_forgets_history (tracing : Bool) (lines : List String) :
    let s := (start tracing).after lines
    s.isTracing = lastSwitch tracing lines ∧ s.tracer.buffer = [] ∧ s.tracer.depth = 0 ∧
      ∀ line, (s.respond line).1 = ((start (lastSwitch tracing lines)).respond line).1 := by
  intro s
  obtain ⟨hidle, hswitch⟩ := idle_after (idle_start tracing) lines
  rw [isTracing_start] at hswitch
  refine ⟨hswitch, hidle.buffer, hidle.depth, fun line => ?_⟩
  rw [respond_of_idle hidle, hswitch]

end Session
end Oracion
