import Oracion.Derivation.Steps
import Oracion.Manual

/-!
# Sessions

A session answers lines one by one: a command does what it says, and any other line is
analyzed.  All that a session remembers is its tracer.

## Main definitions

* `Session`, `Session.start` — sessions.
* `Session.execute`, `Session.analyzeLine` — commands and sentences.
* `Session.respond` — the answer to a line.
-/

namespace Oracion

/-- A conversation with the recognizer. -/
structure Session where
  /-- Records analyses while tracing is on. -/
  tracer : Tracer
  deriving DecidableEq, Repr, Inhabited

namespace Session

/-- A new session, with tracing on or off. -/
def start (tracing : Bool) : Session := ⟨if tracing then Tracer.off.enable else .off⟩

/-- Whether tracing is on. -/
def isTracing (s : Session) : Bool := s.tracer.isEnabled

/-- Switches tracing on or off; what has been traced is dropped with the latter. -/
def switchTracing (s : Session) (on : Bool) : Session :=
  ⟨if on then s.tracer.enable else s.tracer.disable.clear⟩

/-- Does what a command says; nothing is answered to the command to leave. -/
def execute (s : Session) : Command → Option String × Session
  | .help => (some helpPage, s)
  | .grammar => (some grammarPage, s)
  | .vocabulary => (some vocabularyPage, s)
  | .examples => (some examplesPage, s)
  | .tree sentence => (some (explain sentence), s)
  | .trace on => (some ("tracing " ++ if on then "on" else "off"), s.switchTracing on)
  | .quit => (none, s)

/-- Analyzes a line; with tracing on, the trace follows the page. -/
def analyzeLine (s : Session) (line : String) : String × Session :=
  let (a, tracer) := analyzeWith line s.tracer
  if tracer.isEnabled then
    let (records, tracer) := tracer.drain
    (a.page ++ "\n\nTrace:\n" ++ Trace.Layout.plain.text records, ⟨tracer⟩)
  else (a.page, ⟨tracer⟩)

/-- The answer to a line; nothing if the line asks to leave. -/
def respond (s : Session) (line : String) : Option String × Session :=
  match Command.read line with
  | .ok none =>
      let (page, s) := s.analyzeLine (Text.trim line)
      (some page, s)
  | .ok (some command) => s.execute command
  | .error fault => (some fault.message, s)

/-! ### The three kinds of lines -/

theorem respond_of_sentence {line : String} (h : Command.read line = .ok none) (s : Session) :
    s.respond line =
      (some (s.analyzeLine (Text.trim line)).1, (s.analyzeLine (Text.trim line)).2) := by
  unfold respond
  rw [h]

theorem respond_of_command {line : String} {command : Command}
    (h : Command.read line = .ok (some command)) (s : Session) :
    s.respond line = s.execute command := by
  unfold respond
  rw [h]

theorem respond_of_fault {line : String} {fault : Command.Fault}
    (h : Command.read line = .error fault) (s : Session) :
    s.respond line = (some fault.message, s) := by
  unfold respond
  rw [h]

end Session
end Oracion
