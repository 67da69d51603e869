import Oracion.Completion
import Oracion.Fault
import Oracion.Highlight
import Oracion.Session

/-!
# Dialogues

A dialogue reads lines from an editor and prints the answers of a session, until the
input ends, a line asks to leave, or reading fails.

## Main definitions

* `Reading`, `Ending` — what an attempt to read a line can give, and how it all can end.
* `Dialogue`, `Dialogue.turn` — the state between two readings, and one step of it.
* `Dialogue.run` — all steps, with the banner before them and the farewell after.
-/

namespace Oracion

/-- What an attempt to read a line gives. -/
inductive Reading where
  /-- A line. -/
  | line (text : String)
  /-- The line was given up. -/
  | interrupted
  /-- There are no more lines. -/
  | endOfInput
  /-- The editor failed. -/
  | failed (detail : String)
  deriving DecidableEq, Repr, Inhabited

/-- How a dialogue ends. -/
inductive Ending where
  /-- The input ended, or a line asked to leave. -/
  | left
  /-- Reading failed. -/
  | failed (fault : Fault)
  deriving DecidableEq, Repr, Inhabited

/-- The version of the program. -/
def version : String := "0.1.0"

/-- What a dialogue opens with. -/
def banner : String :=
  Text.endLines
    [boldStyle ++ "frase" ++ plainStyle ++ " " ++ version ++
        " - Spanish subject-verb-object recognizer",
     "Type a sentence to analyze it, :help for commands, Ctrl+D to exit.",
     ""]

/-- What a dialogue that has not failed closes with. -/
def farewell : String := Text.endLines ["", "Goodbye!"]

/-- What a line is asked for with, unless something else is chosen. -/
def defaultPrompt : String := "frase> "

/-- A dialogue between two readings. -/
structure Dialogue where
  /-- Who answers. -/
  session : Session
  /-- The lines that were answered, the oldest first. -/
  history : List String := []
  deriving DecidableEq, Repr, Inhabited

/-- What a reading leads to. -/
structure Turn where
  /-- What is printed. -/
  output : String
  /-- The dialogue afterwards. -/
  dialogue : Dialogue
  /-- How the dialogue ends, if it does. -/
  ending : Option Ending
  deriving DecidableEq, Repr, Inhabited

/-- A dialogue from some point to its end. -/
structure Transcript where
  /-- What is printed. -/
  output : String
  /-- How many times a line is asked for. -/
  prompts : Nat
  /-- How many of the given readings are taken. -/
  consumed : Nat
  /-- How it ends. -/
  ending : Ending
  /-- The dialogue at its end. -/
  dialogue : Dialogue
  deriving DecidableEq, Repr, Inhabited

namespace Dialogue

/-- A new dialogue, with tracing on or off. -/
def start (tracing : Bool) : Dialogue := ⟨.start tracing, []⟩

/-- One step.  A blank line changes nothing and is not remembered. -/
def turn (d : Dialogue) : Reading → Turn
  | .line text =>
      if Text.isBlank text then ⟨"", d, none⟩
      else
        let (answer, session) := d.session.respond text
        let d' : Dialogue := ⟨session, d.history ++ [text]⟩
        match answer with
        | some output => ⟨output ++ "\n", d', none⟩
        | none => ⟨"", d', some .left⟩
  | .interrupted => ⟨"\n", d, none⟩
  | .endOfInput => ⟨"", d, some .left⟩
  | .failed detail => ⟨"", d, some (.failed (.editor detail))⟩

/-- All steps.  After the last reading the input ends. -/
def loop (d : Dialogue) : List Reading → Transcript
  | [] => ⟨"", 1, 0, .left, d⟩
  | r :: rs =>
      let t := d.turn r
      match t.ending with
      | some ending => ⟨t.output, 1, 1, ending, t.dialogue⟩
      | none =>
          let rest := t.dialogue.loop rs
          ⟨t.output ++ rest.output, rest.prompts + 1, rest.consumed + 1, rest.ending,
            rest.dialogue⟩

/-- A whole dialogue, with or without the banner. -/
def run (d : Dialogue) (withBanner : Bool) (rs : List Reading) : Transcript :=
  let t := d.loop rs
  let opening := if withBanner then banner else ""
  let closing := match t.ending with
    | .left => farewell
    | .failed _ => ""
  { t with output := opening ++ t.output ++ closing }

end Dialogue
end Oracion
