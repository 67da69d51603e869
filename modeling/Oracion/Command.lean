import Oracion.Text

/-!
# Commands

A line that starts with a colon is a command: a name, and after blanks an argument.

## Main definitions

* `Command` — the commands.
* `Command.Fault` — what can be wrong with a command line.
* `Command.read` — the command that a line is, if it is one.
* `Command.listing` — the commands as the help page lists them.
-/

namespace Oracion

/-- A command of the interactive shell. -/
inductive Command where
  /-- Shows the commands. -/
  | help
  /-- Shows the grammar. -/
  | grammar
  /-- Shows the vocabulary. -/
  | vocabulary
  /-- Shows examples with their verdicts. -/
  | examples
  /-- Explains a sentence step by step. -/
  | tree (sentence : String)
  /-- Switches tracing on or off. -/
  | trace (on : Bool)
  /-- Leaves the shell. -/
  | quit
  deriving DecidableEq, Repr, Inhabited

namespace Command

/-- What is wrong with a line that starts with a colon. -/
inductive Fault where
  /-- A derivation is asked for without a sentence. -/
  | treeWithoutSentence
  /-- Tracing is to be switched neither on nor off. -/
  | traceWithoutSwitch
  /-- There is no such command. -/
  | unknown (name : String)
  deriving DecidableEq, Repr, Inhabited

/-- A fault as text. -/
def Fault.message : Fault → String
  | .treeWithoutSentence => "usage: :tree <sentence>"
  | .traceWithoutSwitch => "usage: :trace on|off"
  | .unknown name => "unknown command: " ++ name ++ " (try :help)"

/-- The command with a name and an argument. -/
def ofParts (name argument : String) : Except Fault Command :=
  match name with
  | ":help" | ":h" => .ok help
  | ":grammar" => .ok grammar
  | ":vocab" => .ok vocabulary
  | ":examples" => .ok examples
  | ":tree" => if argument.isEmpty then .error .treeWithoutSentence else .ok (tree argument)
  | ":trace" =>
      match argument with
      | "on" => .ok (trace true)
      | "off" => .ok (trace false)
      | _ => .error .traceWithoutSwitch
  | ":quit" | ":q" | ":exit" => .ok quit
  | _ => .error (.unknown name)

/-- The command that a line is; `none` for a line that does not start with a colon,
blanks aside. -/
def read (line : String) : Except Fault (Option Command) :=
  let cs := Chars.trim line.toList
  match cs with
  | ':' :: _ =>
      let name := cs.takeWhile fun c => !Chars.isBlank c
      let argument := Chars.trim (cs.dropWhile fun c => !Chars.isBlank c)
      (ofParts (String.ofList name) (String.ofList argument)).map some
  | _ => .ok none

/-- The commands with what they do, in the order of the help page. -/
def listing : List (String × String) :=
  [(":help", "Show this help"),
   (":grammar", "Show the grammar"),
   (":vocab", "Show the vocabulary"),
   (":examples", "Run the built-in valid and invalid examples"),
   (":tree", "Step-by-step analysis with derivation tree: :tree <sentence>"),
   (":trace", "Toggle derivation tracing: :trace on|off"),
   (":quit", "Exit")]

end Command
end Oracion
