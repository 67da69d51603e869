import Oracion.Fault
import Oracion.Text

/-!
# Options

What the arguments of the command line ask for.  An argument that starts with a hyphen
is an option and has to be a known one; any other names a file.

## Main definitions

* `Options`, `Options.take?` — the options, and how one argument changes them.
* `Options.read` — the options that a list of arguments asks for.
* `usagePage` — the page that explains them.
-/

namespace Oracion

/-- What the command line asks for. -/
structure Options where
  /-- The files to analyze, in order. -/
  files : List String := []
  /-- Whether to stop after the files or the standard input. -/
  batch : Bool := false
  /-- Whether to explain the options. -/
  help : Bool := false
  /-- Whether to tell the version. -/
  version : Bool := false
  /-- Whether to trace. -/
  trace : Bool := false
  /-- Whether to print JSON. -/
  json : Bool := false
  /-- Whether to print a summary. -/
  summary : Bool := false
  /-- Whether to explain each sentence step by step. -/
  tree : Bool := false
  deriving DecidableEq, Repr, Inhabited

/-- The fault of an option that nobody knows. -/
def Fault.unknownOption (argument : String) : Fault := .usage ("unknown option: " ++ argument)

/-- The fault of asking for two forms of output at once. -/
def Fault.jsonWithTree : Fault := .usage "--json and --tree cannot be combined"

namespace Options

/-- The options with one more argument; `none` if it is an unknown option. -/
def take? (o : Options) (argument : String) : Option Options :=
  match argument with
  | "-h" | "--help" => some { o with help := true }
  | "-V" | "--version" => some { o with version := true }
  | "-b" | "--batch" => some { o with batch := true }
  | "--trace" => some { o with trace := true }
  | "--json" => some { o with json := true }
  | "--summary" => some { o with summary := true }
  | "--tree" => some { o with tree := true }
  | _ => if Text.startsWith argument "-" then none
         else some { o with files := o.files ++ [argument] }

/-- The options with more arguments; the first unknown option is a fault. -/
def takeAll (o : Options) : List String → Except Fault Options
  | [] => .ok o
  | a :: as =>
      match o.take? a with
      | some o' => o'.takeAll as
      | none => .error (.unknownOption a)

/-- The options that a list of arguments asks for. -/
def read (arguments : List String) : Except Fault Options :=
  match takeAll {} arguments with
  | .ok o => if o.json && o.tree then .error .jsonWithTree else .ok o
  | .error fault => .error fault

end Options

/-- The page that explains the options. -/
def usagePage : String :=
  Text.joinLines
    ["\x1b[1mfrase\x1b[0m - Spanish subject-verb-object sentence recognizer",
     "",
     "\x1b[1mUSAGE:\x1b[0m",
     "    frase [OPTIONS] [FILES...]",
     "",
     "\x1b[1mARGUMENTS:\x1b[0m",
     "    [FILES...]    Files with one sentence per line to analyze before starting the REPL",
     "                  (blank lines and lines starting with # are skipped)",
     "",
     "\x1b[1mOPTIONS:\x1b[0m",
     "    -h, --help         Print help information",
     "    -V, --version      Print version information",
     "    -b, --batch        Analyze files (or stdin) and exit (no REPL)",
     "    --json             Print one JSON object per sentence",
     "    --summary          Print aggregate counts and timings",
     "    --tree             Print the step-by-step analysis with derivation tree",
     "",
     "\x1b[1mDEBUG OPTIONS:\x1b[0m",
     "    --trace            Print derivation trace to stderr",
     "",
     "\x1b[1mEXAMPLES:\x1b[0m",
     "    frase                            Start interactive REPL",
     "    frase corpus.txt                 Analyze corpus.txt, then start REPL",
     "    frase -b --summary corpus.txt    Analyze corpus.txt, print summary, exit",
     "    echo 'el perro come un hueso' | frase -b --tree",
     "",
     "\x1b[1mREPL COMMANDS:\x1b[0m",
     "    :help                Show commands",
     "    :grammar             Show the grammar",
     "    :vocab               Show the vocabulary",
     "    :examples            Run the built-in examples",
     "    :tree <sentence>     Step-by-step analysis with derivation tree",
     "    :trace on|off        Toggle derivation tracing",
     "    Ctrl+D               Exit REPL",
     "    Ctrl+C               Cancel current input"]

end Oracion
