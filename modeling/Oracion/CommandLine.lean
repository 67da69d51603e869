import Oracion.CommandLine.Options
import Oracion.Disk
import Oracion.Report
import Oracion.Session.Dialogue

/-!
# The command line

A run of the program as a function of its arguments, its files and its standard input.
It has two stages: the files, or in batch mode without files the standard input, are
analyzed and reported on; then, unless the mode is batch, a dialogue begins.  A run
reads all files before it prints anything, so one that cannot be read leaves the
standard output empty.

## Main definitions

* `Inputs` — the files and the standard input.
* `Options.corpus` — the text of the first stage.
* `Options.report` — what the first stage prints.
* `CommandLine.begin` — the first stage, and whether a dialogue follows.
* `CommandLine.run` — a whole run.
-/

namespace Oracion

/-- What a run can read. -/
structure Inputs where
  /-- The bytes of a file. -/
  file : String → Except ReadFault ByteArray
  /-- The bytes of the standard input. -/
  stdin : Except ReadFault ByteArray

/-- What a run can read in a folder that holds only given files. -/
def Inputs.inFolder (files : List (String × ByteArray)) (stdin : ByteArray) : Inputs :=
  ⟨(Disk.holding files stdin).read, .ok stdin⟩

/-- What a run does to its surroundings. -/
structure Exit where
  /-- Zero if all went well. -/
  status : Nat
  /-- What is printed. -/
  stdout : String
  /-- What is printed beside it. -/
  stderr : String
  deriving DecidableEq, Repr, Inhabited

/-! ### Reading -/

/-- Bytes as text. -/
def decodeText (bytes : ByteArray) : Except ReadFault String :=
  match String.fromUTF8? bytes with
  | some text => .ok text
  | none => .error .notText

/-- The text of a file. -/
def Inputs.fileText (inputs : Inputs) (name : String) : Except ReadFault String :=
  match inputs.file name with
  | .ok bytes => decodeText bytes
  | .error fault => .error fault

/-- The text of the standard input. -/
def Inputs.stdinText (inputs : Inputs) : Except ReadFault String :=
  match inputs.stdin with
  | .ok bytes => decodeText bytes
  | .error fault => .error fault

/-- The texts of files in order, each with a line feed after it; the first that cannot be
read is a fault. -/
def Inputs.fileTexts (inputs : Inputs) : List String → Except ReadFault String
  | [] => .ok ""
  | name :: names =>
      match inputs.fileText name with
      | .ok text => (inputs.fileTexts names).map fun rest => text ++ "\n" ++ rest
      | .error fault => .error fault

/-- Whether the standard input is the corpus. -/
def Options.takesStdin (o : Options) : Bool := o.batch && o.files.isEmpty

/-- The text that the first stage analyzes: the files, or in batch mode without files the
standard input. -/
def Options.corpus (o : Options) (inputs : Inputs) : Except ReadFault String :=
  if o.takesStdin then inputs.stdinText else inputs.fileTexts o.files

/-- The bytes of a line as a dialogue reads them: backspaces take back what they follow. -/
def Reading.ofBytes (line : List UInt8) : Reading :=
  match decodeText ⟨line.toArray⟩ with
  | .ok text => .line (Text.withoutBackspaces text)
  | .error fault => .failed fault.message

/-- The lines of bytes, without their ends. -/
def byteLines (bytes : ByteArray) : List (List UInt8) := Chars.splitLines 13 10 bytes.toList

/-- The standard input as a dialogue reads it, line by line. -/
def Inputs.readings (inputs : Inputs) : List Reading :=
  match inputs.stdin with
  | .ok bytes => (byteLines bytes).map Reading.ofBytes
  | .error fault => [.failed fault.message]

/-! ### The first stage -/

/-- What is printed of a report. -/
def Options.page (o : Options) (r : Report) : String :=
  if o.json then
    Text.endLines (r.jsonLines :: if o.summary then [r.summary.toJson.render] else [])
  else
    Text.endLines
      ((r.map fun e => if o.tree then explain e.analysis.source else e.analysis.page) ++
        if o.summary then ["", "\x1b[1;36m=== Summary ===\x1b[0m", r.summary.render] else [])

/-- The tracer of the first stage. -/
def Options.tracer (o : Options) : Tracer := if o.trace then .echoing else .off

/-- What the first stage prints for a corpus, and what its tracer echoes.  An empty corpus
is passed over. -/
def Options.report (o : Options) (elapsed : Nat → Duration) (corpus : String) :
    String × String :=
  if corpus.isEmpty then ("", "")
  else
    let (r, tracer) := Report.run elapsed (corpusTexts corpus) o.tracer
    (o.page r, tracer.echoText)

/-- What is said when tracing is asked for. -/
def traceNotice : String :=
  Text.endLines ["\x1b[33mDerivation tracing enabled (--trace)\x1b[0m", ""]

/-- How a fault is told. -/
def Fault.notice (fault : Fault) : String :=
  Text.endLines ["\x1b[31mError: " ++ fault.message ++ "\x1b[0m"]

namespace CommandLine

/-- What follows the first stage. -/
inductive Next where
  /-- Nothing. -/
  | done
  /-- Nothing, because of a fault. -/
  | failed (fault : Fault)
  /-- A dialogue. -/
  | dialogue (tracing withBanner : Bool)
  deriving DecidableEq, Repr, Inhabited

/-- The first stage: what is printed, what is printed beside it, and what follows. -/
structure Stage where
  /-- What is printed. -/
  stdout : String
  /-- What is printed beside it. -/
  stderr : String
  /-- What follows. -/
  next : Next
  deriving DecidableEq, Repr, Inhabited

/-- The first stage with given options, where the `i`-th analysis takes the time
`elapsed i`. -/
def beginWith (o : Options) (inputs : Inputs) (elapsed : Nat → Duration) : Stage :=
  if o.help then ⟨Text.endLines [usagePage], "", .done⟩
  else if o.version then ⟨Text.endLines ["frase " ++ version], "", .done⟩
  else
    let notice := if o.trace then traceNotice else ""
    match o.corpus inputs with
    | .error fault => ⟨"", notice, .failed (.io fault.message)⟩
    | .ok corpus =>
        let (out, echo) := o.report elapsed corpus
        ⟨out, notice ++ echo, if o.batch then .done else .dialogue o.trace o.files.isEmpty⟩

/-- The first stage of a run. -/
def begin (arguments : List String) (inputs : Inputs) (elapsed : Nat → Duration) : Stage :=
  match Options.read arguments with
  | .error fault => ⟨"", "", .failed fault⟩
  | .ok o => beginWith o inputs elapsed

/-- A run that a fault ends. -/
def failure (stdout stderr : String) (fault : Fault) : Exit := ⟨1, stdout, stderr ++ fault.notice⟩

/-- A whole run, where the `i`-th analysis of the first stage takes the time `elapsed i`. -/
def run (arguments : List String) (inputs : Inputs) (elapsed : Nat → Duration) : Exit :=
  let s := begin arguments inputs elapsed
  match s.next with
  | .done => ⟨0, s.stdout, s.stderr⟩
  | .failed fault => failure s.stdout s.stderr fault
  | .dialogue tracing withBanner =>
      let t := (Dialogue.start tracing).run withBanner inputs.readings
      let out := s.stdout ++ t.output
      match t.ending with
      | .left => ⟨0, out, s.stderr⟩
      | .failed fault => failure out s.stderr fault

end CommandLine
end Oracion
