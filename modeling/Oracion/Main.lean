import Oracion.CommandLine

/-!
# The program

Reads what a run needs, measures the analyses, prints the first stage, and holds the
dialogue line by line.
-/

namespace Oracion
namespace Program

/-- Why a file could not be read. -/
def readFault : IO.Error → ReadFault
  | .noFileOrDirectory .. => .notFound
  | .inappropriateType none .. => .isDirectory
  | .inappropriateType (some _) .. => .notDirectory
  | .invalidArgument (some _) .. => .nameTooLong
  | e => .system (toString e)

/-- The bytes of a file. -/
def readFile (name : String) : IO (Except ReadFault ByteArray) := do
  try
    return .ok (← IO.FS.readBinFile name)
  catch e => return .error (readFault e)

/-- All bytes of a stream, after those read so far. -/
partial def readAll (stream : IO.FS.Stream) (bytes : ByteArray) : IO ByteArray := do
  let chunk ← stream.read 65536
  if chunk.isEmpty then return bytes else readAll stream (bytes ++ chunk)

/-- The bytes of the standard input. -/
def readStdin : IO (Except ReadFault ByteArray) := do
  try
    return .ok (← readAll (← IO.getStdin) .empty)
  catch e => return .error (readFault e)

/-- What a run with given options reads before it prints. -/
def gather (o : Options) : IO Inputs := do
  let stdin ← if o.takesStdin then readStdin else pure (.ok .empty)
  let files ← o.files.mapM fun name => return (name, ← readFile name)
  return ⟨fun name => (files.lookup name).getD (.error .notFound), stdin⟩

/-- How long the analysis of a text takes. -/
def measure (text : String) : IO Duration := do
  let start ← IO.monoNanosNow
  let _ ← IO.lazyPure fun _ => analyze text
  return ⟨(← IO.monoNanosNow) - start⟩

/-- How long the analyses of the first stage take. -/
def measureAll (o : Options) (inputs : Inputs) : IO (Nat → Duration) := do
  match o.corpus inputs with
  | .error _ => return fun _ => .zero
  | .ok corpus =>
      let times ← (corpusTexts corpus).mapM measure
      return fun i => times.getD i .zero

/-- The bytes of a stream up to the next line feed, after those read so far. -/
partial def readLineBytes (stream : IO.FS.Stream) (bytes : ByteArray) : IO ByteArray := do
  let chunk ← stream.read 1
  if chunk.isEmpty then return bytes
  else if chunk.toList == [10] then return bytes ++ chunk
  else readLineBytes stream (bytes ++ chunk)

/-- A line from a stream. -/
def readLine (stream : IO.FS.Stream) : IO Reading := do
  try
    match byteLines (← readLineBytes stream .empty) with
    | line :: _ => return .ofBytes line
    | [] => return .endOfInput
  catch e => return .failed (readFault e).message

/-- Holds a dialogue to its end. -/
partial def converse (d : Dialogue) : IO Ending := do
  let stdin ← IO.getStdin
  let stdout ← IO.getStdout
  if ← stdin.isTty then stdout.putStr defaultPrompt
  stdout.flush
  let t := d.turn (← readLine stdin)
  stdout.putStr t.output
  match t.ending with
  | none => converse t.dialogue
  | some ending => return ending

/-- Tells a fault. -/
def fail (fault : Fault) : IO UInt32 := do
  (← IO.getStderr).putStr fault.notice
  return 1

/-- Carries out what follows the first stage. -/
def finish : CommandLine.Next → IO UInt32
  | .done => return 0
  | .failed fault => fail fault
  | .dialogue tracing withBanner => do
      if withBanner then IO.print banner
      match ← converse (.start tracing) with
      | .left => do IO.print farewell; return 0
      | .failed fault => fail fault

end Program
end Oracion

open Oracion in
/-- Runs the program. -/
def main (arguments : List String) : IO UInt32 := do
  match Options.read arguments with
  | .error fault => Program.fail fault
  | .ok o =>
      let quick := o.help || o.version
      let inputs ← if quick then pure ⟨fun _ => .error .notFound, .ok .empty⟩ else Program.gather o
      let elapsed ← if quick then pure fun _ => .zero else Program.measureAll o inputs
      let stage := CommandLine.beginWith o inputs elapsed
      (← IO.getStderr).putStr stage.stderr
      IO.print stage.stdout
      Program.finish stage.next
