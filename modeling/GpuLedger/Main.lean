import GpuLedger.Admission.Run
import Std.Time.DateTime.Timestamp

/-!
# The program

The outermost layer: it looks at the files that a command line names, at the clock and at the
source of random bits, lets `Admission.Invocation.run` work out what is to be done, and does it.
Standard output gets the answer, standard error the journal and what went wrong. The exit code
is 0, 1 for a command that failed, and 2 for a command line that is refused.
-/

namespace GpuLedger.Admission

/-- What is said about a command line that is refused. -/
def usage : String :=
  "Usage: [--config FILE] [--log-level LEVEL] COMMAND

Commands:
  predicate --node FILE --workload FILE [--write-node]
  allocate --node FILE --workload FILE [--write-node]
  release --node FILE --workload FILE
  rank --node FILE --cores N [--memory N] [--estimated-time N]
"

/-- The reason that an error of the system stands for. -/
def Unreadable.ofError : IO.Error → Unreadable
  | .noFileOrDirectory .. => .missing
  | .inappropriateType none .. => .folder
  | .inappropriateType (some _) .. => .throughFile
  | e => .other (toString e)

/-- Reads the text of a file. -/
def readText (path : String) : IO (Except Unreadable String) := do
  match ← (IO.FS.readBinFile path).toBaseIO with
  | .ok bytes => return (String.fromUTF8? bytes).elim (.error .binary) .ok
  | .error e => return .error (.ofError e)

/-- A clock reading in nanoseconds, if a signed word of 64 bits holds it. -/
def inRange? (time : Int) : Option Int :=
  if -(Quantity.signedBound : Int) ≤ time ∧ time < Quantity.signedBound then some time else none

/-- What a command finds around it, with the texts of the files at some paths. -/
def Surroundings.observe (paths : List String) : IO Surroundings := do
  let texts ← paths.mapM fun path => return (path, ← readText path)
  let random ← IO.getRandomBytes 16
  let now ← Std.Time.Timestamp.now
  return {
    read := fun path => (texts.find? (·.1 = path)).elim (.error .missing) (·.2)
    fresh := .ofRandom (random.foldl (fun bits b => bits <<< 8 ||| b.toBitVec.setWidth 128) 0)
    clock := inRange? now.toNanosecondsSinceUnixEpoch.val }

/-- Writes what a report wants written. A command whose file cannot be written has failed. -/
def Report.commit (r : Report) (j : Journal) : IO (Report × Journal) := do
  let some (path, text) := r.written | return (r, j)
  match ← (IO.FS.writeFile path text).toBaseIO with
  | .ok _ => return (r, j)
  | .error e =>
    let failure : Failure :=
      { error := "Failed to write " ++ path, cause := (Unreadable.ofError e).message }
    return ({ r with failure := some failure },
      { j with events := j.events.filter (· ≠ .written) })

/-- Runs a command line and gives the exit code. -/
def runLine (args : List String) : IO UInt32 := do
  let some inv := Invocation.parse? args
    | do
      IO.eprint usage
      return refusedExitCode.toUInt32
  let (report, journal) := inv.run (← Surroundings.observe inv.paths)
  IO.print report.output
  let (report, journal) ← report.commit journal
  for line in journal.lines do
    IO.eprintln line
  if let some failure := report.failure then
    IO.eprint failure.text
  return report.exitCode.toUInt32

end GpuLedger.Admission

/-- Runs the program on its arguments. -/
def main (args : List String) : IO UInt32 :=
  GpuLedger.Admission.runLine args
