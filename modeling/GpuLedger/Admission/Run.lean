import GpuLedger.Admission.Args
import GpuLedger.Admission.Directory
import GpuLedger.Admission.Journal
import GpuLedger.Snapshot.Node
import GpuLedger.Snapshot.Workload
import GpuLedger.Toml.Settings

/-!
# Running a command

A command reads a node from a file, and a workload unless it only ranks devices, and answers on
standard output. The node is written back where the command asks for it, and after a release in
any case, but only if the command has not failed: a workload that is refused leaves the file of
the node as it was. A question whether a workload fits does not fail by the answer no, so with
the node written back it leaves behind what the question has booked.

## Conventions

Files are read in the order configuration, node, workload, and the first one that cannot be used
ends the command. Everything outside of the command is handed in (`Surroundings`): the texts of
files, the time, and an identifier for a workload that comes without one.
-/

namespace GpuLedger.Admission

/-! ### Tables of scores -/

/-- A text with blanks behind it up to a width. -/
def padded (width : Nat) (text : List Char) : List Char :=
  text ++ List.replicate (width - text.length) ' '

/-- Cells in columns of fixed widths, a blank between two columns. The last cell is not
padded. -/
def tableLine : List (Nat × List Char) → List Char → List Char
  | [], last => last ++ ['\n']
  | (width, cell) :: rest, last => padded width cell ++ ' ' :: tableLine rest last

/-- The widths of all columns but the last. -/
def columnWidths : List Nat := [8, 8, 10, 10, 11]

/-- The line of a device. -/
def deviceLine (s : Share.Scored) : List Char :=
  tableLine
    (columnWidths.zip [
      Decimal.write s.device.id.toNat,
      Decimal.write s.device.allocatableCores.toNat,
      Decimal.write s.device.allocatableMemory.toNat,
      Decimal.write s.device.isolatedTime.toNat,
      Decimal.write s.device.containerCount.toNat])
    (Decimal.writePlaces 4 s.closeness)

/-- The table of a ranking. -/
def rankingTable (ranked : List Share.Scored) : String :=
  let head := tableLine
    (columnWidths.zip (["DEVICE", "CORES", "MEMORY", "ISOLATED", "CONTAINERS"].map String.toList))
    "SCORE".toList
  String.ofList (head ++ List.replicate 60 '-' ++ '\n' :: ranked.flatMap deviceLine)

/-! ### What a command does -/

/-- Why a command failed, and what caused that. -/
structure Failure where
  error : String
  cause : Option String := none
deriving DecidableEq

/-- What a command has done. -/
structure Report where
  /-- What it writes on standard output. -/
  output : String := ""
  /-- The path of a file it writes, and the text. -/
  written : Option (String × String) := none
  failure : Option Failure := none
  events : List Event := []
deriving DecidableEq

/-- What a command finds around it. -/
structure Surroundings where
  read : String → Except Unreadable String
  fresh : Uuid
  clock : Option Int

/-! ### Reading files -/

/-- The configuration in a file, or the default one. -/
def loadConfig (s : Surroundings) : Option String → Except Failure Config
  | none => .ok {}
  | some path =>
    let config : Except Error Config :=
      match s.read path with
      | .error u => .error (.config ("Failed to read config file: " ++ u.message))
      | .ok text => Config.parse text
    config.mapError fun e => { error := e.message }

/-- What a reader makes of the text of a file. -/
def load {α : Type} (s : Surroundings) (parse : String → Json.Read α) (path : String) :
    Except Failure α :=
  match s.read path with
  | .error u => .error { error := "Failed to read " ++ path, cause := some u.message }
  | .ok text =>
    (parse text).mapError fun r =>
      { error := "Failed to parse " ++ path, cause := some r.message }

/-- The node and the workload of a command. -/
def loadBoth (s : Surroundings) (node workload : String) : Except Failure (Node × Workload) := do
  let n ← load s Node.parse node
  let w ← load s (Workload.parse s.fresh) workload
  return (n, w)

/-! ### The commands -/

/-- The report with the node written back to its file. -/
def Report.writing (r : Report) (path : String) (n : Node) : Report :=
  { r with written := some (path, n.snapshotText), events := r.events ++ [.written] }

/-- Says whether a workload fits on a node. -/
def predicate (s : Surroundings) (policy : Policy) (node workload : String) (writeNode : Bool) :
    Report :=
  match loadBoth s node workload with
  | .error f => { failure := some f }
  | .ok (n, w) =>
    let (next, fits) := Ledger.isFeasible policy w { node := n }
    let report : Report :=
      { output := (if fits then "true" else "false") ++ "\n",
        events := Event.ofQuestion policy w { node := n } }
    if writeNode then report.writing node next.node else report

/-- Places a workload on a node. -/
def allocate (s : Surroundings) (policy : Policy) (node workload : String) (writeNode : Bool) :
    Report :=
  match loadBoth s node workload with
  | .error f => { failure := some f }
  | .ok (n, w) =>
    let events := Event.ofAllocation policy s.clock w { node := n }
    match Ledger.allocate policy s.clock w { node := n } with
    | ⟨_, .error e⟩ =>
      { failure := some { error := "Failed to allocate workload " ++ w.name, cause := e.message },
        events }
    | ⟨next, .ok placed⟩ =>
      let report : Report := { output := placed.descriptorText ++ "\n", events }
      if writeNode then report.writing node next.node else report

/-- Gives back what a workload holds on a node. -/
def release (s : Surroundings) (node workload : String) : Report :=
  match loadBoth s node workload with
  | .error f => { failure := some f }
  | .ok (n, w) =>
    let events := Event.ofRelease w { node := n }
    match Ledger.release w { node := n } with
    | ⟨_, .error e⟩ =>
      { failure := some { error := "Failed to release workload " ++ w.name, cause := e.message },
        events }
    | ⟨next, .ok ()⟩ => Report.writing { events } node next.node

/-- Shows the scores of the devices of a node for a request. -/
def rank (s : Surroundings) (policy : Policy) (node : String) (r : Request) : Report :=
  match load s Node.parse node with
  | .error f => { failure := some f }
  | .ok n =>
    let ranked := Share.rank policy.capacityFilter n.devices r
    { output :=
        if ranked.isEmpty then "No candidate devices on node " ++ n.name ++ "\n"
        else rankingTable ranked,
      events := Event.ofRank policy.capacityFilter n.devices r }

/-- The paths that a command reads, in this order. -/
def Command.paths : Command → List String
  | .predicate node workload _ => [node, workload]
  | .allocate node workload _ => [node, workload]
  | .release node workload => [node, workload]
  | .rank node _ => [node]

/-- The paths that a command reads with the options around it, in this order. -/
def Invocation.paths (inv : Invocation) : List String :=
  inv.config.toList ++ inv.command.paths

/-- Runs a command by a policy. -/
def Command.run (s : Surroundings) (policy : Policy) : Command → Report
  | .predicate node workload writeNode => Admission.predicate s policy node workload writeNode
  | .allocate node workload writeNode => Admission.allocate s policy node workload writeNode
  | .release node workload => Admission.release s node workload
  | .rank node request => Admission.rank s policy node request

/-- Runs a command with the options around it, and lists what is to be reported of it. -/
def Invocation.run (s : Surroundings) (inv : Invocation) : Report × Journal :=
  match loadConfig s inv.config with
  | .error f => ({ failure := some f }, {})
  | .ok config =>
    let report := inv.command.run s config.policy
    (report, .of config.logging inv.logLevel report.events)

/-! ### Command lines in a directory -/

/-- The exit code of a command that has been run. -/
def Report.exitCode (r : Report) : Nat :=
  if r.failure.isSome then 1 else 0

/-- The exit code of a command line that is refused. -/
def refusedExitCode : Nat := 2

/-- The directory after a command. -/
def Report.apply (r : Report) (d : Directory) : Directory :=
  match r.written with
  | some (path, text) => d.write path text
  | none => d

/-- Runs a command line in a directory; there is no report of one that is refused. -/
def Directory.run (d : Directory) (fresh : Uuid) (clock : Option Int) (args : List String) :
    Option (Report × Journal) :=
  (Invocation.parse? args).map (Invocation.run ⟨d.read, fresh, clock⟩)

/-! ### Failures as text -/

/-- A text of several lines with four blanks in front of each line. -/
def indented (text : List Char) : List Char :=
  let margin := List.replicate 4 ' '
  margin ++ text.flatMap fun c => if c = '\n' then '\n' :: margin else [c]

/-- What is shown of a failure. -/
def Failure.text (f : Failure) : String :=
  "Error: " ++ f.error ++
    match f.cause with
    | none => "\n"
    | some cause => "\n\nCaused by:\n" ++ String.ofList (indented cause.toList) ++ "\n"

end GpuLedger.Admission
