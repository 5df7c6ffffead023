import GpuLedger.Workload

/-!
# Arguments of the command line

A command line names a command and gives options by their names. An option with a value takes it
from the next argument or, after an equals sign, from its own. An argument that begins with a
hyphen is no value, unless it is a hyphen alone. Two options apply to every command and may stand
in front of the command or behind it; where such an option stands on both sides the later one
counts. Apart from that no option may be given twice, and no argument may be left over.

A command line that does not keep to this is refused as a whole (`Invocation.parse?`), and so is
one whose numbers are no quantities or whose paths are empty.
-/

namespace GpuLedger.Admission

/-- What is to be done with the node in a file. -/
inductive Command where
  /-- Say whether a workload fits. -/
  | predicate (node workload : String) (writeNode : Bool)
  /-- Place a workload. -/
  | allocate (node workload : String) (writeNode : Bool)
  /-- Give back what a workload holds. -/
  | release (node workload : String)
  /-- Show the scores of the devices for a request. -/
  | rank (node : String) (request : Request)
deriving DecidableEq

/-- A command with the options that apply to every command. -/
structure Invocation where
  config : Option String := none
  logLevel : Option String := none
  command : Command
deriving DecidableEq

/-! ### Options -/

/-- The name of an option, and whether it takes a value. -/
abbrev OptionRule := String × Bool

/-- Options found on a command line, with their values. -/
abbrev Options := List (String × String)

/-- The value of an option. -/
def Options.get? (options : Options) (name : String) : Option String :=
  (options.find? (·.1 = name)).map (·.2)

/-- The name of an option and the value after its equals sign, from behind its hyphens. -/
def splitOption (option : List Char) : String × Option String :=
  let name := option.takeWhile (· ≠ '=')
  match option.drop name.length with
  | [] => (String.ofList name, none)
  | _ :: value => (String.ofList name, some (String.ofList value))

/-- Whether an argument is taken for an option and not for a value. -/
def looksLikeOption (arg : String) : Bool :=
  match arg.toList with
  | ['-'] => false
  | '-' :: _ => true
  | _ => false

/-- The options at the beginning of some arguments, and the arguments from the first one that
belongs to no option. Two hyphens alone end the options, and nothing may follow them. -/
def takeOptions? (rules : List OptionRule) : Options → List String → Option (Options × List String)
  | found, [] => some (found, [])
  | found, arg :: rest =>
    if !looksLikeOption arg then some (found, arg :: rest)
    else
      match arg.toList with
      | ['-', '-'] => if rest.isEmpty then some (found, []) else none
      | '-' :: '-' :: option =>
        let (name, attached) := splitOption option
        match rules.find? (·.1 = name) with
        | none => none
        | some (_, valued) =>
          if found.any (·.1 = name) then none
          else if valued then
            match attached, rest with
            | some value, rest => takeOptions? rules ((name, value) :: found) rest
            | none, [] => none
            | none, value :: rest =>
              if looksLikeOption value then none
              else takeOptions? rules ((name, value) :: found) rest
          else if attached.isSome then none
          else takeOptions? rules ((name, "") :: found) rest
      | _ => none

/-! ### Commands -/

/-- The options that apply to every command. -/
def generalRules : List OptionRule := [("config", true), ("log-level", true)]

/-- The options of each command. -/
def commandRules? : String → Option (List OptionRule)
  | "predicate" => some [("node", true), ("workload", true), ("write-node", false)]
  | "allocate" => some [("node", true), ("workload", true), ("write-node", false)]
  | "release" => some [("node", true), ("workload", true)]
  | "rank" => some [("node", true), ("cores", true), ("memory", true), ("estimated-time", true)]
  | _ => none

/-- A path that has to be given. -/
def path? (options : Options) (name : String) : Option String :=
  (options.get? name).filter (· ≠ "")

/-- A number that may be left out for a default. -/
def number? (options : Options) (name : String) (default : Option Quantity) : Option Quantity :=
  match options.get? name with
  | none => default
  | some value =>
    match Decimal.readQuantity value.toList with
    | .ok q => some q
    | .error _ => none

/-- A command by its name and options. -/
def Command.ofOptions? (options : Options) : String → Option Command
  | "predicate" => do
    return .predicate (← path? options "node") (← path? options "workload")
      (options.get? "write-node").isSome
  | "allocate" => do
    return .allocate (← path? options "node") (← path? options "workload")
      (options.get? "write-node").isSome
  | "release" => do
    return .release (← path? options "node") (← path? options "workload")
  | "rank" => do
    let cores ← number? options "cores" none
    let memory ← number? options "memory" (some 0)
    let time ← number? options "estimated-time" (some 0)
    return .rank (← path? options "node") ⟨cores, memory, time⟩
  | _ => none

/-- Reads a command line. -/
def Invocation.parse? (args : List String) : Option Invocation := do
  let (before, rest) ← takeOptions? generalRules [] args
  match rest with
  | [] => none
  | name :: rest => do
    let (options, rest) ← takeOptions? (generalRules ++ (← commandRules? name)) [] rest
    if !rest.isEmpty then none
    else if (before ++ options).any (· = ("config", "")) then none
    else
      return {
        config := (options.get? "config").or (before.get? "config")
        logLevel := (options.get? "log-level").or (before.get? "log-level")
        command := ← Command.ofOptions? options name }

end GpuLedger.Admission
