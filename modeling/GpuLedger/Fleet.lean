import GpuLedger.Ledger

/-!
# Fleets

A fleet is a set of nodes, each under its own name, that are placed on by one policy. Every
operation names one node and leaves the others alone, but time passes for all of them.
-/

namespace GpuLedger

/-- Nodes by name, and the policy by which they are placed on. -/
structure Fleet where
  policy : Policy := {}
  nodes : SortedMap Node := .empty
deriving DecidableEq

namespace Fleet

/-- Adds a node, in place of one of the same name. -/
def register (n : Node) (f : Fleet) : Fleet :=
  { f with nodes := f.nodes.insert n.name n }

/-- The names of the nodes in increasing order. -/
def names (f : Fleet) : List String :=
  f.nodes.keys

/-- The node of that name as it stands. -/
def snapshot (name : String) (f : Fleet) : Except Error Node :=
  match f.nodes.get? name with
  | some n => .ok n
  | none => .error (.nodeNotFound name)

/-- Removes a node and hands it over as it stood. -/
def remove (name : String) (f : Fleet) : Outcome Fleet Error Node :=
  match f.snapshot name with
  | .ok n => ⟨{ f with nodes := f.nodes.erase name }, .ok n⟩
  | .error e => ⟨f, .error e⟩

/-- Does something to the node of that name. -/
def onNode {α : Type} (name : String) (act : Ledger → Outcome Ledger Error α) (f : Fleet) :
    Outcome Fleet Error α :=
  match f.snapshot name with
  | .ok n =>
    let o := act { node := n }
    ⟨{ f with nodes := f.nodes.insert name o.state.node }, o.result⟩
  | .error e => ⟨f, .error e⟩

/-- Places a workload on a node and records where. -/
def allocate (name : String) (clock : Option Int) (w : Workload) (f : Fleet) :
    Outcome Fleet Error Workload :=
  f.onNode name (Ledger.allocate f.policy clock w)

/-- Gives back what a workload holds on a node. -/
def release (name : String) (w : Workload) (f : Fleet) : Outcome Fleet Error Unit :=
  f.onNode name (Ledger.release w)

/-- Says whether a workload fits on a node, in the way of the policy. -/
def isAllocatable (name : String) (w : Workload) (f : Fleet) : Outcome Fleet Error Bool :=
  f.onNode name fun l =>
    let (next, fits) := l.isFeasible f.policy w
    ⟨next, .ok fits⟩

/-- Lets time pass on every node. -/
def age (time : Quantity) (f : Fleet) : Fleet :=
  { f with nodes := f.nodes.map (Node.age time) }

end Fleet

end GpuLedger
