import GpuLedger.Admission.Run
import GpuLedger.Proofs.Answers
import GpuLedger.Proofs.Directories
import GpuLedger.Proofs.Snapshots

/-!
# Commands as Transactions

In memory an operation that fails leaves behind what it had done until then. On the command line
it leaves nothing behind: the node is written back only by a command that has succeeded. So the
file of a node goes through the nodes that the operations lead to if those that fail are dropped
(`Operation.commit`), and this is all that happens in the directory.

A directory **holds** a node in a file if the text of the file is read as that node
(`Directory.Holds`). A call of the command line **asks** for an operation on the node in a file
(`Call.Asks`) if its configuration and its workload can be read, its node is in that file, and it
writes the node. Such a call **carries out** the operation (`Call.CarriesOut`): the exit code and
the answer are those of the operation on the node that was held, and the node that is held then is
the one that it leads to, or the same one if it fails.

That carries over to any number of calls. What a later call finds besides the node is what it would
have found at first (`Call.Asks.of_agreesBut`), and the node is read back as it was written
(`Node.parse_snapshotText`).

## Main results

* `Call.perform_of_failed` — a call that fails changes nothing;
* `Call.Asks.carriesOut` — one call carries out an operation;
* `commands_refine_operations` — any number of calls.
-/

namespace GpuLedger

/-- The node after an operation that counts only if it succeeds. -/
def Operation.commit (op : Operation) (n : Node) : Node :=
  if (op.outcome { node := n }).succeeded then (op.outcome { node := n }).state.node else n

/-- The node after several operations, those that fail dropped. -/
def Operation.commitAll (ops : List Operation) (n : Node) : Node :=
  ops.foldl (fun n op => op.commit n) n

namespace Admission

/-! ### Calls -/

/-- A call of the command line: its arguments, and the identifier and the time that it finds. -/
structure Call where
  args : List String
  fresh : Uuid
  clock : Option Int

namespace Call

variable (c : Call) (d : Directory)

/-- What a call finds around it in a directory. -/
def surroundings : Surroundings := ⟨d.read, c.fresh, c.clock⟩

/-- The report of a call in a directory; none if its command line is refused. -/
def report? : Option Report := (d.run c.fresh c.clock c.args).map Prod.fst

/-- The exit code of a call. -/
def exitCode : Nat := (c.report? d).elim refusedExitCode Report.exitCode

/-- What a call writes on standard output. -/
def output : String := (c.report? d).elim "" Report.output

/-- The directory that a call leaves behind. -/
def perform : Directory := (c.report? d).elim d (·.apply d)

/-- The directory that several calls leave behind, one after the other. -/
def performAll (cs : List Call) (d : Directory) : Directory :=
  cs.foldl (fun d c => c.perform d) d

end Call

/-! ### What fails writes nothing -/

/-- A command does not both fail and write. -/
theorem Command.failure_eq_none_or_written_eq_none (s : Surroundings) (policy : Policy)
    (command : Command) :
    (command.run s policy).failure = none ∨ (command.run s policy).written = none := by
  cases command with
  | predicate node workload writeNode =>
      simp only [run, Admission.predicate]
      rcases loadBoth s node workload with f | ⟨n, w⟩
      · exact .inr rfl
      · cases writeNode <;> exact .inl rfl
  | allocate node workload writeNode =>
      simp only [run, Admission.allocate]
      rcases loadBoth s node workload with f | ⟨n, w⟩
      · exact .inr rfl
      · simp only
        rcases Ledger.allocate policy s.clock w { node := n } with ⟨next, e | placed⟩
        · exact .inr rfl
        · cases writeNode <;> exact .inl rfl
  | release node workload =>
      simp only [run, Admission.release]
      rcases loadBoth s node workload with f | ⟨n, w⟩
      · exact .inr rfl
      · simp only
        rcases Ledger.release w { node := n } with ⟨next, e | done⟩
        · exact .inr rfl
        · exact .inl rfl
  | rank node request =>
      simp only [run, Admission.rank]
      cases load s Node.parse node <;> exact .inr rfl

/-- A command line does not both fail and write. -/
theorem Invocation.failure_eq_none_or_written_eq_none (s : Surroundings) (inv : Invocation) :
    (inv.run s).1.failure = none ∨ (inv.run s).1.written = none := by
  rw [run]
  cases loadConfig s inv.config with
  | error f => exact .inr rfl
  | ok config => exact inv.command.failure_eq_none_or_written_eq_none s config.policy

namespace Call

variable {c : Call} {d : Directory}

/-- The report of a call whose command line is read. -/
theorem report?_eq {inv : Invocation} (h : Invocation.parse? c.args = some inv) :
    c.report? d = some (inv.run (c.surroundings d)).1 := by
  rw [report?, Directory.run, h]
  rfl

/-- **A call that fails**, or whose command line is refused, changes nothing. -/
theorem perform_of_failed (h : c.exitCode d ≠ 0) : c.perform d = d := by
  cases hargs : Invocation.parse? c.args with
  | none =>
      have hreport : c.report? d = none := by rw [report?, Directory.run, hargs]; rfl
      rw [perform, hreport]
      rfl
  | some inv =>
      rw [exitCode, report?_eq hargs, Option.elim_some, Report.exitCode] at h
      rw [perform, report?_eq hargs, Option.elim_some, Report.apply]
      rcases inv.failure_eq_none_or_written_eq_none (c.surroundings d) with hnone | hnone
      · rw [hnone] at h
        exact absurd rfl h
      · rw [hnone]

end Call

/-! ### Operations that are carried out -/

/-- What is written on standard output of an answer. -/
def printed : Answer → String
  | .placed w => w.descriptorText ++ "\n"
  | .fits yes => (if yes then "true" else "false") ++ "\n"
  | .placement _ | .placements _ | .done => ""

/-- The operation on a node for which a command asks with a workload, if it is one that writes the
node. -/
def Command.operation? (policy : Policy) (clock : Option Int) (w : Workload) :
    Command → Option Operation
  | predicate _ _ true => some (.demand (.isFeasible policy w))
  | allocate _ _ true => some (.demand (.allocate policy clock w))
  | release _ _ => some (.release w)
  | predicate _ _ false | allocate _ _ false | rank _ _ => none

/-- A report says how an operation went, and writes the node of a path if it went well. -/
structure Report.Tells (r : Report) (o : Outcome Ledger Error Answer) (path : String) :
    Prop where
  failure : r.failure.isSome = !o.succeeded
  written : r.written = if o.succeeded then some (path, o.state.node.snapshotText) else none
  output : r.output = o.result.toOption.elim "" printed

/-- **What a command reports** of the operation for which it asks. -/
theorem Command.run_tells {s : Surroundings} {policy : Policy} {command : Command}
    {node workload : String} {n : Node} {w : Workload} {op : Operation}
    (hpaths : command.paths = [node, workload]) (hload : loadBoth s node workload = .ok (n, w))
    (hop : command.operation? policy s.clock w = some op) :
    (command.run s policy).Tells (op.outcome { node := n }) node := by
  cases command with
  | predicate node' workload' writeNode =>
      obtain ⟨rfl, rfl⟩ : node' = node ∧ workload' = workload := by simpa [paths] using hpaths
      cases writeNode with
      | false => cases hop
      | true =>
          obtain rfl := Option.some.inj hop
          simp only [run, Admission.predicate, hload]
          exact ⟨rfl, rfl, rfl⟩
  | allocate node' workload' writeNode =>
      obtain ⟨rfl, rfl⟩ : node' = node ∧ workload' = workload := by simpa [paths] using hpaths
      cases writeNode with
      | false => cases hop
      | true =>
          obtain rfl := Option.some.inj hop
          simp only [run, Admission.allocate, hload, Operation.outcome, Demand.outcome]
          rcases Ledger.allocate policy s.clock w { node := n } with ⟨next, e | placed⟩
          · exact ⟨rfl, rfl, rfl⟩
          · exact ⟨rfl, rfl, rfl⟩
  | release node' workload' =>
      obtain ⟨rfl, rfl⟩ : node' = node ∧ workload' = workload := by simpa [paths] using hpaths
      obtain rfl := Option.some.inj hop
      simp only [run, Admission.release, hload, Operation.outcome]
      rcases Ledger.release w { node := n } with ⟨next, e | done⟩
      · exact ⟨rfl, rfl, rfl⟩
      · exact ⟨rfl, rfl, rfl⟩
  | rank node' request => cases hop

/-! ### What a call finds -/

/-- A directory holds a node in a file: the text of the file is read as the node. -/
def Directory.Holds (d : Directory) (file : String) (n : Node) : Prop :=
  ∃ text, d.files.get? file = some (.text text) ∧ Node.parse text = .ok n

/-- A file with the snapshot of a node holds the node. -/
theorem Directory.holds_of_snapshot {d : Directory} {file : String} {n : Node}
    (h : d.files.get? file = some (.text n.snapshotText)) : d.Holds file n :=
  ⟨n.snapshotText, h, n.parse_snapshotText⟩

/-- A file holds one node. -/
theorem Directory.Holds.unique {d : Directory} {file : String} {n m : Node}
    (h : d.Holds file n) (h' : d.Holds file m) : n = m := by
  obtain ⟨text, htext, hparse⟩ := h
  obtain ⟨text', htext', hparse'⟩ := h'
  obtain rfl : text = text' := Content.text.inj (Option.some.inj (htext.symm.trans htext'))
  exact Except.ok.inj (hparse.symm.trans hparse')

/-- What a call finds in a directory if it is one about the node in a file and a workload: a command
line, a configuration, and the workload. Where the path of the node leads is all that is asked about
it, not how it is spelled. -/
structure Call.Finds (c : Call) (d : Directory) (file : String) (inv : Invocation)
    (config : Config) (w : Workload) : Prop where
  parsed : Invocation.parse? c.args = some inv
  configured : loadConfig (c.surroundings d) inv.config = .ok config
  paths : ∃ node workload, inv.command.paths = [node, workload] ∧ d.resolve node = .ok file ∧
    load (c.surroundings d) (Workload.parse c.fresh) workload = .ok w

/-- A call asks for an operation on the node in a file. -/
def Call.Asks (c : Call) (d : Directory) (file : String) (op : Operation) : Prop :=
  ∃ inv config w, c.Finds d file inv config w ∧
    inv.command.operation? config.policy c.clock w = some op

/-- A call carries an operation out on the node that is held in a file. -/
structure Call.CarriesOut (c : Call) (d : Directory) (file : String) (n : Node)
    (op : Operation) : Prop where
  exitCode : c.exitCode d = if (op.outcome { node := n }).succeeded then 0 else 1
  output : c.output d = (op.outcome { node := n }).result.toOption.elim "" printed
  holds : (c.perform d).Holds file (op.commit n)
  agreesBut : (c.perform d).AgreesBut file d

/-- What is loaded from a file that contains a text. -/
theorem load_of_text {α : Type} {parse : String → Json.Read α} {c : Call} {d : Directory}
    {path file text : String} {a : α} (hpath : d.resolve path = .ok file)
    (htext : d.files.get? file = some (.text text)) (hparse : parse text = .ok a) :
    load (c.surroundings d) parse path = .ok a := by
  simp only [load, Call.surroundings, Directory.read_of_resolve hpath htext, hparse]
  rfl

/-- Both the node and the workload are there. -/
theorem loadBoth_eq {c : Call} {d : Directory} {file : String} {n : Node} {w : Workload}
    {node workload : String} (hholds : d.Holds file n) (hnode : d.resolve node = .ok file)
    (hworkload : load (c.surroundings d) (Workload.parse c.fresh) workload = .ok w) :
    loadBoth (c.surroundings d) node workload = .ok (n, w) := by
  obtain ⟨text, htext, hparse⟩ := hholds
  have hn : load (c.surroundings d) Node.parse node = .ok n := load_of_text hnode htext hparse
  have hw : load (c.surroundings d) (Workload.parse (c.surroundings d).fresh) workload = .ok w :=
    hworkload
  rw [loadBoth, hn, hw]
  rfl

namespace Call

variable {c : Call} {d e : Directory} {file : String} {n : Node} {op : Operation}

/-- The report of a call that finds what it needs. -/
theorem Finds.report?_eq {inv : Invocation} {config : Config} {w : Workload}
    (h : c.Finds d file inv config w) :
    c.report? d = some (inv.command.run (c.surroundings d) config.policy) := by
  rw [Call.report?_eq h.parsed, Invocation.run, h.configured]

/-- A call finds one command line, one configuration and one workload. -/
theorem Finds.unique {inv inv' : Invocation} {config config' : Config} {w w' : Workload}
    (h : c.Finds d file inv config w) (h' : c.Finds d file inv' config' w') :
    config = config' ∧ w = w' := by
  obtain rfl := Option.some.inj (h.parsed.symm.trans h'.parsed)
  obtain ⟨node, workload, hpaths, -, hworkload⟩ := h.paths
  obtain ⟨node', workload', hpaths', -, hworkload'⟩ := h'.paths
  have hsame : workload = workload' := by
    have hboth := hpaths.symm.trans hpaths'
    simp only [List.cons.injEq, and_true] at hboth
    exact hboth.2
  subst hsame
  exact ⟨Except.ok.inj (h.configured.symm.trans h'.configured),
    Except.ok.inj (hworkload.symm.trans hworkload')⟩

/-- What is left behind by a call whose report tells of an operation. -/
theorem carriesOut_of_tells {r : Report} {path : String} (hreport : c.report? d = some r)
    (hpath : d.resolve path = .ok file) (hholds : d.Holds file n)
    (htells : r.Tells (op.outcome { node := n }) path) : c.CarriesOut d file n op := by
  have hexit : c.exitCode d = if (op.outcome { node := n }).succeeded then 0 else 1 := by
    rw [exitCode, hreport, Option.elim_some, Report.exitCode, htells.failure]
    cases (op.outcome { node := n }).succeeded <;> rfl
  have houtput : c.output d = (op.outcome { node := n }).result.toOption.elim "" printed := by
    rw [output, hreport, Option.elim_some, htells.output]
  have hperform : c.perform d = r.apply d := by rw [perform, hreport, Option.elim_some]
  by_cases hsucceeded : (op.outcome { node := n }).succeeded
  · have hwritten : c.perform d
        = d.write path (op.outcome { node := n }).state.node.snapshotText := by
      rw [hperform, Report.apply, htells.written, if_pos hsucceeded]
    refine ⟨hexit, houtput, ?_, ?_⟩
    · rw [hwritten, Operation.commit, if_pos hsucceeded]
      exact Directory.holds_of_snapshot (Directory.get?_write hpath _)
    · rw [hwritten]
      exact Directory.agreesBut_write hpath _
  · have hsame : c.perform d = d := by
      rw [hperform, Report.apply, htells.written, if_neg hsucceeded]
    refine ⟨hexit, houtput, ?_, ?_⟩
    · rw [hsame, Operation.commit, if_neg hsucceeded]
      exact hholds
    · rw [hsame]
      exact .refl file d

/-- **One call** carries out the operation for which it asks. -/
theorem Asks.carriesOut (h : c.Asks d file op) (hholds : d.Holds file n) :
    c.CarriesOut d file n op := by
  obtain ⟨inv, config, w, hfinds, hop⟩ := h
  obtain ⟨node, workload, hpaths, hnode, hworkload⟩ := hfinds.paths
  exact carriesOut_of_tells hfinds.report?_eq hnode hholds
    (Command.run_tells hpaths (loadBoth_eq hholds hnode hworkload) hop)

/-! ### Any number of calls -/

/-- The configuration and the workload of a call are not in a file. -/
def Spares (c : Call) (d : Directory) (file : String) : Prop :=
  ∀ inv, Invocation.parse? c.args = some inv →
    ∀ path ∈ inv.config.toList ++ inv.command.paths.tail, d.resolve path ≠ .ok file

/-- A configuration is read as before if its file is. -/
theorem loadConfig_congr {s t : Surroundings} {config : Option String}
    (h : ∀ path ∈ config.toList, t.read path = s.read path) :
    loadConfig t config = loadConfig s config := by
  cases config with
  | none => rfl
  | some path => simp only [loadConfig, h path (List.mem_singleton_self path)]

/-- **What a call asks for** does not depend on what is in the file of the node. -/
theorem Asks.of_agreesBut (h : c.Asks d file op) (hspares : c.Spares d file)
    (he : e.AgreesBut file d) : c.Asks e file op := by
  obtain ⟨inv, config, w, hfinds, hop⟩ := h
  obtain ⟨node, workload, hpaths, hnode, hworkload⟩ := hfinds.paths
  have hread : ∀ path ∈ inv.config.toList ++ [workload], e.read path = d.read path := by
    intro path hpath
    refine he.read_eq (hspares inv hfinds.parsed path ?_)
    rwa [hpaths, List.tail_cons]
  refine ⟨inv, config, w, ⟨hfinds.parsed, ?_, node, workload, hpaths, ?_, ?_⟩, hop⟩
  · have hconfig : loadConfig (c.surroundings e) inv.config
        = loadConfig (c.surroundings d) inv.config :=
      loadConfig_congr fun path hpath => hread path (List.mem_append_left _ hpath)
    rw [hconfig, hfinds.configured]
  · rw [he.resolve_eq, hnode]
  · have hsame : (c.surroundings e).read workload = (c.surroundings d).read workload :=
      hread workload (List.mem_append_right _ (List.mem_singleton_self workload))
    rw [← hworkload, load, load, hsame]

/-- Where the configuration and the workload are does not depend on it either. -/
theorem Spares.of_agreesBut (h : c.Spares d file) (he : e.AgreesBut file d) :
    c.Spares e file := by
  intro inv hparsed path hpath
  rw [he.resolve_eq]
  exact h inv hparsed path hpath

/-- What a call without a configuration finds. -/
theorem finds_of_descriptor (command : Command) (other : String) {node workload : String}
    {w : Workload} (hparsed : Invocation.parse? c.args = some { command })
    (hpaths : command.paths = [node, workload]) (hnode : d.resolve node = .ok file)
    (hworkload : d.resolve workload = .ok other)
    (htext : d.files.get? other = some (.text w.descriptorText)) :
    c.Finds d file { command } {} w :=
  ⟨hparsed, rfl, node, workload, hpaths, hnode,
    load_of_text hworkload htext (w.parse_descriptorText c.fresh)⟩

/-- What a call without a configuration asks for, where its workload is in another file. -/
theorem asks_of_descriptor (command : Command) (other : String) {node workload : String}
    {w : Workload} (hparsed : Invocation.parse? c.args = some { command })
    (hpaths : command.paths = [node, workload]) (hnode : d.resolve node = .ok file)
    (hworkload : d.resolve workload = .ok other)
    (htext : d.files.get? other = some (.text w.descriptorText)) (hother : other ≠ file)
    (hop : command.operation? {} c.clock w = some op) :
    c.Asks d file op ∧ c.Spares d file := by
  refine ⟨⟨_, {}, w, finds_of_descriptor command other hparsed hpaths hnode hworkload htext, hop⟩,
    fun inv hinv path hpath => ?_⟩
  obtain rfl := Option.some.inj (hparsed.symm.trans hinv)
  have hpath : path = workload := by simpa [hpaths] using hpath
  rw [hpath, hworkload]
  exact fun h => hother (Except.ok.inj h)

/-- **Several calls** lead to the node to which their operations lead, and leave all other files
as they were. -/
theorem holds_performAll {calls : List (Call × Operation)} (hholds : d.Holds file n)
    (hcalls : ∀ x ∈ calls, x.1.Asks d file x.2 ∧ x.1.Spares d file) :
    (performAll (calls.map Prod.fst) d).Holds file (Operation.commitAll (calls.map Prod.snd) n) ∧
      (performAll (calls.map Prod.fst) d).AgreesBut file d := by
  induction calls generalizing d n with
  | nil => exact ⟨hholds, .refl file d⟩
  | cons x rest ih =>
      have hfirst := (hcalls x List.mem_cons_self).1.carriesOut hholds
      -- The first call has written no file but that of the node, so the others find what they need.
      have hrest : ∀ y ∈ rest,
          y.1.Asks (x.1.perform d) file y.2 ∧ y.1.Spares (x.1.perform d) file := by
        intro y hy
        obtain ⟨hasks, hspares⟩ := hcalls y (List.mem_cons_of_mem _ hy)
        exact ⟨hasks.of_agreesBut hspares hfirst.agreesBut,
          hspares.of_agreesBut hfirst.agreesBut⟩
      obtain ⟨hlast, hagrees⟩ := ih hfirst.holds hrest
      exact ⟨hlast, hagrees.trans hfirst.agreesBut⟩

end Call

/-- **Commands refine operations, as transactions.** A call of the command line that does not exit
with 0, whatever it was to do, leaves everything as it was. A call that asks for an operation on the
node in a file carries it out: it exits with 0 if the operation succeeds on the node that the file
holds and with 1 otherwise, it prints the answer, the file then holds the node to which the
operation leads or, if it failed, the same node as before, and no other file has changed. And the
same is true of a call after any number of others of this kind, with their workloads and
configurations in other files, by what the file holds then: the node to which those of their
operations lead that have succeeded. -/
theorem commands_refine_operations :
    (∀ (c : Call) (d : Directory), c.exitCode d ≠ 0 → c.perform d = d) ∧
    (∀ (c : Call) (d : Directory) (file : String) (n : Node) (op : Operation),
      c.Asks d file op → d.Holds file n → c.CarriesOut d file n op) ∧
    ∀ (d : Directory) (file : String) (n : Node) (before : List (Call × Operation)) (c : Call)
      (op : Operation), d.Holds file n →
      (∀ x ∈ before ++ [(c, op)], x.1.Asks d file x.2 ∧ x.1.Spares d file) →
      let e := Call.performAll (before.map Prod.fst) d
      let m := Operation.commitAll (before.map Prod.snd) n
      e.Holds file m ∧ e.AgreesBut file d ∧ c.CarriesOut e file m op := by
  refine ⟨fun c d h => Call.perform_of_failed h, fun c d file n op h hn => h.carriesOut hn, ?_⟩
  intro d file n before c op hholds hcalls e m
  obtain ⟨hm, hagrees⟩ := Call.holds_performAll hholds fun x hx =>
    hcalls x (List.mem_append_left _ hx)
  obtain ⟨hasks, hspares⟩ := hcalls (c, op) (List.mem_append_right _ (List.mem_singleton_self _))
  exact ⟨hm, hagrees, (hasks.of_agreesBut hspares hagrees).carriesOut hm⟩

/-- A workload is placed, a second one is refused after its first container has been placed, and
the first one is given back: the file holds the idle node again. The refused call exits with 1 and
leaves the file as it was, however the path of the node is spelled. -/
theorem commands_refine_operations_refused :
    let n : Node := ⟨"node", 100, 1, [{ id := 0, totalCores := 100, totalMemory := 100 }]⟩
    let part : Workload := { uid := ⟨1⟩, name := "job", containers := [.withGpu "part" 10 10] }
    let both : Workload :=
      { uid := ⟨2⟩, name := "big", containers := [.withGpu "part" 10 10, .withGpu "whole" 100 0] }
    let placed := part.annotate "node" 9 [⟨0, "part", .share, [0], 10, 10⟩]
    let d : Directory :=
      { files := .ofList [("node.json", .text n.snapshotText),
          ("part.json", .text part.descriptorText), ("both.json", .text both.descriptorText),
          ("placed.json", .text placed.descriptorText)] }
    let allocate := fun workload => Call.mk
      ["allocate", "--node", "./node.json", "--workload", workload, "--write-node"] ⟨3⟩ (some 9)
    let release := Call.mk
      ["release", "--node", "node.json", "--workload", "placed.json"] ⟨3⟩ (some 9)
    let e := Call.performAll [allocate "part.json"] d
    let f := Call.performAll [allocate "part.json", allocate "both.json"] d
    (allocate "both.json").exitCode e = 1 ∧ (allocate "both.json").perform e = e ∧
      release.exitCode f = 0 ∧ (release.perform f).Holds "node.json" n := by
  intro n part both placed d allocate release e f
  have hn : d.Holds "node.json" n :=
    Directory.holds_of_snapshot (by simp [d, SortedMap.ofList, SortedMap.get?_insert])
  have hpart : (allocate "part.json").Asks d "node.json" (.demand (.allocate {} (some 9) part)) ∧
      (allocate "part.json").Spares d "node.json" :=
    Call.asks_of_descriptor (.allocate "./node.json" "part.json" true) "part.json"
      (by decide +kernel) rfl (by decide +kernel) (by decide +kernel)
      (by simp [d, SortedMap.ofList, SortedMap.get?_insert]) (by decide) rfl
  have hboth : (allocate "both.json").Asks d "node.json" (.demand (.allocate {} (some 9) both)) ∧
      (allocate "both.json").Spares d "node.json" :=
    Call.asks_of_descriptor (.allocate "./node.json" "both.json" true) "both.json"
      (by decide +kernel) rfl (by decide +kernel) (by decide +kernel)
      (by simp [d, SortedMap.ofList, SortedMap.get?_insert]) (by decide) rfl
  have hreturn : release.Asks d "node.json" (.release placed) ∧ release.Spares d "node.json" :=
    Call.asks_of_descriptor (.release "node.json" "placed.json") "placed.json"
      (by decide +kernel) rfl (by decide +kernel) (by decide +kernel)
      (by simp [d, SortedMap.ofList, SortedMap.get?_insert]) (by decide) rfl
  obtain ⟨hfailed, -, hrun⟩ := commands_refine_operations
  let first : Call × Operation :=
    (allocate "part.json", .demand (.allocate {} (some 9) part))
  let second : Call × Operation :=
    (allocate "both.json", .demand (.allocate {} (some 9) both))
  obtain ⟨-, -, hrefused⟩ := hrun d "node.json" n [first] second.1 second.2 hn (by
    intro x hx
    rcases List.mem_pair.mp hx with rfl | rfl
    · exact hpart
    · exact hboth)
  obtain ⟨-, -, hreturned⟩ := hrun d "node.json" n [first, second] release (.release placed) hn (by
    intro x hx
    simp only [List.cons_append, List.nil_append, List.mem_cons, List.not_mem_nil, or_false] at hx
    rcases hx with rfl | rfl | rfl
    · exact hpart
    · exact hboth
    · exact hreturn)
  have hexit : (allocate "both.json").exitCode e = 1 :=
    hrefused.exitCode.trans (if_neg (by decide +kernel))
  have hidle : Operation.commit (.release placed)
      (Operation.commitAll ([first, second].map Prod.snd) n) = n := by decide +kernel
  refine ⟨hexit, hfailed _ _ (by rw [hexit]; decide), ?_, ?_⟩
  · exact hreturned.exitCode.trans (if_pos (by decide +kernel))
  · have hlast := hreturned.holds
    rwa [hidle] at hlast

end Admission

end GpuLedger
