import GpuLedger.Fleet
import GpuLedger.Proofs.Records
import GpuLedger.Proofs.Session

/-!
# Runs of a Fleet

A fleet is told to do one thing after another (`Fleet.Command`), and every command but two names
a node. What such a command answers and does depends on the policy of the fleet and on what is
registered under that name, and on nothing else; under every other name it leaves everything as it
was. Time passes for all nodes, each apart from the others. A run of a fleet is therefore the
product of runs of its nodes: under a name everything happens as if only the commands that bear on
it (`Fleet.Command.bearsOn`) had been given.

`Fleet.AgreeOn` says that two fleets have the same policy and the same under a name. It is kept by
a command that bears on the name, given to both (`Fleet.Command.agreeOn_outcome`), and by one that
does not, given to either (`Fleet.Command.agreeOn_of_not_bearsOn`).

## Main results

* `Fleet.Command.under` — all that a command can do under a name;
* `Fleet.sameFrame_run` — what stays of a node that is neither replaced nor removed;
* `Fleet.steps_filter` and `Fleet.run_filter` — the steps of a name are those of its commands alone;
* `Fleet.isSome_run` — which names are registered;
* `fleet_run_is_product` — a run from the empty fleet.
-/

namespace GpuLedger

namespace Fleet

/-! ### Commands -/

/-- What a fleet can be told to do. -/
inductive Command where
  /-- To add a node, in place of one of the same name. -/
  | register (n : Node)
  /-- To remove the node of a name and hand it over. -/
  | remove (name : String)
  /-- To show the node of a name. -/
  | snapshot (name : String)
  /-- To list the names of all nodes. -/
  | names
  /-- To place a workload on a node, at a time. -/
  | allocate (name : String) (clock : Option Int) (w : Workload)
  /-- To give back what a workload holds on a node. -/
  | release (name : String) (w : Workload)
  /-- To say whether a workload fits on a node. -/
  | isAllocatable (name : String) (w : Workload)
  /-- To let time pass. -/
  | age (time : Quantity)
deriving DecidableEq

/-- What a command that succeeds is answered. -/
inductive Reply where
  | done
  | node (n : Node)
  | names (names : List String)
  | placed (w : Workload)
  | fits (yes : Bool)
deriving DecidableEq

namespace Command

/-- What a command leaves behind, and how it is answered. -/
def outcome : Command → Fleet → Outcome Fleet Error Reply
  | register n, f => ⟨f.register n, .ok .done⟩
  | remove name, f => (f.remove name).map .node
  | snapshot name, f => ⟨f, (f.snapshot name).map .node⟩
  | names, f => ⟨f, .ok (.names f.names)⟩
  | allocate name clock w, f => (f.allocate name clock w).map .placed
  | release name w, f => (f.release name w).map fun _ => .done
  | isAllocatable name w, f => (f.isAllocatable name w).map .fits
  | age time, f => ⟨f.age time, .ok .done⟩

/-- The name that a command names. -/
def subject? : Command → Option String
  | register n => some n.name
  | remove name | snapshot name | allocate name _ _ | release name _ | isAllocatable name _ =>
    some name
  | names | age _ => none

/-- Whether a command names a name, or lets time pass. -/
def bearsOn (name : String) : Command → Bool
  | age _ => true
  | c => c.subject? = some name

end Command

/-! ### Runs -/

/-- The fleet after several commands, one after the other. -/
def run (cs : List Command) (f : Fleet) : Fleet :=
  cs.foldl (fun f c => (c.outcome f).state) f

/-- One step of a run, as it is seen by someone who watches a name. -/
structure Step where
  command : Command
  result : Except Error Reply
  /-- The node of the name after the command, if there is one. -/
  node? : Option Node

/-- The steps of a run, seen by someone who watches a name. -/
def steps (name : String) : List Command → Fleet → List Step
  | [], _ => []
  | c :: rest, f =>
    let o := c.outcome f
    ⟨c, o.result, o.state.nodes.get? name⟩ :: steps name rest o.state

/-- A run begins with its first command. -/
@[simp] theorem run_cons (c : Command) (cs : List Command) (f : Fleet) :
    f.run (c :: cs) = (c.outcome f).state.run cs :=
  rfl

/-! ### One node at a time -/

section OneNode

variable {α : Type} (name : String) (act : Ledger → Outcome Ledger Error α) (f : Fleet)

/-- What is done on the node of a name, if there is one. -/
theorem onNode_eq : f.onNode name act =
    match f.nodes.get? name with
    | some n =>
      ⟨{ f with nodes := f.nodes.insert name (act { node := n }).state.node },
        (act { node := n }).result⟩
    | none => ⟨f, .error (.nodeNotFound name)⟩ := by
  rw [onNode, snapshot]
  cases f.nodes.get? name <;> rfl

/-- The node of a name is handed back when it is removed, if there is one. -/
theorem remove_eq : f.remove name =
    match f.nodes.get? name with
    | some n => ⟨{ f with nodes := f.nodes.erase name }, .ok n⟩
    | none => ⟨f, .error (.nodeNotFound name)⟩ := by
  rw [remove, snapshot]
  cases f.nodes.get? name <;> rfl

/-- Operations on a node leave the policy alone. -/
@[simp] theorem policy_onNode : (f.onNode name act).state.policy = f.policy := by
  rw [onNode_eq]
  cases f.nodes.get? name <;> rfl

/-- Removing a node leaves the policy alone. -/
@[simp] theorem policy_remove : (f.remove name).state.policy = f.policy := by
  rw [remove_eq]
  cases f.nodes.get? name <;> rfl

/-- Only the node of the name is changed, if there is one. -/
theorem get?_onNode (key : String) :
    (f.onNode name act).state.nodes.get? key =
      if name = key then (f.nodes.get? key).map fun n => (act { node := n }).state.node
      else f.nodes.get? key := by
  rw [onNode_eq]
  by_cases hkey : name = key
  · subst hkey
    rw [if_pos rfl]
    cases hn : f.nodes.get? name with
    | none => exact hn
    | some n => exact (SortedMap.get?_insert _ _ _ _).trans (if_pos rfl)
  · rw [if_neg hkey]
    cases f.nodes.get? name with
    | none => rfl
    | some n => exact (SortedMap.get?_insert _ _ _ _).trans (if_neg hkey)

/-- Only the node of the name is removed, if there is one. -/
theorem get?_remove (key : String) :
    (f.remove name).state.nodes.get? key = if name = key then none else f.nodes.get? key := by
  rw [remove_eq]
  by_cases hkey : name = key
  · subst hkey
    rw [if_pos rfl]
    cases hn : f.nodes.get? name with
    | none => exact hn
    | some n => exact (SortedMap.get?_erase _ _ _).trans (if_pos rfl)
  · rw [if_neg hkey]
    cases f.nodes.get? name with
    | none => rfl
    | some n => exact (SortedMap.get?_erase _ _ _).trans (if_neg hkey)

end OneNode

/-! ### What a command does under a name -/

namespace Command

variable {name : String} {f g : Fleet}

/-- No command changes the policy. -/
@[simp] theorem policy_outcome (c : Command) (f : Fleet) :
    (c.outcome f).state.policy = f.policy := by
  cases c with
  | register n => rfl
  | remove name => exact policy_remove name f
  | snapshot name => rfl
  | names => rfl
  | allocate name clock w => exact policy_onNode name _ f
  | release name w => exact policy_onNode name _ f
  | isAllocatable name w => exact policy_onNode name _ f
  | age time => rfl

/-- A command that neither registers a node of a name nor removes it. -/
def Spares (name : String) (c : Command) : Prop :=
  (∀ n, c = .register n → n.name ≠ name) ∧ c ≠ .remove name

/-- Something done to the node of some name leaves the frames of all nodes. -/
theorem under_onNode {α : Type} {act : Ledger → Outcome Ledger Error α}
    (hact : ∀ l : Ledger, (act l).state.node.SameFrame l.node) (key name : String) (f : Fleet) :
    ∃ change : Node → Node, (∀ n, (change n).SameFrame n) ∧
      (f.onNode key act).state.nodes.get? name = (f.nodes.get? name).map change := by
  by_cases hkey : key = name
  · refine ⟨fun n => (act { node := n }).state.node, fun n => hact { node := n }, ?_⟩
    rw [get?_onNode, if_pos hkey]
  · refine ⟨id, fun n => .refl n, ?_⟩
    rw [get?_onNode, if_neg hkey, Option.map_id_apply]

/-- **All that a command can do under a name**: put a node of that name there, remove the one that
is there, or change what is booked on it. -/
theorem under (c : Command) (name : String) (f : Fleet) :
    (∃ n, c = .register n ∧ n.name = name ∧ (c.outcome f).state.nodes.get? name = some n) ∨
    (c = .remove name ∧ (c.outcome f).state.nodes.get? name = none) ∨
    (c.Spares name ∧ ∃ change : Node → Node, (∀ n, (change n).SameFrame n) ∧
      (c.outcome f).state.nodes.get? name = (f.nodes.get? name).map change) := by
  have hsame : ∃ change : Node → Node, (∀ n, (change n).SameFrame n) ∧
      f.nodes.get? name = (f.nodes.get? name).map change :=
    ⟨id, fun n => .refl n, Option.map_id_apply.symm⟩
  cases c with
  | register n =>
      have hget : (outcome (register n) f).state.nodes.get? name =
          if n.name = name then some n else f.nodes.get? name :=
        SortedMap.get?_insert _ _ _ _
      by_cases hn : n.name = name
      · exact .inl ⟨n, rfl, hn, by rw [hget, if_pos hn]⟩
      · refine .inr (.inr ⟨⟨fun m hm => ?_, nofun⟩, by rwa [hget, if_neg hn]⟩)
        exact Command.register.inj hm ▸ hn
  | remove key =>
      have hget := get?_remove key f name
      by_cases hkey : key = name
      · exact .inr (.inl ⟨by rw [hkey], hget.trans (if_pos hkey)⟩)
      · refine .inr (.inr ⟨⟨nofun, fun h => hkey (Command.remove.inj h)⟩, ?_⟩)
        rwa [outcome, Outcome.state_map, hget, if_neg hkey]
  | snapshot key => exact .inr (.inr ⟨⟨nofun, nofun⟩, hsame⟩)
  | names => exact .inr (.inr ⟨⟨nofun, nofun⟩, hsame⟩)
  | allocate key clock w =>
      refine .inr (.inr ⟨⟨nofun, nofun⟩, under_onNode (fun l => ?_) key name f⟩)
      exact Operation.sameFrame_perform (.demand (.allocate f.policy clock w)) l
  | release key w =>
      refine .inr (.inr ⟨⟨nofun, nofun⟩, under_onNode (fun l => ?_) key name f⟩)
      exact Operation.sameFrame_perform (.release w) l
  | isAllocatable key w =>
      refine .inr (.inr ⟨⟨nofun, nofun⟩, under_onNode (fun l => ?_) key name f⟩)
      exact Operation.sameFrame_perform (.demand (.isFeasible f.policy w)) l
  | age time =>
      refine .inr (.inr ⟨⟨nofun, nofun⟩, Node.age time, fun n => ?_, SortedMap.get?_map _ _ _⟩)
      exact ⟨rfl, rfl, rfl, Node.map_id_age time n⟩

/-- A command that spares a name changes no more under it than what is booked. -/
theorem Spares.under {c : Command} {name : String} (h : c.Spares name) (f : Fleet) :
    ∃ change : Node → Node, (∀ n, (change n).SameFrame n) ∧
      (c.outcome f).state.nodes.get? name = (f.nodes.get? name).map change := by
  rcases c.under name f with ⟨n, hc, hname, -⟩ | ⟨hc, -⟩ | ⟨-, hchange⟩
  · exact absurd hname (h.1 n hc)
  · exact absurd hc h.2
  · exact hchange

end Command

/-! ### Fleets that agree on a name -/

/-- Fleets of one policy that have the same under a name. -/
structure AgreeOn (name : String) (f g : Fleet) : Prop where
  policy : f.policy = g.policy
  node : f.nodes.get? name = g.nodes.get? name

namespace AgreeOn

variable {name : String} {f g k : Fleet}

protected theorem refl (name : String) (f : Fleet) : AgreeOn name f f := ⟨rfl, rfl⟩

protected theorem trans (h : AgreeOn name f g) (h' : AgreeOn name g k) : AgreeOn name f k :=
  ⟨h.policy.trans h'.policy, h.node.trans h'.node⟩

/-- Fleets that agree on all names are the same. -/
theorem eq (h : ∀ name, AgreeOn name f g) : f = g := by
  obtain ⟨policy, nodes⟩ := f
  obtain rfl : policy = g.policy := (h "").policy
  obtain rfl : nodes = g.nodes := SortedMap.ext_get? fun name => (h name).node
  rfl

/-- What is done to the node of the name has the same result. -/
theorem onNode {α β : Type} (h : AgreeOn name f g) (act : Ledger → Outcome Ledger Error α)
    (answer : α → β) :
    AgreeOn name ((f.onNode name act).map answer).state ((g.onNode name act).map answer).state ∧
      ((f.onNode name act).map answer).result = ((g.onNode name act).map answer).result := by
  refine ⟨⟨?_, ?_⟩, ?_⟩
  · rw [Outcome.state_map, Outcome.state_map, policy_onNode, policy_onNode, h.policy]
  · rw [Outcome.state_map, Outcome.state_map, get?_onNode, get?_onNode, h.node]
  · rw [onNode_eq, onNode_eq, h.node]
    cases g.nodes.get? name <;> rfl

end AgreeOn

namespace Command

variable {name : String} {f g : Fleet}

/-- **A command that bears on the name**, given to two fleets that agree on it, is answered alike
by both, and they still agree. -/
theorem agreeOn_outcome {c : Command} (hc : c.bearsOn name) (h : AgreeOn name f g) :
    AgreeOn name (c.outcome f).state (c.outcome g).state ∧
      (c.outcome f).result = (c.outcome g).result := by
  have hpolicy : (c.outcome f).state.policy = (c.outcome g).state.policy := by
    rw [policy_outcome, policy_outcome, h.policy]
  cases c with
  | register n =>
      refine ⟨⟨hpolicy, ?_⟩, rfl⟩
      exact (SortedMap.get?_insert _ _ _ _).trans (h.node ▸ (SortedMap.get?_insert _ _ _ _).symm)
  | remove key =>
      obtain rfl : key = name := by simpa [bearsOn, subject?] using hc
      refine ⟨⟨hpolicy, ?_⟩, ?_⟩
      · exact (get?_remove key f key).trans (h.node ▸ (get?_remove key g key).symm)
      · simp only [outcome, remove_eq, h.node]
        cases g.nodes.get? key <;> rfl
  | snapshot key =>
      obtain rfl : key = name := by simpa [bearsOn, subject?] using hc
      exact ⟨h, by simp only [outcome, Fleet.snapshot, h.node]⟩
  | names => cases hc
  | allocate key clock w =>
      obtain rfl : key = name := by simpa [bearsOn, subject?] using hc
      rw [outcome, outcome, Fleet.allocate, Fleet.allocate, h.policy]
      exact h.onNode _ _
  | release key w =>
      obtain rfl : key = name := by simpa [bearsOn, subject?] using hc
      exact h.onNode _ _
  | isAllocatable key w =>
      obtain rfl : key = name := by simpa [bearsOn, subject?] using hc
      rw [outcome, outcome, Fleet.isAllocatable, Fleet.isAllocatable, h.policy]
      exact h.onNode _ _
  | age time =>
      refine ⟨⟨hpolicy, ?_⟩, rfl⟩
      exact (SortedMap.get?_map _ _ _).trans (h.node ▸ (SortedMap.get?_map _ _ _).symm)

/-- **A command that does not bear on the name** leaves everything under it as it is. -/
theorem agreeOn_of_not_bearsOn {c : Command} (hc : ¬ c.bearsOn name) (f : Fleet) :
    AgreeOn name (c.outcome f).state f := by
  refine ⟨policy_outcome c f, ?_⟩
  have hsubject : c.subject? ≠ some name := by
    intro h
    cases c <;> simp [bearsOn, h] at hc
  cases c with
  | register n =>
      have hne : n.name ≠ name := fun h => hsubject (congrArg some h)
      exact (SortedMap.get?_insert _ _ _ _).trans (if_neg hne)
  | remove key =>
      have hne : key ≠ name := fun h => hsubject (congrArg some h)
      exact (get?_remove key f name).trans (if_neg hne)
  | snapshot key => rfl
  | names => rfl
  | allocate key clock w | release key w | isAllocatable key w =>
      have hne : key ≠ name := fun h => hsubject (congrArg some h)
      exact (get?_onNode key _ f name).trans (if_neg hne)
  | age time => exact absurd rfl hc

end Command

/-! ### Whole runs -/

section Runs

variable {name : String} {f g : Fleet}

/-- The policy stays what it is. -/
theorem policy_run (cs : List Command) (f : Fleet) : (f.run cs).policy = f.policy := by
  induction cs generalizing f with
  | nil => rfl
  | cons c rest ih => rw [run_cons, ih, Command.policy_outcome]

/-- **The node of a name** after a run is the one after its commands alone. -/
theorem run_filter (h : AgreeOn name f g) (cs : List Command) :
    AgreeOn name (f.run cs) (g.run (cs.filter (·.bearsOn name))) := by
  induction cs generalizing f g with
  | nil => exact h
  | cons c rest ih =>
      by_cases hc : c.bearsOn name
      · rw [List.filter_cons_of_pos hc, run_cons, run_cons]
        exact ih (Command.agreeOn_outcome hc h).1
      · rw [List.filter_cons_of_neg hc, run_cons]
        exact ih ((Command.agreeOn_of_not_bearsOn hc f).trans h)

/-- **The steps of a name** in a run are the steps of its commands alone. -/
theorem steps_filter (h : AgreeOn name f g) (cs : List Command) :
    (f.steps name cs).filter (·.command.bearsOn name)
      = g.steps name (cs.filter (·.bearsOn name)) := by
  induction cs generalizing f g with
  | nil => rfl
  | cons c rest ih =>
      by_cases hc : c.bearsOn name
      · obtain ⟨hnext, hresult⟩ := Command.agreeOn_outcome hc h
        simp only [steps, List.filter_cons, hc, if_true, hresult, hnext.node, ih hnext]
      · have hnext := (Command.agreeOn_of_not_bearsOn hc f).trans h
        simp only [steps, List.filter_cons, hc, if_false, Bool.false_eq_true, ih hnext]

/-- A node is found under its own name, if it was at the start. -/
theorem name_of_get?_run {cs : List Command}
    (h : ∀ n, f.nodes.get? name = some n → n.name = name) {n : Node}
    (hn : (f.run cs).nodes.get? name = some n) : n.name = name := by
  induction cs generalizing f with
  | nil => exact h n hn
  | cons c rest ih =>
      refine ih (fun m hm => ?_) hn
      rcases c.under name f with ⟨m', -, hname, hget⟩ | ⟨-, hget⟩ | ⟨-, change, hchange, hget⟩
      · obtain rfl : m' = m := Option.some.inj (hget.symm.trans hm)
        exact hname
      · rw [hget] at hm
        cases hm
      · rw [hget] at hm
        obtain ⟨m', hm', rfl⟩ := Option.map_eq_some_iff.mp hm
        rw [(hchange m').name]
        exact h m' hm'

/-- A node that is neither replaced nor removed stays, and only what is booked on it changes. -/
theorem sameFrame_run {cs : List Command} (hcs : ∀ c ∈ cs, c.Spares name) {n : Node}
    (hn : f.nodes.get? name = some n) :
    ∃ m, (f.run cs).nodes.get? name = some m ∧ m.SameFrame n := by
  induction cs generalizing f n with
  | nil => exact ⟨n, hn, .refl n⟩
  | cons c rest ih =>
      obtain ⟨change, hchange, hget⟩ := (hcs c List.mem_cons_self).under f
      rw [hn, Option.map_some] at hget
      obtain ⟨m, hm, hframe⟩ := ih (fun c' hc' => hcs c' (List.mem_cons_of_mem _ hc')) hget
      exact ⟨m, hm, hframe.trans (hchange n)⟩

/-- A name under which a node was registered, and not removed since. -/
def Registered (name : String) (cs : List Command) : Prop :=
  ∃ before n after, cs = before ++ .register n :: after ∧ n.name = name ∧ .remove name ∉ after

/-- A name is registered in the end by the first command, if it is not removed later, or by the
others. -/
theorem registered_cons_iff {c : Command} {cs : List Command} :
    Registered name (c :: cs) ↔
      ((∃ n, c = .register n ∧ n.name = name) ∧ .remove name ∉ cs) ∨ Registered name cs := by
  constructor
  · rintro ⟨before, n, after, hcs, hname, hremove⟩
    rcases List.cons_eq_append_iff.mp hcs with ⟨-, hafter⟩ | ⟨before', -, hafter⟩
    · obtain ⟨rfl, rfl⟩ := List.cons.inj hafter
      exact .inl ⟨⟨n, rfl, hname⟩, hremove⟩
    · exact .inr ⟨before', n, after, hafter, hname, hremove⟩
  · rintro (⟨⟨n, rfl, hname⟩, hremove⟩ | ⟨before, n, after, rfl, hname, hremove⟩)
    · exact ⟨[], n, cs, rfl, hname, hremove⟩
    · exact ⟨c :: before, n, after, rfl, hname, hremove⟩

/-- **Which names are there** after a run: those registered in it and not removed since, and those
that were there before and have not been removed. -/
theorem isSome_run (cs : List Command) (f : Fleet) :
    ((f.run cs).nodes.get? name).isSome ↔
      Registered name cs ∨ ((f.nodes.get? name).isSome ∧ .remove name ∉ cs) := by
  induction cs generalizing f with
  | nil =>
      have hnone : ¬ Registered name [] := by
        rintro ⟨before, n, after, hcs, -, -⟩
        simp at hcs
      simp [run, hnone]
  | cons c rest ih =>
      rw [run_cons, ih, registered_cons_iff, List.mem_cons]
      -- The first command puts a node under the name, removes it, or does neither.
      rcases c.under name f with ⟨n, hc, hname, hget⟩ | ⟨hc, hget⟩ |
        ⟨⟨hregister, hremove⟩, change, -, hget⟩
      · have hfirst : ∃ n, c = .register n ∧ n.name = name := ⟨n, hc, hname⟩
        have hne : Command.remove name ≠ c := by rw [hc]; nofun
        rw [hget]
        simp only [Option.isSome_some, hfirst, hne]
        tauto
      · have hfirst : ¬ ∃ n, c = .register n ∧ n.name = name := by rw [hc]; nofun
        rw [hget]
        simp only [Option.isSome_none, hc]
        tauto
      · have hfirst : ¬ ∃ n, c = .register n ∧ n.name = name := by
          rintro ⟨n, hc, hname⟩
          exact hregister n hc hname
        rw [hget, Option.isSome_map]
        simp only [hfirst, hremove.symm]
        tauto

/-- What is placed on the node of a name has the name of that node on record. -/
theorem node_of_allocate {clock : Option Int} {w placed : Workload}
    (hnames : ∀ n, f.nodes.get? name = some n → n.name = name)
    (h : (Command.outcome (.allocate name clock w) f).result = .ok (.placed placed)) :
    placed.annotations.get? Annotations.node = some name := by
  rw [Command.outcome, allocate, onNode_eq] at h
  cases hn : f.nodes.get? name with
  | none =>
      rw [hn] at h
      cases h
  | some n =>
      simp only [hn, Outcome.map] at h
      rcases hout : Ledger.allocate f.policy clock w { node := n } with ⟨next, e | w'⟩
      · simp only [hout] at h
        cases h
      · simp only [hout] at h
        obtain rfl : w' = placed := Reply.placed.inj (Except.ok.inj h)
        obtain ⟨time, ps, -, rfl⟩ := Ledger.allocate_eq_ok hout
        rw [Workload.get?_annotate_node, hnames n hn]

end Runs

end Fleet

/-- **A run of a fleet is the product of runs of its nodes.** From the empty fleet, under every
name, the commands that name it or let time pass are answered, and leave behind a node or none,
as in the run of just those commands, and so does the whole run. A node is found under its own
name; what is placed under a name has that name on record; and the names that are listed are, in
increasing order, those registered and not removed since. So two runs in which every name sees
the same commands in the same order, whichever way those of different names follow each other
between two passings of time, lead to the same fleet by the same steps of every name. -/
theorem fleet_run_is_product (policy : Policy) (cs : List Fleet.Command) :
    let start : Fleet := { policy }
    (∀ name,
      (start.steps name cs).filter (·.command.bearsOn name)
        = start.steps name (cs.filter (·.bearsOn name)) ∧
      (start.run cs).nodes.get? name = (start.run (cs.filter (·.bearsOn name))).nodes.get? name ∧
      (∀ n, (start.run cs).nodes.get? name = some n → n.name = name) ∧
      ∀ clock w placed, (Fleet.Command.outcome (.allocate name clock w) (start.run cs)).result
          = .ok (.placed placed) → placed.annotations.get? Annotations.node = some name) ∧
    (∃ names, (Fleet.Command.outcome .names (start.run cs)).result = .ok (.names names) ∧
      names.Pairwise (· < ·) ∧ ∀ name, name ∈ names ↔ Fleet.Registered name cs) ∧
    ∀ cs', (∀ name, cs.filter (·.bearsOn name) = cs'.filter (·.bearsOn name)) →
      start.run cs = start.run cs' ∧
      ∀ name, (start.steps name cs).filter (·.command.bearsOn name)
        = (start.steps name cs').filter (·.command.bearsOn name) := by
  intro start
  have hself : ∀ name, Fleet.AgreeOn name start start := fun name => .refl name start
  have hempty : ∀ name n, start.nodes.get? name = some n → n.name = name := nofun
  refine ⟨fun name => ⟨?_, ?_, ?_, ?_⟩, ⟨_, rfl, ?_, fun name => ?_⟩, fun cs' hcs => ⟨?_, ?_⟩⟩
  · exact Fleet.steps_filter (hself name) cs
  · exact (Fleet.run_filter (hself name) cs).node
  · exact fun n hn => Fleet.name_of_get?_run (hempty name) hn
  · exact fun clock w placed h =>
      Fleet.node_of_allocate (fun n hn => Fleet.name_of_get?_run (hempty name) hn) h
  · exact SortedMap.keys_increasing _
  · -- Nothing was there at the start, so only what the run registers counts.
    have hnone : ¬ (start.nodes.get? name).isSome := nofun
    rw [Fleet.names, SortedMap.mem_keys_iff, Fleet.isSome_run]
    simp only [hnone, Bool.false_eq_true, false_and, or_false]
  · refine Fleet.AgreeOn.eq fun name => ⟨?_, ?_⟩
    · rw [Fleet.policy_run, Fleet.policy_run]
    · rw [(Fleet.run_filter (hself name) cs).node, (Fleet.run_filter (hself name) cs').node, hcs]
  · intro name
    rw [Fleet.steps_filter (hself name), Fleet.steps_filter (hself name), hcs]

/-- Two nodes, on each of which a workload is placed before time passes. Afterwards one node is
removed and the workload on the other one is given back. The two runs differ in what comes first
before and after the passing of time. -/
theorem fleet_run_is_product_interleaved :
    let start : Fleet := {}
    let node := fun name : String => (⟨name, 16, 1,
      [{ id := 0, totalCores := 100, totalMemory := 16 }]⟩ : Node)
    let w : Workload := { uid := ⟨1⟩, name := "job", containers := [.withGpu "part" 40 4] }
    let placed := w.annotate "left" 9 [⟨0, "part", .share, [0], 40, 4⟩]
    let cs : List Fleet.Command :=
      [.register (node "left"), .register (node "right"), .allocate "left" (some 9) w,
        .allocate "right" (some 9) w, .age 5, .release "left" placed, .remove "right"]
    let cs' : List Fleet.Command :=
      [.register (node "right"), .allocate "right" (some 9) w, .names, .register (node "left"),
        .allocate "left" (some 9) w, .age 5, .remove "right", .release "left" placed]
    start.run cs = start.run cs' ∧ Fleet.Registered "left" cs ∧ ¬ Fleet.Registered "right" cs ∧
      placed.annotations.get? Annotations.node = some "left" := by
  intro start node w placed cs cs'
  have hcs : ∀ name, cs.filter (·.bearsOn name) = cs'.filter (·.bearsOn name) := by
    intro name
    by_cases hleft : "left" = name
    · subst hleft
      rfl
    · by_cases hright : "right" = name
      · subst hright
        rfl
      · simp [cs, cs', node, Fleet.Command.bearsOn, Fleet.Command.subject?, hleft, hright]
  obtain ⟨-, ⟨names, hnames, -, hregistered⟩, hsame⟩ := fleet_run_is_product {} cs
  obtain ⟨hplace, -⟩ := fleet_run_is_product {} [.register (node "left")]
  have hlisted : names = ["left"] := by
    have hrun : (Fleet.Command.outcome .names (start.run cs)).result = .ok (.names ["left"]) := by
      decide +kernel
    exact (Fleet.Reply.names.inj (Except.ok.inj (hrun.symm.trans hnames))).symm
  subst hlisted
  refine ⟨(hsame cs' hcs).1, ?_, ?_, ?_⟩
  · exact (hregistered "left").mp List.mem_cons_self
  · exact fun h => absurd ((hregistered "right").mpr h) (by decide)
  · exact (hplace "left").2.2.2 (some 9) w placed (by decide +kernel)

end GpuLedger
