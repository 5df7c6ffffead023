import GpuLedger.Proofs.Predictions
import GpuLedger.Proofs.Transactions

/-!
# Questions that are Answered with No

A question whether a workload fits does not fail by the answer no. Where it is answered by placing
the workload, what has been placed before the container that does not fit stays booked, and a
command that writes the node back writes these bookings as well. The file then holds bookings of
a workload that was not placed, unlike after a command that places the workload and fails.

This module says of every question that is answered with no which node the file holds afterwards
(`refused_question_leaves_bookings`), and when it is the same node as before: if the node is not
written back, if the question is answered on a copy, or if it is the first of the containers asking
for cores that does not fit. In any other case something has been booked
(`Ledger.bookedFrom_eq_nil_iff`), and a node with more bookings is another node
(`Node.postAll_eq_self_iff`).

## Main results

* `Node.postAll_eq_self_iff` — booking changes the node;
* `Ledger.bookedFrom_eq_nil_iff` — when a workload books nothing;
* `refused_question_leaves_bookings` — what the answer no leaves behind;
* `refused_question_books` — a workload whose second container does not fit.
-/

namespace GpuLedger

/-! ### Booking something -/

/-- Entries for which there are devices change a node, unless there are none. -/
theorem Node.postAll_eq_self_iff {es : List Entry} {n : Node}
    (h : ∀ e ∈ es, (n.device? e.device).isSome) : n.postAll es = n ↔ es = [] := by
  refine ⟨fun hsame => ?_, fun hnil => by rw [hnil]; rfl⟩
  cases es with
  | nil => rfl
  | cons e rest =>
      have hheld := Node.held_postAll h e.device
      rw [hsame, Entry.on_cons, Entry.on_singleton_self] at hheld
      have hzero : {e.amount} + Entry.on e.device rest = 0 := left_eq_add.mp hheld
      exact absurd (add_eq_zero.mp hzero).1 (Multiset.singleton_ne_zero _)

namespace Ledger

variable {policy : Policy} {w : Workload} {n : Node}

/-- Without a limit a container books nothing exactly if it is refused. -/
theorem bookedOne_eq_nil_iff {index : Nat} {c : Container} :
    bookedOne policy w index c ⟨n, none⟩ = []
      ↔ (placeOne policy w index c ⟨n, none⟩).succeeded = false := by
  constructor
  · intro hnil
    rcases hplace : placeOne policy w index c ⟨n, none⟩ with ⟨next, e | p⟩
    · rfl
    · obtain ⟨r, -, -, hne, hbooked⟩ := placeOne_eq_ok hplace
      rw [hnil] at hbooked
      exact absurd (List.map_eq_nil_iff.mp hbooked.symm) hne
  · intro hrefused
    rw [bookedOne]
    cases hr : w.request index c with
    | error e => rfl
    | ok r =>
        rw [placeOne_unlimited hr rfl] at hrefused
        split at hrefused
        · next hnone =>
          simp only [hnone]
          rfl
        · cases hrefused

/-- **Nothing is booked**, without a limit, exactly if the first container that asks for cores is
refused. -/
theorem bookedFrom_eq_nil_iff {index : Nat} {cs : List Container} :
    bookedFrom policy w index cs ⟨n, none⟩ = [] ↔ ∀ x ∈ (Container.asking index cs).head?,
      (placeOne policy w x.2 x.1 ⟨n, none⟩).succeeded = false := by
  induction cs generalizing index with
  | nil => exact ⟨fun _ _ hx => absurd hx (Option.not_mem_none _), fun _ => rfl⟩
  | cons c rest ih =>
      rw [bookedFrom]
      by_cases hgpu : c.RequestsGpu
      · rw [if_pos hgpu, Container.asking_cons_of_pos hgpu, List.head?_cons]
        simp only [Option.mem_some_iff, forall_eq']
        rw [← bookedOne_eq_nil_iff]
        refine ⟨fun hnil => (List.append_eq_nil_iff.mp hnil).1, fun hnil => ?_⟩
        have hrefused := bookedOne_eq_nil_iff.mp hnil
        rcases hplace : placeOne policy w index c ⟨n, none⟩ with ⟨next, e | p⟩
        · rw [hnil, List.append_nil]
        · rw [hplace] at hrefused
          cases hrefused
      · rw [if_neg hgpu, Container.asking_cons_of_neg hgpu]
        exact ih

/-- The node that a question leaves behind, without a limit. -/
theorem node_isFeasible (policy : Policy) (w : Workload) (n : Node) :
    (isFeasible policy w ⟨n, none⟩).1.node =
      if policy.feasibility = .commit then n.postAll (booked policy w ⟨n, none⟩) else n := by
  rw [isFeasible]
  cases policy.feasibility with
  | commit => exact (posts_booked policy w ⟨n, none⟩).node_eq
  | dryRun => rfl

end Ledger

namespace Admission

/-! ### Questions on the command line -/

namespace Call

variable {c : Call} {d : Directory} {file node workload : String} {inv : Invocation}
  {config : Config} {w : Workload} {n : Node} {writeNode : Bool}

/-- A question that is answered at all has found what it needs. -/
theorem finds_of_output (hparsed : Invocation.parse? c.args = some inv)
    (hcommand : inv.command = .predicate node workload writeNode)
    (hnode : d.resolve node = .ok file) (houtput : c.output d ≠ "") :
    ∃ config w, c.Finds d file inv config w := by
  rw [output, report?_eq hparsed, Option.elim_some, Invocation.run] at houtput
  cases hconfig : loadConfig (c.surroundings d) inv.config with
  | error f =>
      rw [hconfig] at houtput
      exact absurd rfl houtput
  | ok config =>
      rw [hconfig, hcommand] at houtput
      simp only [Command.run, Admission.predicate, loadBoth] at houtput
      cases hn : load (c.surroundings d) Node.parse node with
      | error f =>
          rw [hn] at houtput
          exact absurd rfl houtput
      | ok n =>
          cases hw : load (c.surroundings d) (Workload.parse c.fresh) workload with
          | error f =>
              have hw : load (c.surroundings d) (Workload.parse (c.surroundings d).fresh) workload
                  = .error f := hw
              rw [hn, hw] at houtput
              exact absurd rfl houtput
          | ok w =>
              refine ⟨config, w, hparsed, hconfig, node, workload, ?_, hnode, hw⟩
              rw [hcommand]
              rfl

/-- **What a question leaves behind**, and what it prints. -/
theorem Finds.predicate (h : c.Finds d file inv config w)
    (hcommand : inv.command = .predicate node workload writeNode) (hholds : d.Holds file n) :
    let asked := Ledger.isFeasible config.policy w { node := n }
    c.output d = (if asked.2 then "true" else "false") ++ "\n" ∧
      (c.perform d).Holds file (if writeNode then asked.1.node else n) := by
  intro asked
  cases writeNode with
  | true =>
      have hasks : c.Asks d file (.demand (.isFeasible config.policy w)) :=
        ⟨inv, config, w, h, by rw [hcommand]; rfl⟩
      have hcarried := hasks.carriesOut hholds
      exact ⟨hcarried.output, hcarried.holds⟩
  | false =>
      obtain ⟨node', workload', hpaths, hnode, hworkload⟩ := h.paths
      rw [hcommand] at hpaths
      obtain ⟨rfl, rfl⟩ : node = node' ∧ workload = workload' := by
        simpa [Command.paths] using hpaths
      have hreport := h.report?_eq
      rw [hcommand] at hreport
      simp only [Command.run, Admission.predicate, loadBoth_eq hholds hnode hworkload] at hreport
      rw [output, perform, hreport]
      exact ⟨rfl, hholds⟩

end Call

/-- **A question that is answered with no** can leave bookings behind. The file of the node holds
the same node afterwards if the node is not written back or the question is answered on a copy.
Otherwise it holds the node with everything booked on it that was booked for containers in front of
the one that does not fit, and this is the same node only if that one is the first that asks for
cores. -/
theorem refused_question_leaves_bookings {c : Call} {d : Directory}
    {file node workload : String} {inv : Invocation} {writeNode : Bool} {n : Node}
    (hparsed : Invocation.parse? c.args = some inv)
    (hcommand : inv.command = .predicate node workload writeNode)
    (hnode : d.resolve node = .ok file) (hholds : d.Holds file n)
    (hno : c.output d = "false\n") :
    ∃ config w, c.Finds d file inv config w ∧
      let policy := config.policy
      let es := Ledger.booked policy w { node := n }
      let m := if writeNode = true ∧ policy.feasibility = .commit then n.postAll es else n
      (Ledger.placeAll policy w { node := n }).succeeded = false ∧
        (c.perform d).Holds file m ∧
        (m = n ↔ writeNode = false ∨ policy.feasibility = .dryRun ∨
          ∀ x ∈ w.asking.head?,
            (Ledger.placeOne policy w x.2 x.1 { node := n }).succeeded = false) := by
  obtain ⟨config, w, hfinds⟩ :=
    Call.finds_of_output hparsed hcommand hnode (by rw [hno]; decide)
  obtain ⟨houtput, hafter⟩ := hfinds.predicate hcommand hholds
  refine ⟨config, w, hfinds, ?_⟩
  intro policy es m
  have hrefused : (Ledger.placeAll policy w { node := n }).succeeded = false := by
    rw [hno, Ledger.snd_isFeasible] at houtput
    cases hanswer : (Ledger.placeAll policy w { node := n }).succeeded with
    | false => rfl
    | true =>
        rw [hanswer] at houtput
        exact absurd houtput (by decide)
  have hdevices : ∀ e ∈ es, (n.device? e.device).isSome :=
    (Ledger.posts_booked policy w { node := n }).isSome_device?
  have hchanged : n.postAll es = n ↔ ∀ x ∈ w.asking.head?,
      (Ledger.placeOne policy w x.2 x.1 { node := n }).succeeded = false :=
    (Node.postAll_eq_self_iff hdevices).trans Ledger.bookedFrom_eq_nil_iff
  rw [Ledger.node_isFeasible] at hafter
  refine ⟨hrefused, ?_⟩
  cases writeNode with
  | false => exact ⟨hafter, by simp [m]⟩
  | true =>
      cases hmode : policy.feasibility with
      | dryRun =>
          have hm : m = n := if_neg fun h => by simp [hmode] at h
          rw [if_pos rfl, if_neg (by simp [policy, hmode])] at hafter
          rw [hm]
          exact ⟨hafter, by simp⟩
      | commit =>
          have hm : m = n.postAll es := if_pos ⟨rfl, hmode⟩
          rw [if_pos rfl, if_pos hmode] at hafter
          rw [hm]
          exact ⟨hafter, by simpa using hchanged⟩

/-- A workload whose second container does not fit. The question is answered with no, with the node
written back and without: only without are there no bookings of the workload left. -/
theorem refused_question_leaves_bookings_midway :
    let n : Node := ⟨"node", 100, 1, [{ id := 0, totalCores := 100, totalMemory := 100 }]⟩
    let w : Workload :=
      { uid := ⟨1⟩, name := "job", containers := [.withGpu "part" 10 10, .withGpu "whole" 100 0] }
    let d : Directory :=
      { files := .ofList [("node.json", .text n.snapshotText),
          ("job.json", .text w.descriptorText)] }
    let ask := ["predicate", "--node", "node.json", "--workload", "job.json"]
    let c := Call.mk ask ⟨2⟩ (some 9)
    let c' := Call.mk (ask ++ ["--write-node"]) ⟨2⟩ (some 9)
    c.output d = "false\n" ∧ (c.perform d).Holds "node.json" n ∧
      c'.output d = "false\n" ∧ ¬ (c'.perform d).Holds "node.json" n := by
  intro n w d ask c c'
  have hn : d.Holds "node.json" n :=
    Directory.holds_of_snapshot (by simp [d, SortedMap.ofList, SortedMap.get?_insert])
  have hnode : d.resolve "node.json" = .ok "node.json" := by decide +kernel
  have hjob : d.resolve "job.json" = .ok "job.json" := by decide +kernel
  have htext : d.files.get? "job.json" = some (.text w.descriptorText) := by
    simp [d, SortedMap.ofList, SortedMap.get?_insert]
  have hfinds : c.Finds d "node.json" { command := .predicate "node.json" "job.json" false } {} w :=
    Call.finds_of_descriptor _ "job.json" (by decide +kernel) rfl hnode hjob htext
  have hfinds' :
      c'.Finds d "node.json" { command := .predicate "node.json" "job.json" true } {} w :=
    Call.finds_of_descriptor _ "job.json" (by decide +kernel) rfl hnode hjob htext
  have hrefused : (Ledger.isFeasible {} w { node := n }).2 = false := by decide +kernel
  have hno : c.output d = "false\n" := by
    rw [(hfinds.predicate rfl hn).1, hrefused]
    rfl
  have hno' : c'.output d = "false\n" := by
    rw [(hfinds'.predicate rfl hn).1, hrefused]
    rfl
  obtain ⟨config, v, hfound, -, hholds, -⟩ :=
    refused_question_leaves_bookings hfinds.parsed rfl hnode hn hno
  obtain ⟨config', v', hfound', -, hholds', hiff⟩ :=
    refused_question_leaves_bookings hfinds'.parsed rfl hnode hn hno'
  obtain ⟨rfl, rfl⟩ := hfinds'.unique hfound'
  refine ⟨hno, by simpa using hholds, hno', fun hsame => ?_⟩
  have hnone := hiff.mp (hholds'.unique hsame)
  revert hnone
  decide +kernel

/-- **A question that books.** The only device of a node is idle, and the second of two containers
asks for all of it. Whether they fit is answered with no, and the file of the node then holds the
node with the first container booked, so not the one that it held. A command that places the same
workload fails and leaves everything as it was. -/
theorem refused_question_books :
    let n : Node := ⟨"node", 100, 1, [{ id := 0, totalCores := 100, totalMemory := 100 }]⟩
    let w : Workload :=
      { uid := ⟨1⟩, name := "job", containers := [.withGpu "part" 10 10, .withGpu "whole" 100 0] }
    let d : Directory :=
      { files := .ofList [("node.json", .text n.snapshotText),
          ("job.json", .text w.descriptorText)] }
    let command := fun name =>
      Call.mk [name, "--node", "node.json", "--workload", "job.json", "--write-node"] ⟨2⟩ (some 9)
    let c := command "predicate"
    d.Holds "node.json" n ∧ c.output d = "false\n" ∧
      (c.perform d).Holds "node.json" (n.post ⟨0, ⟨10, 10, 0⟩⟩) ∧
      ¬ (c.perform d).Holds "node.json" n ∧
      (command "allocate").exitCode d = 1 ∧ (command "allocate").perform d = d := by
  intro n w d command c
  have hn : d.Holds "node.json" n :=
    Directory.holds_of_snapshot (by simp [d, SortedMap.ofList, SortedMap.get?_insert])
  have hnode : d.resolve "node.json" = .ok "node.json" := by decide +kernel
  have hjob : d.resolve "job.json" = .ok "job.json" := by decide +kernel
  have htext : d.files.get? "job.json" = some (.text w.descriptorText) := by
    simp [d, SortedMap.ofList, SortedMap.get?_insert]
  have hfinds : c.Finds d "node.json" { command := .predicate "node.json" "job.json" true } {} w :=
    Call.finds_of_descriptor _ "job.json" (by decide +kernel) rfl hnode hjob htext
  obtain ⟨houtput, hafter⟩ := hfinds.predicate rfl hn
  have hrefused : (Ledger.isFeasible {} w { node := n }).2 = false := by decide +kernel
  have hbooked : (Ledger.isFeasible {} w { node := n }).1.node = n.post ⟨0, ⟨10, 10, 0⟩⟩ := by
    decide +kernel
  have hchanged : n.post ⟨0, ⟨10, 10, 0⟩⟩ ≠ n := by decide +kernel
  rw [if_pos rfl, hbooked] at hafter
  have hallocate : (command "allocate").Asks d "node.json" (.demand (.allocate {} (some 9) w)) :=
    (Call.asks_of_descriptor (.allocate "node.json" "job.json" true) "job.json"
      (by decide +kernel) rfl hnode hjob htext (by decide) rfl).1
  have hexit : (command "allocate").exitCode d = 1 :=
    (hallocate.carriesOut hn).exitCode.trans (if_neg (by decide +kernel))
  refine ⟨hn, ?_, hafter, fun hsame => hchanged (hafter.unique hsame), hexit,
    Call.perform_of_failed (by rw [hexit]; decide)⟩
  rw [houtput, hrefused]
  rfl

end Admission

end GpuLedger
