import GpuLedger.Proofs.Records
import GpuLedger.Proofs.Session

/-!
# Answers, and the Time of Placing

A session is more than the ledgers it goes through: each of its operations is answered
(`Operation.outcome`), and what a session looks like from outside are its answers in order, each
with the ledger that stands then (`Ledger.steps`).

One thing in the answers comes from neither the ledger nor what was asked: the time at which a
workload was placed, which is the reading of a clock and is recorded with the workload. It is
left out of workloads, answers and operations by `untimed`, which keeps of a clock only whether it
can be read. No operation depends on a recorded time, so operations that are equal up to times
have answers that are equal up to times, and leave the same ledger behind
(`Operation.outcome_untimed`).

## Main results

* `Ledger.placeAll_untimed`, `Ledger.release_untimed` — neither placing nor releasing a workload
  depends on the time that is recorded with it;
* `Workload.untimed_annotate` — a record of placements without its time;
* `Operation.outcome_untimed` — outcomes up to times.
-/

namespace GpuLedger

/-! ### Answers -/

/-- What an operation that succeeds is answered. -/
inductive Answer where
  /-- The workload that was placed, with the record of its placements. -/
  | placed (w : Workload)
  | placement (p : Placement)
  | placements (ps : List Placement)
  | fits (yes : Bool)
  | done
deriving DecidableEq

/-- What a demand leaves behind, and how it is answered. -/
def Demand.outcome : Demand → Ledger → Outcome Ledger Error Answer
  | allocate policy clock w, l => (l.allocate policy clock w).map .placed
  | placeOne policy w index c, l => (l.placeOne policy w index c).map .placement
  | isAllocatable policy w, l =>
    ⟨(l.isAllocatable policy w).1, .ok (.fits (l.isAllocatable policy w).2)⟩
  | isFeasible policy w, l => ⟨(l.isFeasible policy w).1, .ok (.fits (l.isFeasible policy w).2)⟩
  | dryRun policy w, l => ⟨l, (l.dryRun policy w).map .placements⟩

/-- What an operation leaves behind, and how it is answered. -/
def Operation.outcome : Operation → Ledger → Outcome Ledger Error Answer
  | demand d, l => d.outcome l
  | release w, l => (l.release w).map fun _ => .done
  | age time, l => ⟨l.age time, .ok .done⟩

/-- The ledger of an outcome is the one that is left behind. -/
theorem Operation.state_outcome (op : Operation) (l : Ledger) :
    (op.outcome l).state = op.perform l := by
  cases op with
  | demand d => cases d <;> rfl
  | release w => rfl
  | age time => rfl

/-- The outcomes of several operations, one after the other. -/
def Ledger.steps : List Operation → Ledger → List (Outcome Ledger Error Answer)
  | [], _ => []
  | op :: rest, l => op.outcome l :: steps rest (op.perform l)

/-! ### Times left out -/

namespace Workload

/-- A workload without the time at which it was placed. -/
def untimed (w : Workload) : Workload :=
  { w with annotations := w.annotations.erase Annotations.time }

/-- Leaving the time out twice is leaving it out once. -/
@[simp] theorem untimed_untimed (w : Workload) : w.untimed.untimed = w.untimed := by
  simp only [untimed, SortedMap.erase_erase]

/-- The annotations under other names are as they were. -/
theorem get?_untimed {key : String} (h : key ≠ Annotations.time) (w : Workload) :
    w.untimed.annotations.get? key = w.annotations.get? key := by
  rw [untimed, SortedMap.get?_erase, if_neg h.symm]

/-- Estimates are read as before. -/
theorem request_untimed (w : Workload) (index : Nat) (c : Container) :
    w.untimed.request index c = w.request index c := by
  have hestimate : w.untimed.estimatedTime index = w.estimatedTime index := by
    rw [estimatedTime, get?_untimed (Annotations.estimatedTime_ne_time index)]
    rfl
  rw [request, hestimate, request]

/-- Device lists are read as before. -/
theorem devicesOf_untimed (w : Workload) (index : Nat) (c : Container) :
    w.untimed.devicesOf index c = w.devicesOf index c := by
  rw [devicesOf, assignedDevices?, get?_untimed (Annotations.deviceList_ne_time index)]
  rfl

/-- Another annotation may be set before or after the time is left out. -/
theorem untimed_annotateWith {key : String} (h : key ≠ Annotations.time) (value : String)
    (w : Workload) : (w.annotateWith key value).untimed = w.untimed.annotateWith key value := by
  simp only [untimed, annotateWith, SortedMap.erase_insert_of_ne h]

/-- A time that is set is left out again. -/
theorem untimed_annotateWith_time (value : String) (w : Workload) :
    (w.annotateWith Annotations.time value).untimed = w.untimed := by
  simp only [untimed, annotateWith, SortedMap.erase_insert_self]

/-- Device lists may be recorded before or after the time is left out. -/
theorem untimed_recordAll (placements : List Placement) (w : Workload) :
    (w.recordAll placements).untimed = w.untimed.recordAll placements := by
  induction placements generalizing w with
  | nil => rfl
  | cons p rest ih =>
      have hfirst := untimed_annotateWith (Annotations.deviceList_ne_time p.index) p.deviceList w
      refine (ih (w.annotateWith (Annotations.deviceList p.index) p.deviceList)).trans ?_
      rw [hfirst]
      rfl

/-- **A record without its time** is made of the workload without its time, the node and the
placements. -/
theorem untimed_annotate (w : Workload) (node : String) (time : Int)
    (placements : List Placement) :
    (w.annotate node time placements).untimed =
      ((w.untimed.recordAll placements).annotateWith Annotations.node node).annotateWith
        Annotations.assigned "false" := by
  have hnode : Annotations.node ≠ Annotations.time := by decide
  have hassigned : Annotations.assigned ≠ Annotations.time := by decide
  rw [annotate_eq, untimed_annotateWith_time, untimed_annotateWith hassigned,
    untimed_annotateWith hnode, untimed_recordAll]

end Workload

/-- An answer without times. -/
def Answer.untimed : Answer → Answer
  | placed w => placed w.untimed
  | placement p => placement p
  | placements ps => placements ps
  | fits yes => fits yes
  | done => done

/-- A demand without times: of its clock it is only kept whether it can be read. -/
def Demand.untimed : Demand → Demand
  | allocate policy clock w => allocate policy (clock.map fun _ => 0) w.untimed
  | placeOne policy w index c => placeOne policy w.untimed index c
  | isAllocatable policy w => isAllocatable policy w.untimed
  | isFeasible policy w => isFeasible policy w.untimed
  | dryRun policy w => dryRun policy w.untimed

/-- An operation without times of placing. -/
def Operation.untimed : Operation → Operation
  | demand d => demand d.untimed
  | release w => release w.untimed
  | age time => age time

/-! ### Nothing depends on a recorded time -/

namespace Ledger

variable (policy : Policy) (w : Workload)

/-- A container is placed as if no time had been recorded. -/
theorem placeOne_untimed (index : Nat) (c : Container) (l : Ledger) :
    placeOne policy w.untimed index c l = placeOne policy w index c l := by
  rw [placeOne, placeOne, Workload.request_untimed]

/-- Where containers are placed depends on a workload by its requests only. -/
theorem placeFrom_congr {v : Workload} (h : ∀ index c, v.request index c = w.request index c)
    (index : Nat) (cs : List Container) (l : Ledger) :
    placeFrom policy v index cs l = placeFrom policy w index cs l := by
  induction cs generalizing index l with
  | nil => rfl
  | cons c rest ih => simp only [placeFrom, placeOne, h, ih]

/-- **Placing** does not depend on a recorded time. -/
theorem placeAll_untimed (l : Ledger) : placeAll policy w.untimed l = placeAll policy w l :=
  placeFrom_congr policy w w.request_untimed 0 w.containers l

/-- What is due does not depend on the time that is recorded. -/
theorem duesFrom_untimed (quota : Quantity) (index : Nat) (cs : List Container) :
    w.untimed.duesFrom quota index cs = w.duesFrom quota index cs := by
  induction cs generalizing index with
  | nil => rfl
  | cons c rest ih =>
      simp only [Workload.duesFrom, Workload.devicesOf_untimed, Workload.request_untimed, ih]

/-- **Releasing** does not depend on a recorded time. -/
theorem release_untimed (l : Ledger) : release w.untimed l = release w l := by
  have hdues : w.untimed.dues l.node.quota = w.dues l.node.quota :=
    duesFrom_untimed w l.node.quota 0 w.containers
  rw [release_eq, release_eq, hdues]

/-- What an allocation hands back depends on times only in the one that it records. -/
theorem allocate_untimed (clock : Option Int) (l : Ledger) :
    (allocate policy (clock.map fun _ => 0) w.untimed l).map Workload.untimed =
      (allocate policy clock w l).map Workload.untimed := by
  rw [allocate, allocate, placeAll_untimed]
  rcases placeAll policy w l with ⟨next, e | placements⟩
  · rfl
  · cases clock with
    | none => rfl
    | some time =>
        simp only [Option.map_some, Outcome.map, Except.map, Workload.untimed_annotate,
          Workload.untimed_untimed]

end Ledger

/-- **Outcomes up to times** depend on operations up to times. -/
theorem Operation.outcome_untimed (op : Operation) (l : Ledger) :
    (op.untimed.outcome l).map Answer.untimed = (op.outcome l).map Answer.untimed := by
  cases op with
  | demand d =>
      cases d with
      | allocate policy clock w =>
          have hplaced : ∀ o : Outcome Ledger Error Workload,
              (o.map Answer.placed).map Answer.untimed
                = (o.map Workload.untimed).map Answer.placed := by
            rintro ⟨next, e | placed⟩ <;> rfl
          simp only [untimed, Demand.untimed, outcome, Demand.outcome, hplaced,
            Ledger.allocate_untimed]
      | placeOne policy w index c =>
          simp only [untimed, Demand.untimed, outcome, Demand.outcome, Ledger.placeOne_untimed]
      | isAllocatable policy w =>
          simp only [untimed, Demand.untimed, outcome, Demand.outcome, Ledger.isAllocatable,
            Ledger.placeAll_untimed]
      | isFeasible policy w =>
          simp only [untimed, Demand.untimed, outcome, Demand.outcome, Ledger.isFeasible,
            Ledger.isAllocatable, Ledger.dryRun, Ledger.placeAll_untimed]
      | dryRun policy w =>
          simp only [untimed, Demand.untimed, outcome, Demand.outcome, Ledger.dryRun,
            Ledger.placeAll_untimed]
  | release w => simp only [untimed, outcome, Ledger.release_untimed]
  | age time => rfl

end GpuLedger
