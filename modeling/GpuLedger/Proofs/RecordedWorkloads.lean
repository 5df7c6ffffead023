import GpuLedger.Proofs.Answers
import GpuLedger.Proofs.Predictions

/-!
# Recorded Workloads

An allocation hands back the workload it was given with a record of where it has been placed, and
this record is all that it adds. Under the names it writes to stands what it has written, whatever
stood there before, and every other annotation is as it was: those of the caller, the estimates, and
also device lists that an earlier allocation has left for containers which are not placed this time.
What is recorded (`Workload.Records`) determines the workload that is handed back.

Nothing that is recorded is read by another allocation. The estimates stand under names of their
own, so a recorded workload makes the same requests, and where it is placed again its old record is
overwritten name by name. Placing it is therefore the same as placing the workload it was made from
(`allocation_changes_own_annotations`).
-/

namespace GpuLedger

namespace Workload

/-! ### What is recorded -/

/-- A workload that carries the record of placements on a node at a time, and is another one
apart from that. -/
structure Records (v w : Workload) (node : String) (time : Int) (ps : List Placement) : Prop where
  uid : v.uid = w.uid
  name : v.name = w.name
  nameSpace : v.nameSpace = w.nameSpace
  containers : v.containers = w.containers
  /-- The devices of each placement stand under the index of its container, as the numerals of their
  numbers with commas between them. -/
  deviceList : ∀ p ∈ ps, v.annotations.get? (Annotations.deviceList p.index)
    = some (",".intercalate (p.devices.map fun id => toString id.toNat))
  node : v.annotations.get? Annotations.node = some node
  assigned : v.annotations.get? Annotations.assigned = some "false"
  /-- The time stands as the decimal numeral of its nanoseconds, with a minus sign in front of it if
  they are below zero. -/
  time : v.annotations.get? Annotations.time = some (toString time)
  /-- Under all other names stands what stood there, or nothing. -/
  others : ∀ key, key ∉ [Annotations.node, Annotations.assigned, Annotations.time] →
    (∀ p ∈ ps, Annotations.deviceList p.index ≠ key) →
      v.annotations.get? key = w.annotations.get? key

variable {u v w : Workload} {node node' : String} {time time' : Int} {ps qs : List Placement}

/-- **A workload is recorded** as it is annotated. -/
theorem records_annotate (hdistinct : ps.Pairwise fun p q => p.index ≠ q.index) (w : Workload)
    (node : String) (time : Int) : (w.annotate node time ps).Records w node time ps where
  uid := by rw [annotate_eq_with]
  name := by rw [annotate_eq_with]
  nameSpace := by rw [annotate_eq_with]
  containers := by rw [annotate_eq_with]
  deviceList := fun p hp => by
    rw [get?_annotate_deviceList hdistinct hp w node time, p.deviceList_eq]
  node := get?_annotate_node w node time ps
  assigned := by
    have htime : Annotations.time ≠ Annotations.assigned := by decide
    rw [annotate_eq]
    simp only [annotateWith, SortedMap.get?_insert, if_neg htime, if_true]
  time := by
    rw [annotate_eq, writeTime_eq]
    simp only [annotateWith, SortedMap.get?_insert, if_true]
  others := fun key hkey hlists => by
    simp only [List.mem_cons, List.not_mem_nil, or_false, not_or] at hkey
    obtain ⟨hnode, hassigned, htime⟩ := hkey
    rw [get?_annotate (Ne.symm hnode) (Ne.symm hassigned) (Ne.symm htime)]
    exact get?_recordAll_of_ne hlists w

/-- **A record determines the workload** that carries it. -/
theorem Records.unique (hu : u.Records w node time ps) (hv : v.Records w node time ps) :
    u = v := by
  have hannotations : u.annotations = v.annotations := SortedMap.ext_get? fun key => by
    by_cases hkey : key ∈ [Annotations.node, Annotations.assigned, Annotations.time]
    · simp only [List.mem_cons, List.not_mem_nil, or_false] at hkey
      rcases hkey with rfl | rfl | rfl
      · rw [hu.node, hv.node]
      · rw [hu.assigned, hv.assigned]
      · rw [hu.time, hv.time]
    · by_cases hlists : ∃ p ∈ ps, Annotations.deviceList p.index = key
      · obtain ⟨p, hp, rfl⟩ := hlists
        rw [hu.deviceList p hp, hv.deviceList p hp]
      · have hnone : ∀ p ∈ ps, Annotations.deviceList p.index ≠ key :=
          fun p hp heq => hlists ⟨p, hp, heq⟩
        rw [hu.others key hkey hnone, hv.others key hkey hnone]
  cases u
  cases v
  simp only [mk.injEq]
  exact ⟨hu.uid.trans hv.uid.symm, hu.name.trans hv.name.symm,
    hu.nameSpace.trans hv.nameSpace.symm, hannotations, hu.containers.trans hv.containers.symm⟩

/-- **A later record overwrites** an earlier one of the same containers. -/
theorem Records.trans (hv : v.Records w node time ps) (hu : u.Records v node' time' qs)
    (hsame : ps.map Placement.index = qs.map Placement.index) : u.Records w node' time' qs where
  uid := hu.uid.trans hv.uid
  name := hu.name.trans hv.name
  nameSpace := hu.nameSpace.trans hv.nameSpace
  containers := hu.containers.trans hv.containers
  deviceList := hu.deviceList
  node := hu.node
  assigned := hu.assigned
  time := hu.time
  others := fun key hkey hlists => by
    rw [hu.others key hkey hlists]
    refine hv.others key hkey fun p hp => ?_
    have hindex : p.index ∈ qs.map Placement.index := hsame ▸ List.mem_map_of_mem hp
    obtain ⟨q, hq, heq⟩ := List.mem_map.mp hindex
    rw [← heq]
    exact hlists q hq

end Workload

/-! ### Placing what has been placed -/

namespace Ledger

variable {policy : Policy} {w : Workload} {l next : Ledger} {ps : List Placement}

/-- What is recorded of a workload that was placed. -/
theorem records_of_placeAll (h : placeAll policy w l = ⟨next, .ok ps⟩) (v : Workload)
    (node : String) (time : Int) : (v.annotate node time ps).Records v node time ps :=
  Workload.records_annotate ((placeFrom_indices h).1.imp Nat.ne_of_lt) v node time

/-- A workload is placed at a time that can be told, if it is. -/
theorem exists_time_of_allocate {clock : Option Int} {w' : Workload}
    (h : allocate policy clock w l = ⟨next, .ok w'⟩) :
    ∃ time ps, clock = some time ∧ placeAll policy w l = ⟨next, .ok ps⟩ ∧
      w' = w.annotate l.node.name time ps := by
  obtain ⟨time, ps, hplace, -⟩ := allocate_eq_ok h
  rw [allocate, hplace] at h
  cases clock with
  | none => cases h
  | some time => exact ⟨time, ps, rfl, hplace, (Except.ok.inj (Outcome.mk.inj h).2).symm⟩

/-- **A recorded workload is placed** like the one it was made from, and the same is handed back. -/
theorem allocate_annotate (h : placeAll policy w l = ⟨next, .ok ps⟩) (node : String) (time : Int)
    (policy' : Policy) (clock : Option Int) (l' : Ledger) :
    allocate policy' clock (w.annotate node time ps) l' = allocate policy' clock w l' := by
  have hcontainers : (w.annotate node time ps).containers = w.containers :=
    (records_of_placeAll h w node time).containers
  have hplace : placeAll policy' (w.annotate node time ps) l' = placeAll policy' w l' := by
    rw [placeAll, placeAll, hcontainers]
    exact placeFrom_congr policy' w (w.request_annotate node time ps) 0 w.containers l'
  rw [allocate, allocate, hplace]
  rcases hagain : placeAll policy' w l' with ⟨last, e | qs⟩
  · rfl
  · cases clock with
    | none => rfl
    | some time' =>
        -- Both times the containers that ask for cores are placed, so their indices are the same.
        have hsame : ps.map Placement.index = qs.map Placement.index := by
          have hpairs := (map_index_placeFrom h).trans (map_index_placeFrom hagain).symm
          have hindices := congrArg (List.map Prod.snd) hpairs
          rw [List.map_map, List.map_map] at hindices
          exact hindices
        have htwice := (records_of_placeAll h w node time).trans
          (records_of_placeAll hagain (w.annotate node time ps) l'.node.name time') hsame
        have hrecord := htwice.unique (records_of_placeAll hagain w l'.node.name time')
        simp only [hrecord]

end Ledger

/-- **An allocation changes its own annotations only.** A workload that was placed is handed back
with the devices of each placed container, the node, the time and the word that the assignment is
not confirmed yet, and is the same in everything else. Two kinds of names end in the numeral of an
index, one of them those of the estimates; all names written to are told apart from one another and
from those. So no estimate changes, and placing the workload that was handed back is the same as
placing the one that was given, on any ledger and by any policy: the same ledger is left behind and
the same is handed back, apart from the time if the clock has moved. -/
theorem allocation_changes_own_annotations {policy : Policy} {clock : Option Int}
    {w w' : Workload} {l next : Ledger}
    (h : Ledger.allocate policy clock w l = ⟨next, .ok w'⟩) :
    (∃ time ps, clock = some time ∧ Ledger.placeAll policy w l = ⟨next, .ok ps⟩ ∧
      ps.map (fun p => (p.container, p.index)) = w.asking.map (fun x => (x.1.name, x.2)) ∧
      w'.Records w l.node.name time ps) ∧
    ([Annotations.node, Annotations.assigned, Annotations.time]
        = ["vgpu.io/predicate-node", "vgpu.io/gpu-assigned", "vgpu.io/predicate-time"] ∧
      (∀ i : Nat, Annotations.deviceList i = "vgpu.io/predicate-gpu-idx-" ++ toString i) ∧
      ∀ i : Nat, Annotations.estimatedTime i = "vgpu.io/estimated-time-" ++ toString i) ∧
    ((∀ i j, Annotations.deviceList i = Annotations.deviceList j → i = j) ∧
      (∀ i j, Annotations.estimatedTime i = Annotations.estimatedTime j → i = j) ∧
      (∀ i j, Annotations.deviceList i ≠ Annotations.estimatedTime j) ∧
      ∀ key ∈ [Annotations.node, Annotations.assigned, Annotations.time], ∀ i,
        Annotations.deviceList i ≠ key ∧ Annotations.estimatedTime i ≠ key) ∧
    (∀ i, w'.estimatedTime i = w.estimatedTime i) ∧
    (∀ policy' clock' l', Ledger.allocate policy' clock' w' l'
      = Ledger.allocate policy' clock' w l') ∧
    ∀ policy' time₁ time₂ l', (Ledger.allocate policy' (some time₁) w' l').map Workload.untimed
      = (Ledger.allocate policy' (some time₂) w l').map Workload.untimed := by
  obtain ⟨time, ps, hclock, hplace, rfl⟩ := Ledger.exists_time_of_allocate h
  have hagain := Ledger.allocate_annotate hplace l.node.name time
  refine ⟨⟨time, ps, hclock, hplace, Ledger.map_index_placeFrom hplace,
      Ledger.records_of_placeAll hplace w _ time⟩,
    ⟨rfl, Annotations.deviceList_eq, Annotations.estimatedTime_eq⟩,
    ⟨fun _ _ => Annotations.deviceList_injective, fun _ _ => Annotations.estimatedTime_injective,
      Annotations.deviceList_ne_estimatedTime, ?_⟩,
    w.estimatedTime_annotate l.node.name time ps, hagain, fun policy' time₁ time₂ l' => ?_⟩
  · simp only [List.forall_mem_cons, List.not_mem_nil, false_implies, implies_true, and_true]
    exact ⟨fun i => ⟨Annotations.deviceList_ne_node i, Annotations.estimatedTime_ne_node i⟩,
      fun i => ⟨Annotations.deviceList_ne_assigned i, Annotations.estimatedTime_ne_assigned i⟩,
      fun i => ⟨Annotations.deviceList_ne_time i, Annotations.estimatedTime_ne_time i⟩⟩
  · rw [hagain, ← Ledger.allocate_untimed policy' w (some time₁),
      ← Ledger.allocate_untimed policy' w (some time₂)]
    rfl

/-- A workload that was placed once when it had eleven containers has lists left over from then. Now
its second and its third container ask for cores, the third one for two whole devices, and the clock
stands before the epoch. Their lists are written anew, the lists of the first and of the eleventh
stay, and so does what else was annotated. -/
theorem allocation_changes_own_annotations_leftover :
    let n : Node := ⟨"node", 48, 3,
      [{ id := 0, totalCores := 100, totalMemory := 16 },
       { id := 1, totalCores := 100, totalMemory := 16 },
       { id := 2, totalCores := 100, totalMemory := 16 }]⟩
    let w : Workload := Workload.withEstimatedTime 1 7
      { uid := ⟨1⟩, name := "job"
        annotations := .ofList [(Annotations.deviceList 0, "5"), (Annotations.deviceList 1, "8"),
          (Annotations.deviceList 10, "9"), (Annotations.time, "3"), ("team", "a")]
        containers := [{ name := "plain" }, .withGpu "part" 40 4, .withGpu "wide" 200 0] }
    let ps : List Placement :=
      [⟨1, "part", .share, [0], 40, 4⟩, ⟨2, "wide", .exclusive, [1, 2], 100, 16⟩]
    let w' := w.annotate "node" (-12) ps
    (w'.Records w "node" (-12) ps ∧
      w'.annotations.get? "vgpu.io/predicate-time" = some "-12" ∧
      w'.annotations.get? "vgpu.io/predicate-gpu-idx-1" = some "0" ∧
      w'.annotations.get? "vgpu.io/predicate-gpu-idx-2" = some "1,2" ∧
      w'.annotations.get? "vgpu.io/predicate-gpu-idx-10" = some "9" ∧
      w'.annotations.get? "team" = some "a" ∧ w'.estimatedTime 1 = .ok 7) ∧
    Ledger.allocate {} (some 9) w' { node := n } = Ledger.allocate {} (some 9) w { node := n } := by
  intro n w ps w'
  have hresult : (Ledger.allocate {} (some (-12)) w { node := n }).result = .ok w' := by
    decide +kernel
  have hplaced : (Ledger.placeAll {} w { node := n }).result = .ok ps := by decide +kernel
  have hestimate : w.estimatedTime 1 = .ok 7 := by decide +kernel
  have h : Ledger.allocate {} (some (-12)) w { node := n }
      = ⟨(Ledger.allocate {} (some (-12)) w { node := n }).state, .ok w'⟩ := by
    rw [← hresult]
  obtain ⟨⟨time, qs, htime, hplace, -, hrecord⟩, -, -, hestimates, hagain, -⟩ :=
    allocation_changes_own_annotations h
  obtain rfl : -12 = time := Option.some.inj htime
  rw [hplace] at hplaced
  obtain rfl : qs = ps := Except.ok.inj hplaced
  have hsecond : Annotations.deviceList 1 = "vgpu.io/predicate-gpu-idx-1" := by decide +kernel
  have hthird : Annotations.deviceList 2 = "vgpu.io/predicate-gpu-idx-2" := by decide +kernel
  refine ⟨⟨hrecord, hrecord.time.trans (by decide +kernel), ?_, ?_, ?_, ?_, ?_⟩,
    hagain {} (some 9) { node := n }⟩
  · rw [← hsecond, hrecord.deviceList ⟨1, "part", .share, [0], 40, 4⟩ List.mem_cons_self]
    decide +kernel
  · rw [← hthird, hrecord.deviceList ⟨2, "wide", .exclusive, [1, 2], 100, 16⟩ (by decide)]
    decide +kernel
  · rw [hrecord.others _ (by decide +kernel) (by decide +kernel)]
    decide +kernel
  · rw [hrecord.others _ (by decide +kernel) (by decide +kernel)]
    decide +kernel
  · rw [hestimates, hestimate]

end GpuLedger
