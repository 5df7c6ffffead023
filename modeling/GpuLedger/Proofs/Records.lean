import GpuLedger.Proofs.DeviceLists
import GpuLedger.Proofs.Postings
import GpuLedger.Proofs.Returns

/-!
# The Record of a Placement

A placed workload carries a record of where its containers are. This module shows that the
record says exactly what has been booked: the dues of the workload that `Ledger.allocate` hands
back are the entries it has booked (`Ledger.dues_of_allocate`), whatever annotations the workload
came with. Three facts are behind this:

* the names of the annotations are told apart (`Annotations.deviceList_injective` and those
  after it), so what is recorded for one container is not overwritten by what is recorded for
  another, and no estimate is touched;
* a list of devices reads back as it was written (`DeviceId.readList?_writeList`);
* what a container holds on its devices is worked out from its request and the quota in the same
  way when it is placed and when it is released.
-/

namespace GpuLedger

/-! ### Texts that are written -/

/-- The numeral of a number as a text. -/
theorem Decimal.ofList_write (n : Nat) : String.ofList (Decimal.write n) = toString n :=
  Nat.toString_eq_ofList_toDigits.symm

/-- **A list of devices is recorded** as the numerals of their numbers with commas between them. -/
theorem Placement.deviceList_eq (p : Placement) :
    p.deviceList = ",".intercalate (p.devices.map fun id => toString id.toNat) := by
  refine String.toList_inj.mp ?_
  rw [Placement.deviceList, String.toList_ofList, DeviceId.writeList, String.toList_intercalate,
    List.map_map]
  refine congrArg (List.intercalate [',']) (List.map_congr_left fun id _ => ?_)
  rw [Function.comp_apply, ← Decimal.ofList_write, String.toList_ofList]

/-- **A time is recorded** as the decimal numeral of its nanoseconds, after a minus sign if they are
below zero. -/
theorem writeTime_eq (time : Int) : writeTime time = toString time := by
  cases time with
  | ofNat n =>
      have hsign : ¬ Int.ofNat n < 0 := Int.not_lt.mpr (Int.natCast_nonneg n)
      rw [writeTime, if_neg hsign]
      exact Decimal.ofList_write n
  | negSucc n =>
      rw [writeTime, if_pos (Int.negSucc_lt_zero n)]
      rw [Int.natAbs_negSucc, ← List.singleton_append, String.ofList_append, Decimal.ofList_write]
      rfl

/-! ### The names of the annotations -/

namespace Annotations

/-- The name of a device list ends in the numeral of the index. -/
theorem deviceList_eq (index : Nat) :
    deviceList index = "vgpu.io/predicate-gpu-idx-" ++ toString index :=
  congrArg ("vgpu.io/predicate-gpu-idx-" ++ ·) (Decimal.ofList_write index)

/-- The name of an estimate ends in the numeral of the index. -/
theorem estimatedTime_eq (index : Nat) :
    estimatedTime index = "vgpu.io/estimated-time-" ++ toString index :=
  congrArg ("vgpu.io/estimated-time-" ++ ·) (Decimal.ofList_write index)

/-- Texts that differ at a place are different. -/
theorem ne_of_getElem? {s t : String} {k : Nat} {c d : Char} (hs : s.toList[k]? = some c)
    (ht : t.toList[k]? = some d) (hcd : c ≠ d) : s ≠ t := by
  rintro rfl
  exact hcd (Option.some.inj (hs.symm.trans ht))

/-- A text begins with its stem. -/
theorem getElem?_append {stem : String} {k : Nat} {c : Char} (h : stem.toList[k]? = some c)
    (index : String) : (stem ++ index).toList[k]? = some c := by
  rw [String.toList_append, List.getElem?_append_left (List.getElem?_eq_some_iff.mp h).1, h]

/-- The place behind the common beginning of all names, in the name of a device list. -/
theorem deviceList_kind (index : Nat) : (deviceList index).toList[8]? = some 'p' :=
  getElem?_append (by decide) _

/-- The place behind what the name of a device list shares with those of node and time. -/
theorem deviceList_subject (index : Nat) : (deviceList index).toList[18]? = some 'g' :=
  getElem?_append (by decide) _

/-- The place behind the common beginning of all names, in the name of an estimate. -/
theorem estimatedTime_kind (index : Nat) : (estimatedTime index).toList[8]? = some 'e' :=
  getElem?_append (by decide) _

/-- A name that ends in an index tells the index. -/
theorem append_digits_injective {stem : String} {i j : Nat}
    (h : stem ++ String.ofList (Nat.toDigits 10 i) = stem ++ String.ofList (Nat.toDigits 10 j)) :
    i = j := by
  have hlist := congrArg String.toList h
  simp only [String.toList_append, String.toList_ofList] at hlist
  exact Decimal.write_injective (List.append_cancel_left hlist)

/-- Device lists of different containers have different names. -/
theorem deviceList_injective {i j : Nat} (h : deviceList i = deviceList j) : i = j :=
  append_digits_injective h

/-- Estimates of different containers have different names. -/
theorem estimatedTime_injective {i j : Nat} (h : estimatedTime i = estimatedTime j) : i = j :=
  append_digits_injective h

/-- A device list and an estimate never share a name. -/
theorem deviceList_ne_estimatedTime (i j : Nat) : deviceList i ≠ estimatedTime j :=
  ne_of_getElem? (deviceList_kind i) (estimatedTime_kind j) (by decide)

/-- A device list does not stand under the name of the node. -/
theorem deviceList_ne_node (i : Nat) : deviceList i ≠ node :=
  ne_of_getElem? (t := node) (d := 'n') (deviceList_subject i) (by decide) (by decide)

/-- A device list does not stand under the name of the assignment. -/
theorem deviceList_ne_assigned (i : Nat) : deviceList i ≠ assigned :=
  ne_of_getElem? (t := assigned) (d := 'g') (deviceList_kind i) (by decide) (by decide)

/-- A device list does not stand under the name of the time. -/
theorem deviceList_ne_time (i : Nat) : deviceList i ≠ time :=
  ne_of_getElem? (t := time) (d := 't') (deviceList_subject i) (by decide) (by decide)

/-- An estimate does not stand under the name of the node. -/
theorem estimatedTime_ne_node (i : Nat) : estimatedTime i ≠ node :=
  ne_of_getElem? (t := node) (d := 'p') (estimatedTime_kind i) (by decide) (by decide)

/-- An estimate does not stand under the name of the assignment. -/
theorem estimatedTime_ne_assigned (i : Nat) : estimatedTime i ≠ assigned :=
  ne_of_getElem? (t := assigned) (d := 'g') (estimatedTime_kind i) (by decide) (by decide)

/-- An estimate does not stand under the name of the time. -/
theorem estimatedTime_ne_time (i : Nat) : estimatedTime i ≠ time :=
  ne_of_getElem? (t := time) (d := 'p') (estimatedTime_kind i) (by decide) (by decide)

end Annotations

/-! ### What is recorded -/

namespace Workload

/-- Adds the records of several placements to the annotations. -/
def recordAll (placements : List Placement) (w : Workload) : Workload :=
  placements.foldl (fun w p => w.annotateWith (Annotations.deviceList p.index) p.deviceList) w

/-- Only annotations are added. -/
theorem recordAll_eq (placements : List Placement) (w : Workload) :
    w.recordAll placements = { w with annotations := (w.recordAll placements).annotations } := by
  induction placements generalizing w with
  | nil => rfl
  | cons p rest ih => exact ih (w.annotateWith (Annotations.deviceList p.index) p.deviceList)

/-- A name that is not that of a recorded list keeps its value. -/
theorem get?_recordAll_of_ne {placements : List Placement} {key : String}
    (h : ∀ p ∈ placements, Annotations.deviceList p.index ≠ key) (w : Workload) :
    (w.recordAll placements).annotations.get? key = w.annotations.get? key := by
  induction placements generalizing w with
  | nil => rfl
  | cons p rest ih =>
      have hrest := ih (fun q hq => h q (List.mem_cons_of_mem _ hq))
        (w.annotateWith (Annotations.deviceList p.index) p.deviceList)
      refine hrest.trans ?_
      rw [annotateWith, SortedMap.get?_insert, if_neg (h p List.mem_cons_self)]

/-- Where no index occurs twice, every placement finds its record. -/
theorem get?_recordAll_of_mem {placements : List Placement}
    (hdistinct : placements.Pairwise fun p q => p.index ≠ q.index) {p : Placement}
    (hp : p ∈ placements) (w : Workload) :
    (w.recordAll placements).annotations.get? (Annotations.deviceList p.index)
      = some p.deviceList := by
  induction placements generalizing w with
  | nil => exact absurd hp List.not_mem_nil
  | cons q rest ih =>
      obtain ⟨hq, hrest⟩ := List.pairwise_cons.mp hdistinct
      rcases List.mem_cons.mp hp with rfl | hp
      · have hother : ∀ q ∈ rest, Annotations.deviceList q.index ≠ Annotations.deviceList p.index :=
          fun q hmem heq => hq q hmem (Annotations.deviceList_injective heq).symm
        refine (get?_recordAll_of_ne hother
          (w.annotateWith (Annotations.deviceList p.index) p.deviceList)).trans ?_
        rw [annotateWith, SortedMap.get?_insert, if_pos rfl]
      · exact ih hrest hp _

/-- The record of a workload, over the lists of its containers. -/
theorem annotate_eq (w : Workload) (node : String) (time : Int) (placements : List Placement) :
    w.annotate node time placements =
      (((w.recordAll placements).annotateWith Annotations.node node).annotateWith
        Annotations.assigned "false").annotateWith Annotations.time (writeTime time) :=
  rfl

/-- Only annotations are added. -/
theorem annotate_eq_with (w : Workload) (node : String) (time : Int)
    (placements : List Placement) :
    w.annotate node time placements =
      { w with annotations := (w.annotate node time placements).annotations } := by
  rw [annotate_eq, recordAll_eq]
  rfl

/-- A name other than those of node, assignment and time has what the lists give it. -/
theorem get?_annotate {key : String} (hnode : Annotations.node ≠ key)
    (hassigned : Annotations.assigned ≠ key) (htime : Annotations.time ≠ key) (w : Workload)
    (node : String) (time : Int) (placements : List Placement) :
    (w.annotate node time placements).annotations.get? key
      = (w.recordAll placements).annotations.get? key := by
  rw [annotate_eq]
  simp only [annotateWith, SortedMap.get?_insert, if_neg hnode, if_neg hassigned, if_neg htime]

/-- The node is on record. -/
theorem get?_annotate_node (w : Workload) (node : String) (time : Int)
    (placements : List Placement) :
    (w.annotate node time placements).annotations.get? Annotations.node = some node := by
  have hassigned : Annotations.assigned ≠ Annotations.node := by decide
  have htime : Annotations.time ≠ Annotations.node := by decide
  rw [annotate_eq]
  simp only [annotateWith, SortedMap.get?_insert, if_neg hassigned, if_neg htime, if_true]

/-- Estimates are read as before. -/
theorem estimatedTime_annotate (w : Workload) (node : String) (time : Int)
    (placements : List Placement) (index : Nat) :
    (w.annotate node time placements).estimatedTime index = w.estimatedTime index := by
  have hget : (w.annotate node time placements).annotations.get? (Annotations.estimatedTime index)
      = w.annotations.get? (Annotations.estimatedTime index) := by
    rw [get?_annotate (Annotations.estimatedTime_ne_node index).symm
      (Annotations.estimatedTime_ne_assigned index).symm
      (Annotations.estimatedTime_ne_time index).symm]
    exact get?_recordAll_of_ne (fun p _ => Annotations.deviceList_ne_estimatedTime _ _) w
  rw [estimatedTime, hget, annotate_eq_with]
  rfl

/-- A recorded workload makes the same requests. -/
theorem request_annotate (w : Workload) (node : String) (time : Int)
    (placements : List Placement) (index : Nat) (c : Container) :
    (w.annotate node time placements).request index c = w.request index c := by
  rw [request, estimatedTime_annotate, request]

/-- Where no index occurs twice, every placement is on record under its index. -/
theorem get?_annotate_deviceList {placements : List Placement}
    (hdistinct : placements.Pairwise fun p q => p.index ≠ q.index) {p : Placement}
    (hp : p ∈ placements) (w : Workload) (node : String) (time : Int) :
    (w.annotate node time placements).annotations.get? (Annotations.deviceList p.index)
      = some p.deviceList := by
  rw [get?_annotate (Annotations.deviceList_ne_node p.index).symm
    (Annotations.deviceList_ne_assigned p.index).symm
    (Annotations.deviceList_ne_time p.index).symm]
  exact get?_recordAll_of_mem hdistinct hp w

/-- The recorded devices are read as they were placed. -/
theorem assignedDevices?_annotate {placements : List Placement}
    (hdistinct : placements.Pairwise fun p q => p.index ≠ q.index) {p : Placement}
    (hp : p ∈ placements) (hne : p.devices ≠ []) (w : Workload) (node : String) (time : Int) :
    (w.annotate node time placements).assignedDevices? p.index = some p.devices := by
  rw [assignedDevices?, get?_annotate_deviceList hdistinct hp, Option.bind_some,
    Placement.deviceList, String.toList_ofList, DeviceId.readList?_writeList hne]

end Workload

/-! ### The containers that are placed -/

/-- The containers that ask for cores, each with its index, where those that are given are counted
from an index on. -/
def Container.asking (index : Nat) (cs : List Container) : List (Container × Nat) :=
  (cs.zipIdx index).filter fun x => decide x.1.RequestsGpu

/-- The containers of a workload that ask for cores, each with its index. -/
def Workload.asking (w : Workload) : List (Container × Nat) :=
  Container.asking 0 w.containers

/-- A container that asks for cores is among those that do, under its index. -/
theorem Container.asking_cons_of_pos {c : Container} (h : c.RequestsGpu) (index : Nat)
    (rest : List Container) : asking index (c :: rest) = (c, index) :: asking (index + 1) rest := by
  have hkept : decide (c, index).1.RequestsGpu = true := decide_eq_true h
  simp only [asking, List.zipIdx_cons, List.filter_cons, hkept, if_true]

/-- A container that asks for no cores only moves the index on. -/
theorem Container.asking_cons_of_neg {c : Container} (h : ¬ c.RequestsGpu) (index : Nat)
    (rest : List Container) : asking index (c :: rest) = asking (index + 1) rest := by
  have hdropped : decide (c, index).1.RequestsGpu = false := decide_eq_false h
  simp only [asking, List.zipIdx_cons, List.filter_cons, hdropped, Bool.false_eq_true, if_false]

/-! ### What is due is what was booked -/

namespace Ledger

/-- **The placement of one container** is for its request, and its amount has been booked on each of
its devices, of which there is at least one. -/
theorem placement_of_placeOne {policy : Policy} {w : Workload} {index : Nat} {c : Container}
    {l next : Ledger} {p : Placement} (h : placeOne policy w index c l = ⟨next, .ok p⟩) :
    ∃ r, w.request index c = .ok r ∧ p.devices ≠ [] ∧
      p = { index, container := c.name, mode := r.mode, devices := p.devices,
            vcore := (r.amount l.node.quota).vcore,
            vmemory := (r.amount l.node.quota).vmemory } ∧
      bookedOne policy w index c l = p.devices.map (⟨·, r.amount l.node.quota⟩) := by
  rw [placeOne] at h
  cases hr : w.request index c with
  | error e => rw [hr] at h; cases h
  | ok r =>
      rw [hr] at h
      simp only at h
      cases hids : (policy.choose l.node.devices r).map Device.id with
      | nil => rw [hids] at h; cases h
      | cons id ids =>
          rw [hids] at h
          simp only [Outcome.map] at h
          obtain ⟨hstate, hresult⟩ := Outcome.mk.inj h
          rcases hbook : bookAll (r.amount l.node.quota) (id :: ids) l with ⟨mid, e | _⟩
          · rw [hbook] at hresult
            cases hresult
          · rw [hbook] at hresult
            obtain rfl := Except.ok.inj hresult
            refine ⟨r, rfl, List.cons_ne_nil _ _, rfl, ?_⟩
            rw [bookedOne, hr]
            simp only [hids]
            exact bookedAll_of_ok hbook

/-- A placed container has at least one device, and has booked its amount on each of them. -/
theorem placeOne_eq_ok {policy : Policy} {w : Workload} {index : Nat} {c : Container}
    {l next : Ledger} {p : Placement} (h : placeOne policy w index c l = ⟨next, .ok p⟩) :
    ∃ r, w.request index c = .ok r ∧ p.index = index ∧ p.devices ≠ [] ∧
      bookedOne policy w index c l = p.devices.map (⟨·, r.amount l.node.quota⟩) := by
  obtain ⟨r, hr, hne, hp, hbooked⟩ := placement_of_placeOne h
  exact ⟨r, hr, congrArg Placement.index hp, hne, hbooked⟩

/-- Where several containers have been placed, the first has been placed and then the others, in
the ledger that the first left behind. -/
theorem placeFrom_cons_eq_ok {policy : Policy} {w : Workload} {index : Nat} {c : Container}
    {rest : List Container} {l last : Ledger} {ps : List Placement} (hgpu : c.RequestsGpu)
    (h : placeFrom policy w index (c :: rest) l = ⟨last, .ok ps⟩) :
    ∃ next p qs, placeOne policy w index c l = ⟨next, .ok p⟩ ∧
      placeFrom policy w (index + 1) rest next = ⟨last, .ok qs⟩ ∧ ps = p :: qs := by
  rw [placeFrom, if_pos hgpu] at h
  rcases hplace : placeOne policy w index c l with ⟨next, e | p⟩
  · rw [hplace] at h
    cases h
  · rw [hplace] at h
    rcases hmore : placeFrom policy w (index + 1) rest next with ⟨later, e | qs⟩
    · simp only [hmore] at h
      cases h
    · simp only [hmore] at h
      obtain ⟨hlast, hps⟩ := Outcome.mk.inj h
      subst hlast
      exact ⟨next, p, qs, rfl, hmore, (Except.ok.inj hps).symm⟩

/-- The placements of a workload come in the order of its containers, each with a device. -/
theorem placeFrom_indices {policy : Policy} {w : Workload} {index : Nat} {cs : List Container}
    {l last : Ledger} {ps : List Placement} (h : placeFrom policy w index cs l = ⟨last, .ok ps⟩) :
    ps.Pairwise (fun p q => p.index < q.index) ∧
      ∀ p ∈ ps, index ≤ p.index ∧ p.devices ≠ [] := by
  induction cs generalizing index l ps with
  | nil =>
      obtain rfl : [] = ps := Except.ok.inj (Outcome.mk.inj h).2
      exact ⟨.nil, fun _ hp => absurd hp List.not_mem_nil⟩
  | cons c rest ih =>
      by_cases hgpu : c.RequestsGpu
      · obtain ⟨next, p, qs, hplace, hmore, rfl⟩ := placeFrom_cons_eq_ok hgpu h
        obtain ⟨r, -, hindex, hne, -⟩ := placeOne_eq_ok hplace
        obtain ⟨hpair, hall⟩ := ih hmore
        refine ⟨List.pairwise_cons.mpr ⟨fun q hq => ?_, hpair⟩, fun q hq => ?_⟩
        · have hlater := (hall q hq).1
          omega
        · rcases List.mem_cons.mp hq with rfl | hq
          · exact ⟨hindex.ge, hne⟩
          · have hlater := (hall q hq).1
            exact ⟨by omega, (hall q hq).2⟩
      · rw [placeFrom, if_neg hgpu] at h
        obtain ⟨hpair, hall⟩ := ih h
        refine ⟨hpair, fun p hp => ?_⟩
        have hlater := (hall p hp).1
        exact ⟨by omega, (hall p hp).2⟩

/-- A workload with the same requests, in which every placement finds its devices, is due what
has been booked for it. -/
theorem duesFrom_of_placeFrom {policy : Policy} {w w' : Workload}
    (hrequest : ∀ index c, w'.request index c = w.request index c) {index : Nat}
    {cs : List Container} {l last : Ledger} {ps : List Placement}
    (h : placeFrom policy w index cs l = ⟨last, .ok ps⟩)
    (hdevices : ∀ p ∈ ps, w'.assignedDevices? p.index = some p.devices) :
    w'.duesFrom l.node.quota index cs = (bookedFrom policy w index cs l, none) := by
  induction cs generalizing index l ps with
  | nil => rfl
  | cons c rest ih =>
      rw [Workload.duesFrom, bookedFrom]
      by_cases hgpu : c.RequestsGpu
      · obtain ⟨next, p, qs, hplace, hmore, rfl⟩ := placeFrom_cons_eq_ok hgpu h
        obtain ⟨r, hr, hindex, -, hbooked⟩ := placeOne_eq_ok hplace
        have hquota : next.node.quota = l.node.quota := by
          have hposts := posts_bookedOne policy w index c l
          rw [hplace] at hposts
          rw [hposts.node_eq, Node.quota_postAll]
        have hassigned : w'.devicesOf index c = .ok p.devices := by
          rw [Workload.devicesOf, ← hindex, hdevices p List.mem_cons_self]
        have hrest := ih hmore fun q hq => hdevices q (List.mem_cons_of_mem _ hq)
        rw [hquota] at hrest
        rw [if_pos hgpu, if_pos hgpu]
        simp only [hassigned, hrequest, hr, hrest, hbooked, hplace]
      · rw [placeFrom, if_neg hgpu] at h
        rw [if_neg hgpu, if_neg hgpu]
        exact ih h hdevices

/-- What an allocation hands back, if it does: the workload with the record of its placements. -/
theorem allocate_eq_ok {policy : Policy} {clock : Option Int} {w w' : Workload}
    {l next : Ledger} (h : allocate policy clock w l = ⟨next, .ok w'⟩) :
    ∃ time ps, placeAll policy w l = ⟨next, .ok ps⟩ ∧ w' = w.annotate l.node.name time ps := by
  rw [allocate] at h
  rcases hplace : placeAll policy w l with ⟨mid, e | ps⟩
  · rw [hplace] at h
    cases h
  · rw [hplace] at h
    cases clock with
    | none => cases h
    | some time =>
        obtain ⟨rfl, hw⟩ := Outcome.mk.inj h
        exact ⟨time, ps, rfl, (Except.ok.inj hw).symm⟩

/-- **What is due is what was booked.** The workload that an allocation hands back is due the
entries that the allocation has booked, all of them and in the same order. -/
theorem dues_of_allocate {policy : Policy} {clock : Option Int} {w w' : Workload}
    {l next : Ledger} (h : allocate policy clock w l = ⟨next, .ok w'⟩) :
    w'.dues l.node.quota = (booked policy w l, none) := by
  obtain ⟨time, ps, hplace, rfl⟩ := allocate_eq_ok h
  obtain ⟨hpair, hall⟩ := placeFrom_indices hplace
  have hcontainers : (w.annotate l.node.name time ps).containers = w.containers := by
    rw [Workload.annotate_eq_with]
  rw [Workload.dues, hcontainers]
  refine duesFrom_of_placeFrom (w.request_annotate l.node.name time ps) hplace fun p hp => ?_
  exact Workload.assignedDevices?_annotate (hpair.imp Nat.ne_of_lt) hp (hall p hp).2 w _ _

end Ledger

end GpuLedger
