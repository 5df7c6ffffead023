import GpuLedger.Proofs.Exclusion
import Mathlib.Data.List.Range

/-!
# The Memory of a Node

A container that takes whole devices holds on each of them an equal part of the memory that the node
advertises, whatever memory the device itself has. This module shows that a node which advertises
what its devices have together can give these parts to all of its devices and not run out: where
only whole devices are asked for, every device is idle or taken by one such container
(`Device.IdleOrWhole`), so at most as many parts are held as there are devices, and what the
division of the memory leaves over is held by nobody.

The totals over the devices of a node are exact or absent. They are always there in such a session:
the memory in use is no more than a quantity, the advertised memory, and there are too few numbers
of devices for the cores in use to exceed one.

## Main results

* `kept_idleOrWhole` — booking whole devices and giving back keep devices idle or whole;
* `Node.length_le_of_nodup` — a node has no more devices than there are numbers;
* `whole_use_within_memory` — the memory in use over whole sessions.
-/

namespace GpuLedger

namespace Quantity

/-- Adding to nothing is never cut off. -/
theorem zero_addSat (q : Quantity) : addSat 0 q = q := by
  have hq := q.toNat_lt
  refine UInt64.toNat_inj.mp ?_
  rw [toNat_addSat, UInt64.toNat_zero, UInt64.size]
  omega

/-- A quantity less itself is nothing. -/
theorem subSat_self (q : Quantity) : subSat q q = 0 := by
  refine UInt64.toNat_inj.mp ?_
  rw [toNat_subSat, Nat.sub_self, UInt64.toNat_zero]

/-- A total of bounded quantities is bounded by how many they are. -/
theorem total_map_le {α : Type} {f : α → Quantity} {xs : List α} {bound : Nat}
    (h : ∀ x ∈ xs, (f x).toNat ≤ bound) : total (xs.map f) ≤ xs.length * bound := by
  induction xs with
  | nil => exact Nat.zero_le _
  | cons x rest ih =>
      have hx := h x List.mem_cons_self
      have hrest := ih fun y hy => h y (List.mem_cons_of_mem _ hy)
      rw [List.map_cons, total, List.length_cons, Nat.succ_mul]
      omega

/-- A total that fits is there. -/
theorem exists_sum?_of_lt {qs : List Quantity} (h : total qs < UInt64.size) :
    ∃ t, sum? qs = some t ∧ t.toNat = total qs := by
  have ht : (UInt64.ofNat (total qs)).toNat = total qs := by
    rw [UInt64.toNat_ofNat', Nat.mod_eq_of_lt h]
  exact ⟨_, sum?_eq_some_iff.mpr ht.symm, ht⟩

end Quantity

/-! ### Idle or taken whole -/

namespace Device

/-- A device that is idle or taken whole by one container, which holds a share of the memory of
the node on it. -/
inductive IdleOrWhole (share : Quantity) (d : Device) : Prop
  | idle (idle : d.Idle)
  | whole (time : Quantity) (usedCores : d.usedCores = wholeDevice)
      (usedMemory : d.usedMemory = share) (amounts : d.amounts = [⟨wholeDevice, share, time⟩])

namespace IdleOrWhole

variable {share : Quantity} {d : Device} {a : Amount}

/-- An idle device can be taken whole. -/
theorem book (hidle : d.Idle) (time : Quantity) :
    (d.book ⟨wholeDevice, share, time⟩).IdleOrWhole share := by
  refine .whole time ?_ ?_ ?_
  · rw [Device.book, hidle.1, Quantity.zero_addSat]
  · rw [Device.book, hidle.2.1, Quantity.zero_addSat]
  · rw [amounts_book, hidle.amounts_eq, List.nil_append]

/-- Whatever is given back on such a device, it was all that was held there. -/
theorem unbook (h : d.IdleOrWhole share) (ha : a ∈ d.amounts) :
    (d.unbook a).IdleOrWhole share := by
  cases h with
  | idle hidle =>
      rw [hidle.amounts_eq] at ha
      exact absurd ha List.not_mem_nil
  | whole time hcores hmemory hamounts =>
      have hnone : (d.unbook a).amounts = [] := by
        rw [hamounts] at ha
        rw [amounts_unbook, hamounts, List.mem_singleton.mp ha, List.erase_cons_head]
      have hbookings : (d.unbook a).bookings = [] := List.map_eq_nil_iff.mp hnone
      rw [unbook_of_mem ha] at hbookings ⊢
      rw [hamounts] at ha
      obtain rfl := List.mem_singleton.mp ha
      refine .idle ⟨?_, ?_, hbookings⟩
      · rw [hcores, Quantity.subSat_self]
      · rw [hmemory, Quantity.subSat_self]

/-- Time leaves a device idle or whole. -/
theorem age (h : d.IdleOrWhole share) (time : Quantity) : (d.age time).IdleOrWhole share := by
  cases h with
  | idle hidle =>
      refine .idle ⟨hidle.1, hidle.2.1, ?_⟩
      rw [Device.age, hidle.2.2, List.map_nil]
  | whole estimate hcores hmemory hamounts =>
      exact .whole estimate hcores hmemory (by rw [amounts_age, hamounts])

/-- What such a device has in use: nothing, or the cores of a whole device and the share. -/
theorem used (h : d.IdleOrWhole share) :
    d.usedCores = 0 ∧ d.usedMemory = 0 ∨ d.usedCores = wholeDevice ∧ d.usedMemory = share := by
  cases h with
  | idle hidle => exact .inl ⟨hidle.1, hidle.2.1⟩
  | whole _ hcores hmemory _ => exact .inr ⟨hcores, hmemory⟩

/-- An idle or whole device uses no more cores than a whole one has. -/
theorem usedCores_le (h : d.IdleOrWhole share) : d.usedCores.toNat ≤ wholeDevice.toNat := by
  rcases h.used with ⟨hcores, -⟩ | ⟨hcores, -⟩
  · rw [hcores]
    exact Nat.zero_le _
  · rw [hcores]

/-- An idle or whole device uses no more memory than an equal part. -/
theorem usedMemory_le (h : d.IdleOrWhole share) : d.usedMemory.toNat ≤ share.toNat := by
  rcases h.used with ⟨-, hmemory⟩ | ⟨-, hmemory⟩
  · rw [hmemory]
    exact Nat.zero_le _
  · rw [hmemory]

end IdleOrWhole

end Device

/-- **A container that takes whole devices** gets idle ones, under any policy, and holds on each of
them the quota of the node. -/
theorem Policy.Admits.idle_of_le {policy : Policy} {r : Request} {n : Node} {e : Entry}
    (h : policy.Admits r n e) (hwhole : wholeDevice ≤ r.cores) :
    ∃ d, n.device? e.device = some d ∧ d.Idle ∧
      ∃ time, e.amount = ⟨wholeDevice, n.quota, time⟩ := by
  cases h with
  | share hmode _ _ =>
      rw [Request.mode_of_le hwhole] at hmode
      cases hmode
  | @exclusive d hmode hfirst hvacant =>
      refine ⟨d, hfirst, hvacant.1, r.estimatedTime, ?_⟩
      rw [Request.amount, hmode]

/-- An operation that places such containers only books whole devices that are idle. -/
theorem Operation.AdmitsFor.idle_of_le {op : Operation} {c : Container} {n : Node} {e : Entry}
    (h : op.AdmitsFor c n e) (hwhole : wholeDevice ≤ c.cores) :
    ∃ d, n.device? e.device = some d ∧ d.Idle ∧
      ∃ time, e.amount = ⟨wholeDevice, n.quota, time⟩ := by
  cases op with
  | demand d =>
      obtain ⟨r, -, hr, hadmits⟩ := h
      exact hadmits.idle_of_le (hr ▸ hwhole)
  | release w => exact h.elim
  | age time => exact h.elim

/-- Booking idle devices whole, giving back what is booked and the passing of time keep all devices
idle or whole. -/
theorem kept_idleOrWhole (share : Quantity) :
    Kept (fun n e => n.quota = share → ∃ d, n.device? e.device = some d ∧
        (d.Idle ∧ ∃ time, e.amount = ⟨wholeDevice, share, time⟩))
      (fun n => n.quota = share ∧ ∀ d ∈ n.devices, d.IdleOrWhole share) := by
  refine kept_of_devices (fun d a => d.Idle ∧ ∃ time, a = ⟨wholeDevice, share, time⟩)
    (Device.IdleOrWhole share) share ?_ ?_ ?_
  · rintro d a - ⟨hidle, time, rfl⟩
    exact .book hidle time
  · exact fun d a ha h => h.unbook ha
  · exact fun d time h => h.age time

/-- In every session that starts from idle devices and in which only whole devices are asked for,
devices are idle or whole. -/
theorem idleOrWhole_run {l : Ledger} {ops : List Operation}
    (hids : (l.node.devices.map Device.id).Nodup) (hidle : ∀ d ∈ l.node.devices, d.Idle)
    (hwhole : ∀ op ∈ ops, ∀ c ∈ op.containers, wholeDevice ≤ c.cores) :
    ∀ d ∈ (l.run ops).node.devices, d.IdleOrWhole l.node.quota := by
  have hallowed : ∀ op ∈ ops, ∀ c ∈ op.containers, ∀ n e, op.AdmitsFor c n e →
      n.quota = l.node.quota → ∃ d, n.device? e.device = some d ∧
        (d.Idle ∧ ∃ time, e.amount = ⟨wholeDevice, l.node.quota, time⟩) := by
    intro op hop c hc n e hfor hquota
    rw [← hquota]
    exact hfor.idle_of_le (hwhole op hop c hc)
  exact ((kept_idleOrWhole l.node.quota).run_for hids hallowed
    ⟨rfl, fun d hd => .idle (hidle d hd)⟩).2

/-! ### Equal shares of the memory -/

namespace Node

/-- A node has no more devices than there are numbers, if no number occurs twice. -/
theorem length_le_of_nodup {ds : List Device} (hids : (ds.map Device.id).Nodup) :
    ds.length ≤ UInt32.size := by
  have hnumbers : ((ds.map Device.id).map UInt32.toNat).Nodup :=
    hids.map fun _ _ h => UInt32.toNat_inj.mp h
  have hrange : (ds.map Device.id).map UInt32.toNat ⊆ List.range UInt32.size := by
    intro k hk
    obtain ⟨id, -, rfl⟩ := List.mem_map.mp hk
    exact List.mem_range.mpr id.toNat_lt
  have hlength := (hnumbers.subperm hrange).length_le
  rwa [List.length_map, List.length_map, List.length_range] at hlength

/-- A node that is made of distinct devices advertises as many as it has. -/
theorem deviceCount_of_ofDevices {name : String} {ds : List Device} {n : Node}
    (h : ofDevices name ds = .ok n) (hids : (ds.map Device.id).Nodup) :
    n.devices = ds ∧ n.deviceCount.toNat = ds.length := by
  have hfits : ds.length < UInt64.size :=
    Nat.lt_of_le_of_lt (length_le_of_nodup hids) (by decide)
  rw [ofDevices] at h
  cases hsum : Quantity.sum? (ds.map Device.totalMemory) with
  | none =>
      rw [hsum] at h
      cases h
  | some total =>
      rw [hsum] at h
      obtain rfl := Except.ok.inj h
      exact ⟨rfl, by rw [UInt64.toNat_ofNat', Nat.mod_eq_of_lt hfits]⟩

/-- The quota is the advertised memory divided by the advertised number of devices, which gives
nothing where that number is zero. -/
theorem quota_eq_div (n : Node) : n.quota = n.totalMemory / n.deviceCount := by
  rw [quota]
  split
  · next hzero =>
    refine UInt64.toNat_inj.mp ?_
    rw [hzero, UInt64.toNat_div, UInt64.toNat_zero, Nat.div_zero]
  · rfl

/-- As many shares of the memory as devices are advertised are no more than the memory. -/
theorem deviceCount_mul_quota_le (n : Node) :
    n.deviceCount.toNat * n.quota.toNat ≤ n.totalMemory.toNat := by
  rw [quota_eq_div, UInt64.toNat_div]
  exact Nat.mul_div_le _ _

end Node

/-- **Whole devices do not use up more memory than there is.** On a node that advertises what its
devices have together, idle at first and of whatever memory each, let any workloads be placed whose
containers with cores ask for whole devices, and any workloads be given back, while time passes.
Then every device has no cores and no memory in use, or the cores of a whole device and an equal
part of the memory of the node. The memory in use on all devices together is no more than that of
the node, and the totals of memory and cores never overflow. -/
theorem whole_use_within_memory {name : String} {devices : List Device} {n : Node}
    (hnode : Node.ofDevices name devices = .ok n) (hids : (devices.map Device.id).Nodup)
    (hidle : ∀ d ∈ devices, d.Idle) {ops : List Operation}
    (hwhole : ∀ op ∈ ops, ∀ c ∈ op.containers, 100 ≤ c.cores) (commitsLeft : Option Nat) :
    let last := (Ledger.run ops ⟨n, commitsLeft⟩).node
    (∀ d ∈ last.devices, d.usedCores = 0 ∧ d.usedMemory = 0 ∨
      d.usedCores = 100 ∧ d.usedMemory = n.totalMemory / n.deviceCount) ∧
    Quantity.total (last.devices.map Device.usedMemory) ≤ n.totalMemory.toNat ∧
    (∃ memory, last.usedMemory = .ok memory ∧ memory ≤ n.totalMemory) ∧
    ∃ cores, last.usedCores = .ok cores := by
  intro last
  obtain ⟨rfl, hcount⟩ := Node.deviceCount_of_ofDevices hnode hids
  have hdevices : ∀ d ∈ last.devices, d.IdleOrWhole n.quota :=
    idleOrWhole_run (l := ⟨n, commitsLeft⟩) hids hidle hwhole
  have hlength : last.devices.length = n.deviceCount.toNat := by
    have hlast := congrArg List.length (Ledger.sameFrame_run ops ⟨n, commitsLeft⟩).ids
    rw [List.length_map, List.length_map] at hlast
    rw [hcount]
    exact hlast
  have hmemory : Quantity.total (last.devices.map Device.usedMemory) ≤ n.totalMemory.toNat := by
    calc Quantity.total (last.devices.map Device.usedMemory)
        ≤ last.devices.length * n.quota.toNat :=
          Quantity.total_map_le fun d hd => (hdevices d hd).usedMemory_le
      _ = n.deviceCount.toNat * n.quota.toNat := by rw [hlength]
      _ ≤ n.totalMemory.toNat := n.deviceCount_mul_quota_le
  have hcores : Quantity.total (last.devices.map Device.usedCores) < UInt64.size := by
    calc Quantity.total (last.devices.map Device.usedCores)
        ≤ last.devices.length * wholeDevice.toNat :=
          Quantity.total_map_le fun d hd => (hdevices d hd).usedCores_le
      _ ≤ UInt32.size * wholeDevice.toNat :=
          Nat.mul_le_mul_right _ (by rw [hlength, hcount]; exact Node.length_le_of_nodup hids)
      _ < UInt64.size := by decide
  refine ⟨fun d hd => ?_, hmemory, ?_, ?_⟩
  · rw [← n.quota_eq_div]
    exact (hdevices d hd).used
  · obtain ⟨t, hsum, ht⟩ := Quantity.exists_sum?_of_lt (hmemory.trans_lt n.totalMemory.toNat_lt)
    refine ⟨t, ?_, UInt64.le_iff_toNat_le.mpr (ht ▸ hmemory)⟩
    rw [Node.usedMemory, hsum, Option.elim_some]
  · obtain ⟨t, hsum, -⟩ := Quantity.exists_sum?_of_lt hcores
    refine ⟨t, ?_⟩
    rw [Node.usedCores, hsum, Option.elim_some]

/-- Three devices of 10, 20 and 71 units of memory. A workload takes two of them whole; another one
takes the third and is refused for lack of a fourth, time passes, and a workload is given back that
was never placed but names the first booking. Two parts of 33 units are in use, more than either of
the smaller devices has, and less than the 101 units of the node. -/
theorem whole_use_within_memory_uneven :
    let devices : List Device := [{ id := 4, totalCores := 100, totalMemory := 10 },
      { id := 2, totalCores := 100, totalMemory := 20 },
      { id := 7, totalCores := 150, totalMemory := 71 }]
    let n : Node := ⟨"node", 101, 3, devices⟩
    let pair : Workload := { uid := ⟨1⟩, name := "pair", containers := [.withGpu "two" 200 5] }
    let large : Workload := { uid := ⟨2⟩, name := "large"
                              containers := [.withGpu "one" 100 0, .withGpu "more" 101 0] }
    let forged : Workload :=
      ({ uid := ⟨3⟩, name := "forged", containers := [.withGpu "one" 100 0] } : Workload)
        |>.annotateWith (Annotations.deviceList 0) "4"
    let ops : List Operation := [.demand (.allocate {} (some 0) pair),
      .demand (.isAllocatable { capacityFilter := true } large), .age 7, .release forged]
    let last := (Ledger.run ops ⟨n, none⟩).node
    (Node.ofDevices "node" devices = .ok n ∧ last.devices.map Device.usedMemory = [0, 33, 33]) ∧
    (∀ d ∈ last.devices, d.usedCores = 0 ∧ d.usedMemory = 0 ∨
      d.usedCores = 100 ∧ d.usedMemory = n.totalMemory / n.deviceCount) ∧
    ∃ memory, last.usedMemory = .ok memory ∧ memory ≤ n.totalMemory := by
  intro devices n pair large forged ops last
  have hnode : Node.ofDevices "node" devices = .ok n := by decide +kernel
  have hwhole : ∀ op ∈ ops, ∀ c ∈ op.containers, 100 ≤ c.cores := by decide
  obtain ⟨hdevices, -, hmemory, -⟩ :=
    whole_use_within_memory hnode (by decide) (by decide) hwhole none
  exact ⟨⟨hnode, by decide +kernel⟩, hdevices, hmemory⟩

end GpuLedger
