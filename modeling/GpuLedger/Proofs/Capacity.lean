import GpuLedger.Proofs.Session

/-!
# Capacity

With the capacity filter no device is ever overbooked. The filter itself only looks at shared
placements; an exclusive one is safe because it goes to a vacant device and holds there the
quota of the node, which is taken to be no more than the memory of any device. What carries the
argument is that a counter is the exact total of what is booked and within the capacity
(`Balanced`): then the free capacity that a placement looks at is really free, no sum reaches
the greatest quantity, and a booking that is given back lowers the counter by what it had added.

## Main results

* `Balanced.append` and `Balanced.erase` — booking what is free and giving back what is booked
  keep a counter balanced;
* `Policy.Admits.hasFree` — what a policy with the filter admits is free on the device it goes to;
* `devices_balanced_run` — no session overbooks a device.
-/

namespace GpuLedger

namespace Quantity

/-- The total of two lists together is the sum of their totals. -/
theorem total_append (ps qs : List Quantity) : total (ps ++ qs) = total ps + total qs := by
  induction ps with
  | nil => exact (Nat.zero_add _).symm
  | cons p rest ih => simp only [List.cons_append, total, ih]; omega

/-- The total does not depend on the order. -/
theorem total_perm {ps qs : List Quantity} (h : ps.Perm qs) : total ps = total qs := by
  induction h with
  | nil => rfl
  | cons q _ ih => simp only [total, ih]
  | swap p q rest => simp only [total]; omega
  | trans _ _ ih₁ ih₂ => exact ih₁.trans ih₂

end Quantity

/-! ### Balanced counters -/

/-- A counter is the exact total of what is booked, and within the capacity. -/
def Balanced (used capacity : Quantity) (booked : List Quantity) : Prop :=
  used.toNat = Quantity.total booked ∧ used ≤ capacity

instance (used capacity : Quantity) (booked : List Quantity) :
    Decidable (Balanced used capacity booked) :=
  inferInstanceAs (Decidable (_ ∧ _))

namespace Balanced

variable {used capacity : Quantity}

/-- Booking what is free keeps a counter balanced: the sum is exact. -/
theorem append {booked : List Quantity} (h : Balanced used capacity booked) {q : Quantity}
    (hfree : q ≤ Quantity.subSat capacity used) :
    Balanced (Quantity.addSat used q) capacity (booked ++ [q]) := by
  obtain ⟨htotal, hle⟩ := h
  have hsum := Quantity.toNat_addSat used q
  have hcapacity := capacity.toNat_lt
  have hused : used.toNat ≤ capacity.toNat := UInt64.le_iff_toNat_le.mp hle
  have hroom : q.toNat ≤ capacity.toNat - used.toNat := by
    rw [← Quantity.toNat_subSat]
    exact UInt64.le_iff_toNat_le.mp hfree
  have hexact : (Quantity.addSat used q).toNat = used.toNat + q.toNat := by
    rw [hsum, UInt64.size]
    omega
  constructor
  · rw [hexact, Quantity.total_append, htotal]
    rfl
  · rw [UInt64.le_iff_toNat_le, hexact]
    omega

/-- Giving back what is booked keeps a counter balanced: it falls by what the booking had
added. -/
theorem erase {amounts : List Amount} {f : Amount → Quantity}
    (h : Balanced used capacity (amounts.map f)) {a : Amount} (ha : a ∈ amounts) :
    Balanced (Quantity.subSat used (f a)) capacity ((amounts.erase a).map f) := by
  obtain ⟨htotal, hle⟩ := h
  have hdiff := Quantity.toNat_subSat used (f a)
  have hsplit : Quantity.total (amounts.map f)
      = (f a).toNat + Quantity.total ((amounts.erase a).map f) :=
    Quantity.total_perm ((List.perm_cons_erase ha).map f)
  have hused : used.toNat ≤ capacity.toNat := UInt64.le_iff_toNat_le.mp hle
  constructor
  · omega
  · rw [UInt64.le_iff_toNat_le]
    omega

end Balanced

namespace Device

/-- The cores in use are those that are booked, and no more than the device has. -/
def CoresBalanced (d : Device) : Prop :=
  Balanced d.usedCores d.totalCores (d.amounts.map Amount.vcore)

/-- The memory in use is what is booked, and no more than the device has. -/
def MemoryBalanced (d : Device) : Prop :=
  Balanced d.usedMemory d.totalMemory (d.amounts.map Amount.vmemory)

instance (d : Device) : Decidable d.CoresBalanced := inferInstanceAs (Decidable (Balanced _ _ _))

instance (d : Device) : Decidable d.MemoryBalanced := inferInstanceAs (Decidable (Balanced _ _ _))

variable {d : Device} {a : Amount}

/-- The cores stay in balance when no more of them are booked than are free. -/
theorem CoresBalanced.book (h : d.CoresBalanced) (hfree : a.vcore ≤ d.allocatableCores) :
    (d.book a).CoresBalanced := by
  rw [CoresBalanced, amounts_book, List.map_append]
  exact h.append hfree

/-- The memory stays in balance when no more of it is booked than is free. -/
theorem MemoryBalanced.book (h : d.MemoryBalanced) (hfree : a.vmemory ≤ d.allocatableMemory) :
    (d.book a).MemoryBalanced := by
  rw [MemoryBalanced, amounts_book, List.map_append]
  exact h.append hfree

/-- The cores stay in balance when a booking is given back. -/
theorem CoresBalanced.unbook (h : d.CoresBalanced) (ha : a ∈ d.amounts) :
    (d.unbook a).CoresBalanced := by
  rw [CoresBalanced, amounts_unbook, unbook_of_mem ha]
  exact h.erase ha

/-- The memory stays in balance when a booking is given back. -/
theorem MemoryBalanced.unbook (h : d.MemoryBalanced) (ha : a ∈ d.amounts) :
    (d.unbook a).MemoryBalanced := by
  rw [MemoryBalanced, amounts_unbook, unbook_of_mem ha]
  exact h.erase ha

/-- The cores stay in balance as time passes. -/
theorem CoresBalanced.age (h : d.CoresBalanced) (time : Quantity) :
    (d.age time).CoresBalanced := by
  rw [CoresBalanced, amounts_age]
  exact h

/-- The memory stays in balance as time passes. -/
theorem MemoryBalanced.age (h : d.MemoryBalanced) (time : Quantity) :
    (d.age time).MemoryBalanced := by
  rw [MemoryBalanced, amounts_age]
  exact h

end Device

/-! ### What the filter lets through -/

/-- An amount that is free on a device. Its memory is known to be free only as far as the quota
of the node is within the memory of the device. -/
def Device.HasFree (quota : Quantity) (d : Device) (a : Amount) : Prop :=
  a.vcore ≤ d.allocatableCores ∧ (quota ≤ d.totalMemory → a.vmemory ≤ d.allocatableMemory)

/-- **What a policy with the filter admits is free** on the device it goes to: a shared
placement has been held against the filter, and a vacant device has everything free. -/
theorem Policy.Admits.hasFree {policy : Policy} {r : Request} {n : Node} {e : Entry}
    (h : policy.Admits r n e) (hfilter : policy.capacityFilter = true) :
    ∃ d, n.device? e.device = some d ∧ d.HasFree n.quota e.amount := by
  cases h with
  | @share d hmode hfirst hroom =>
      obtain ⟨hcores, hmemory⟩ := hroom hfilter
      refine ⟨d, hfirst, ?_, fun _ => ?_⟩
      · simpa only [Request.amount, hmode] using hcores
      · simpa only [Request.amount, hmode] using hmemory
  | @exclusive d hmode hfirst hvacant =>
      obtain ⟨⟨-, hnone, -⟩, hwhole⟩ := hvacant
      have hall : d.allocatableMemory = d.totalMemory := by
        rw [Device.allocatableMemory, hnone]
        exact UInt64.toNat_inj.mp (Quantity.toNat_subSat _ _)
      refine ⟨d, hfirst, ?_, fun hquota => ?_⟩
      · simpa only [Request.amount, hmode] using hwhole
      · simpa only [Request.amount, hmode, hall] using hquota

/-- What an operation with the filter books is free on the device it goes to. -/
theorem Operation.Admits.hasFree {op : Operation} {n : Node} {e : Entry} (h : op.Admits n e)
    (hfilter : ∀ p ∈ op.policy?, p.capacityFilter = true) :
    ∃ d, n.device? e.device = some d ∧ d.HasFree n.quota e.amount := by
  obtain ⟨d, r, rfl, -, hadmits⟩ := h.exists_demand
  exact hadmits.hasFree (hfilter d.policy rfl)

/-! ### Sessions with the filter -/

/-- Booking what is free, giving back what is booked and the passing of time keep all devices
balanced. -/
theorem kept_balanced (quota : Quantity) :
    Kept (fun n e => n.quota = quota →
        ∃ d, n.device? e.device = some d ∧ d.HasFree quota e.amount)
      (fun n => n.quota = quota ∧
        ∀ d ∈ n.devices, quota ≤ d.totalMemory ∧ d.CoresBalanced ∧ d.MemoryBalanced) := by
  refine kept_of_devices (fun d a => d.HasFree quota a) _ quota ?_ ?_ ?_
  · rintro d a ⟨hquota, hcores, hmemory⟩ ⟨hfreeCores, hfreeMemory⟩
    exact ⟨hquota, hcores.book hfreeCores, hmemory.book (hfreeMemory hquota)⟩
  · rintro d a ha ⟨hquota, hcores, hmemory⟩
    refine ⟨?_, hcores.unbook ha, hmemory.unbook ha⟩
    rwa [Device.unbook_of_mem ha]
  · rintro d time ⟨hquota, hcores, hmemory⟩
    exact ⟨hquota, hcores.age time, hmemory.age time⟩

/-- **No session with the capacity filter overbooks a device.** Whatever is placed, given back
or left to age, in any order: on every device the counters are the exact totals of what is
booked and no more than what the device has. -/
theorem devices_balanced_run {l : Ledger} {ops : List Operation}
    (hids : (l.node.devices.map Device.id).Nodup)
    (hquota : ∀ d ∈ l.node.devices, l.node.quota ≤ d.totalMemory)
    (hbalanced : ∀ d ∈ l.node.devices, d.CoresBalanced ∧ d.MemoryBalanced)
    (hfilter : ∀ op ∈ ops, ∀ p ∈ op.policy?, p.capacityFilter = true) :
    ∀ d ∈ (l.run ops).node.devices, d.CoresBalanced ∧ d.MemoryBalanced := by
  have hallowed : ∀ op ∈ ops, ∀ n e, op.Admits n e → n.quota = l.node.quota →
      ∃ d, n.device? e.device = some d ∧ d.HasFree l.node.quota e.amount := by
    intro op hop n e hadmits hsame
    rw [← hsame]
    exact hadmits.hasFree (hfilter op hop)
  have hrun := (kept_balanced l.node.quota).run hids hallowed
    ⟨rfl, fun d hd => ⟨hquota d hd, hbalanced d hd⟩⟩
  intro d hd
  exact (hrun.2 d hd).2

/-- A session on a node of two devices, one of them taken in part: a workload with an exclusive
and a shared container, the same again to see whether it fits, and a release of a workload that
was never placed but names the booking that was there. -/
theorem devices_balanced_run_mixed :
    let l : Ledger := ⟨⟨"node", 32, 2,
      [{ id := 0, totalCores := 100, totalMemory := 16, usedCores := 30, usedMemory := 4
         bookings := [⟨⟨30, 4, 60⟩, 5⟩] },
       { id := 1, totalCores := 100, totalMemory := 16 }]⟩, none⟩
    let filter : Policy := { capacityFilter := true }
    let pair : Workload :=
      { uid := ⟨1⟩, name := "pair"
        containers := [.withGpu "whole" 100 0, .withGpu "part" 70 12] }
    let forged : Workload :=
      ({ uid := ⟨2⟩, name := "forged", containers := [.withGpu "part" 30 4] } : Workload)
        |>.annotateWith (Annotations.estimatedTime 0) "60"
        |>.annotateWith (Annotations.deviceList 0) "0"
    let ops : List Operation := [.demand (.allocate filter (some 0) pair), .age 7,
      .demand (.isFeasible filter pair), .release forged]
    (∀ op ∈ ops, ∀ p ∈ op.policy?, p.capacityFilter = true) ∧
      ((l.run ops).node.devices.map Device.usedCores = [70, 100]) ∧
      ∀ d ∈ (l.run ops).node.devices, d.CoresBalanced ∧ d.MemoryBalanced := by
  refine ⟨by decide, by decide +kernel, ?_⟩
  exact devices_balanced_run (by decide) (by decide) (by decide) (by decide)

end GpuLedger
