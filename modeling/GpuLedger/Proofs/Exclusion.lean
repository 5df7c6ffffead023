import GpuLedger.Proofs.Capacity

/-!
# Whole Devices

A booking of a whole device is meant to have the device to itself. This module shows what is
kept of that when shared and exclusive placements are mixed and workloads are given back in any
order, starting from idle devices.

Under any policies a whole booking is made on a device that is idle at that moment, so it is the
oldest booking of its device and the only whole one (`Device.WholeFirst`). Others may join it:
without the capacity filter a shared placement looks at no counter. With the filter it is
alone (`Device.WholeAlone`), provided that a device has no more than the cores of a whole device
and that no container without cores is placed: the counter of the device then says that nothing
is free, and it says so because it is balanced (`Device.CoresBalanced`).

## Main results

* `Policy.Admits.idle_of_whole` — only idle devices are booked whole;
* `kept_wholeFirst` and `kept_wholeAlone` — the two properties are kept by single steps;
* `whole_bookings_exclusive` — both properties over whole sessions.
-/

namespace GpuLedger

/-- An amount of a whole device. -/
def Amount.Whole (a : Amount) : Prop := a.vcore = wholeDevice

instance (a : Amount) : Decidable a.Whole := inferInstanceAs (Decidable (_ = _))

namespace Device

/-- Only the oldest booking may be of the whole device. -/
def WholeFirst (d : Device) : Prop := ∀ a ∈ d.amounts.tail, ¬ a.Whole

/-- A booking of the whole device is the only one. -/
def WholeAlone (d : Device) : Prop := ∀ a ∈ d.amounts, a.Whole → d.amounts = [a]

variable {d : Device} {a : Amount}

/-- An idle device has no amounts booked. -/
theorem Idle.amounts_eq (h : d.Idle) : d.amounts = [] := by
  rw [amounts, h.2.2, List.map_nil]

/-! ### Only the oldest booking -/

/-- Taking an amount away leaves behind the first only what stood behind it before. -/
theorem tail_erase_subset (a : Amount) (as : List Amount) : (as.erase a).tail ⊆ as.tail := by
  cases as with
  | nil => exact List.Subset.refl _
  | cons b rest =>
      by_cases hb : b = a
      · subst hb
        rw [List.erase_cons_head]
        exact fun x hx => List.mem_of_mem_tail hx
      · have hkept : (b :: rest).erase a = b :: rest.erase a := by
          rw [List.erase_cons_tail (by simpa using hb)]
        rw [hkept]
        exact List.erase_subset

/-- What is booked is not of the whole device, unless the device was idle and it is the first. -/
theorem WholeFirst.book (h : d.WholeFirst) (hidle : a.Whole → d.Idle) :
    (d.book a).WholeFirst := by
  intro x hx hwhole
  rw [amounts_book] at hx
  cases has : d.amounts with
  | nil =>
      rw [has] at hx
      exact absurd hx List.not_mem_nil
  | cons first rest =>
      rw [has, List.cons_append, List.tail_cons] at hx
      rcases List.mem_append.mp hx with hx | hx
      · exact h x (by rwa [has]) hwhole
      · obtain rfl := List.mem_singleton.mp hx
        have hnone := (hidle hwhole).amounts_eq
        rw [has] at hnone
        cases hnone

/-- No booking of the whole device comes behind another one because one is given back. -/
theorem WholeFirst.unbook (h : d.WholeFirst) (a : Amount) : (d.unbook a).WholeFirst := by
  intro x hx
  rw [amounts_unbook] at hx
  exact h x (tail_erase_subset a d.amounts hx)

/-- The order of the bookings does not change with time. -/
theorem WholeFirst.age (h : d.WholeFirst) (time : Quantity) : (d.age time).WholeFirst := by
  rw [WholeFirst, amounts_age]
  exact h

/-- There is at most one booking of the whole device, and it is the oldest. -/
theorem WholeFirst.bookings (h : d.WholeFirst) :
    d.bookings.countP (·.amount.Whole) ≤ 1 ∧
      ∀ b ∈ d.bookings, b.amount.Whole → d.bookings.head? = some b := by
  rw [WholeFirst, amounts] at h
  cases hbs : d.bookings with
  | nil => exact ⟨Nat.zero_le _, fun b hb => absurd hb List.not_mem_nil⟩
  | cons first rest =>
      rw [hbs, List.map_cons, List.tail_cons] at h
      have hrest : ∀ b ∈ rest, ¬ b.amount.Whole := fun b hb =>
        h b.amount (List.mem_map.mpr ⟨b, hb, rfl⟩)
      constructor
      · have hnone : rest.countP (·.amount.Whole) = 0 :=
          List.countP_eq_zero.mpr fun b hb => by simpa using hrest b hb
        rw [List.countP_cons, hnone]
        split <;> omega
      · intro b hb hwhole
        rcases List.mem_cons.mp hb with rfl | hb
        · rfl
        · exact absurd hwhole (hrest b hb)

/-! ### The only booking -/

/-- On a balanced device with no more than the cores of a whole device, nothing is free beside a
whole booking. -/
theorem allocatableCores_of_whole (hcores : d.CoresBalanced) (htotal : d.totalCores ≤ wholeDevice)
    (hwhole : a.Whole) (has : d.amounts = [a]) : d.allocatableCores = 0 := by
  obtain ⟨hused, -⟩ := hcores
  have hfree := Quantity.toNat_subSat d.totalCores d.usedCores
  have hone : d.usedCores.toNat = wholeDevice.toNat := by
    rw [hused, has]
    exact congrArg UInt64.toNat hwhole
  have hle : d.totalCores.toNat ≤ wholeDevice.toNat := UInt64.le_iff_toNat_le.mp htotal
  refine UInt64.toNat_inj.mp ?_
  rw [allocatableCores, hfree, hone, UInt64.toNat_zero]
  omega

/-- A booking of the whole device has left no cores free for another one. -/
theorem WholeAlone.book (h : d.WholeAlone) (hcores : d.CoresBalanced)
    (htotal : d.totalCores ≤ wholeDevice) (hidle : a.Whole → d.Idle) (hpos : 0 < a.vcore)
    (hfree : a.vcore ≤ d.allocatableCores) : (d.book a).WholeAlone := by
  intro x hx hwhole
  rw [amounts_book] at hx ⊢
  rcases List.mem_append.mp hx with hx | hx
  · have hnone := allocatableCores_of_whole hcores htotal hwhole (h x hx hwhole)
    rw [hnone, UInt64.le_iff_toNat_le] at hfree
    rw [UInt64.lt_iff_toNat_lt] at hpos
    omega
  · obtain rfl := List.mem_singleton.mp hx
    rw [(hidle hwhole).amounts_eq, List.nil_append]

/-- A booking of the whole device is still the only one after something is given back. -/
theorem WholeAlone.unbook (h : d.WholeAlone) (ha : a ∈ d.amounts) : (d.unbook a).WholeAlone := by
  intro x hx hwhole
  rw [amounts_unbook] at hx
  have hone := h x (List.mem_of_mem_erase hx) hwhole
  rw [hone] at ha hx
  obtain rfl := List.mem_singleton.mp ha
  rw [List.erase_cons_head] at hx
  exact absurd hx List.not_mem_nil

/-- A booking of the whole device is still the only one after time has passed. -/
theorem WholeAlone.age (h : d.WholeAlone) (time : Quantity) : (d.age time).WholeAlone := by
  rw [WholeAlone, amounts_age]
  exact h

/-- A whole booking is the only booking. -/
theorem WholeAlone.bookings (h : d.WholeAlone) :
    ∀ b ∈ d.bookings, b.amount.Whole → d.bookings = [b] := by
  intro b hb hwhole
  have hone := h b.amount (List.mem_map.mpr ⟨b, hb, rfl⟩) hwhole
  obtain ⟨b', hbs, -⟩ := List.map_eq_singleton_iff.mp hone
  rw [hbs] at hb ⊢
  rw [List.mem_singleton.mp hb]

end Device

/-! ### Where whole devices are booked -/

/-- **Only idle devices are booked whole**, under any policy. -/
theorem Policy.Admits.idle_of_whole {policy : Policy} {r : Request} {n : Node} {e : Entry}
    (h : policy.Admits r n e) :
    ∃ d, n.device? e.device = some d ∧ (e.amount.Whole → d.Idle) := by
  cases h with
  | @share d hmode hfirst hroom =>
      refine ⟨d, hfirst, fun hwhole => ?_⟩
      have hpart : r.cores < wholeDevice := by
        by_contra hnot
        rw [Request.mode, if_neg hnot] at hmode
        cases hmode
      rw [Amount.Whole, Request.amount, hmode] at hwhole
      exact absurd hwhole (UInt64.ne_of_lt hpart)
  | @exclusive d hmode hfirst hvacant => exact ⟨d, hfirst, fun _ => hvacant.1⟩

/-- Only idle devices are booked whole, by any operation. -/
theorem Operation.Admits.idle_of_whole {op : Operation} {n : Node} {e : Entry}
    (h : op.Admits n e) :
    ∃ d, n.device? e.device = some d ∧ (e.amount.Whole → d.Idle) := by
  obtain ⟨d, r, rfl, -, hadmits⟩ := h.exists_demand
  exact hadmits.idle_of_whole

/-- A container that is placed by itself asks for cores. Those of a workload are only placed if
they do. -/
def Operation.PlacesGpu : Operation → Prop
  | demand (.placeOne _ _ _ c) => c.RequestsGpu
  | _ => True

instance : (op : Operation) → Decidable op.PlacesGpu
  | .demand (.placeOne _ _ _ c) => inferInstanceAs (Decidable c.RequestsGpu)
  | .demand (.allocate _ _ _) | .demand (.isAllocatable _ _) | .demand (.isFeasible _ _)
  | .demand (.dryRun _ _) | .release _ | .age _ => .isTrue trivial

/-- Where containers without cores are left out, nothing is booked without cores. -/
theorem Operation.Admits.vcore_pos {op : Operation} {n : Node} {e : Entry} (h : op.Admits n e)
    (hgpu : op.PlacesGpu) : 0 < e.amount.vcore := by
  obtain ⟨d, r, rfl, hasks, hadmits⟩ := h.exists_demand
  have hcores : 0 < r.cores := by
    cases d with
    | placeOne policy w index c =>
        rw [Workload.cores_of_request hasks]
        exact hgpu
    | allocate policy clock w => exact hasks
    | isAllocatable policy w => exact hasks
    | isFeasible policy w => exact hasks
    | dryRun policy w => exact hasks
  cases hadmits with
  | share hmode _ _ => simpa only [Request.amount, hmode] using hcores
  | exclusive hmode _ _ =>
      simp only [Request.amount, hmode]
      decide

/-- An amount that takes some of the free cores of a device, and the whole device only if it is
idle. -/
def Device.CanTake (d : Device) (a : Amount) : Prop :=
  (a.Whole → d.Idle) ∧ 0 < a.vcore ∧ a.vcore ≤ d.allocatableCores

/-- With the filter, and where containers without cores are left out, devices can take what is
booked on them. -/
theorem Operation.Admits.canTake {op : Operation} {n : Node} {e : Entry} (h : op.Admits n e)
    (hfilter : ∀ p ∈ op.policy?, p.capacityFilter = true) (hgpu : op.PlacesGpu) :
    ∃ d, n.device? e.device = some d ∧ d.CanTake e.amount := by
  obtain ⟨d, hd, hidle⟩ := h.idle_of_whole
  obtain ⟨d', hd', hfree, -⟩ := h.hasFree hfilter
  obtain rfl : d = d' := Option.some.inj (hd.symm.trans hd')
  exact ⟨d, hd, hidle, h.vcore_pos hgpu, hfree⟩

/-! ### What is kept -/

/-- Whole bookings on idle devices stay the oldest of their devices. -/
theorem kept_wholeFirst (quota : Quantity) :
    Kept (fun n e => n.quota = quota →
        ∃ d, n.device? e.device = some d ∧ (e.amount.Whole → d.Idle))
      (fun n => n.quota = quota ∧ ∀ d ∈ n.devices, d.WholeFirst) := by
  refine kept_of_devices (fun d a => a.Whole → d.Idle) Device.WholeFirst quota ?_ ?_ ?_
  · exact fun d a hfirst hidle => hfirst.book hidle
  · exact fun d a _ hfirst => hfirst.unbook a
  · exact fun d time hfirst => hfirst.age time

/-- Whole bookings on idle devices stay alone, where what is free is known and every booking
takes some of it. -/
theorem kept_wholeAlone (quota : Quantity) :
    Kept (fun n e => n.quota = quota →
        ∃ d, n.device? e.device = some d ∧ d.CanTake e.amount)
      (fun n => n.quota = quota ∧ ∀ d ∈ n.devices,
        d.totalCores ≤ wholeDevice ∧ d.CoresBalanced ∧ d.WholeAlone) := by
  refine kept_of_devices Device.CanTake _ quota ?_ ?_ ?_
  · rintro d a ⟨htotal, hcores, halone⟩ ⟨hidle, hpos, hfree⟩
    exact ⟨htotal, hcores.book hfree, halone.book hcores htotal hidle hpos hfree⟩
  · rintro d a ha ⟨htotal, hcores, halone⟩
    refine ⟨?_, hcores.unbook ha, halone.unbook ha⟩
    rwa [Device.unbook_of_mem ha]
  · rintro d time ⟨htotal, hcores, halone⟩
    exact ⟨htotal, hcores.age time, halone.age time⟩

/-! ### Sessions that start from idle devices -/

section Idle

variable {l : Ledger} {ops : List Operation}

/-- In every session whole bookings are the oldest of their devices. -/
theorem wholeFirst_run (hids : (l.node.devices.map Device.id).Nodup)
    (hidle : ∀ d ∈ l.node.devices, d.Idle) : ∀ d ∈ (l.run ops).node.devices, d.WholeFirst := by
  have hstart : ∀ d ∈ l.node.devices, d.WholeFirst := by
    intro d hd a ha
    rw [(hidle d hd).amounts_eq] at ha
    exact absurd ha List.not_mem_nil
  have hallowed : ∀ op ∈ ops, ∀ n e, op.Admits n e → n.quota = l.node.quota →
      ∃ d, n.device? e.device = some d ∧ (e.amount.Whole → d.Idle) :=
    fun op _ n e hadmits _ => hadmits.idle_of_whole
  exact ((kept_wholeFirst l.node.quota).run hids hallowed ⟨rfl, hstart⟩).2

/-- Whatever has happened before, a demand books whole devices that are idle at that moment. -/
theorem posts_idle_of_whole (hids : (l.node.devices.map Device.id).Nodup) (demand : Demand) :
    Ledger.Posts (fun n e => e.amount.Whole → ∃ d, n.device? e.device = some d ∧ d.Idle)
      (l.run ops) (demand.booked (l.run ops)) (demand.perform (l.run ops)) := by
  have hdistinct : ((l.run ops).node.devices.map Device.id).Nodup :=
    kept_distinct.run hids (fun _ _ _ _ _ => trivial) hids
  refine (Ledger.posts_demand_admitted hdistinct demand).mono ?_
  rintro n e ⟨r, -, hadmits⟩ hwhole
  obtain ⟨d, hd, hidle⟩ := hadmits.idle_of_whole
  exact ⟨d, hd, hidle hwhole⟩

/-- In every session with the filter whole bookings are alone, where no device has more than the
cores of a whole device and no container without cores is placed. -/
theorem wholeAlone_run (hids : (l.node.devices.map Device.id).Nodup)
    (hidle : ∀ d ∈ l.node.devices, d.Idle)
    (hfilter : ∀ op ∈ ops, ∀ p ∈ op.policy?, p.capacityFilter = true)
    (htotal : ∀ d ∈ l.node.devices, d.totalCores ≤ wholeDevice)
    (hgpu : ∀ op ∈ ops, op.PlacesGpu) : ∀ d ∈ (l.run ops).node.devices, d.WholeAlone := by
  have hstart : ∀ d ∈ l.node.devices,
      d.totalCores ≤ wholeDevice ∧ d.CoresBalanced ∧ d.WholeAlone := by
    intro d hd
    have hnone := (hidle d hd).amounts_eq
    refine ⟨htotal d hd, ?_, ?_⟩
    · rw [Device.CoresBalanced, hnone, (hidle d hd).1]
      exact ⟨rfl, UInt64.zero_le⟩
    · intro a ha
      rw [hnone] at ha
      exact absurd ha List.not_mem_nil
  have hallowed : ∀ op ∈ ops, ∀ n e, op.Admits n e → n.quota = l.node.quota →
      ∃ d, n.device? e.device = some d ∧ d.CanTake e.amount :=
    fun op hop n e hadmits _ => hadmits.canTake (hfilter op hop) (hgpu op hop)
  have hrun := (kept_wholeAlone l.node.quota).run hids hallowed ⟨rfl, hstart⟩
  intro d hd
  exact (hrun.2 d hd).2.2

/-- **Whole devices are exclusive.** In every session that starts from idle devices, a device has
at most one booking of the whole device, which is its oldest booking; every such booking is made
on a device that is idle at that moment; and if all policies have the capacity filter, no device
has more than the cores of a whole device and no container without cores is placed, it is the
only booking of its device as long as it is there. -/
theorem whole_bookings_exclusive (hids : (l.node.devices.map Device.id).Nodup)
    (hidle : ∀ d ∈ l.node.devices, d.Idle) :
    (∀ d ∈ (l.run ops).node.devices, d.bookings.countP (·.amount.Whole) ≤ 1 ∧
      ∀ b ∈ d.bookings, b.amount.Whole → d.bookings.head? = some b) ∧
    (∀ demand : Demand, Ledger.Posts
      (fun n e => e.amount.Whole → ∃ d, n.device? e.device = some d ∧ d.Idle)
      (l.run ops) (demand.booked (l.run ops)) (demand.perform (l.run ops))) ∧
    ((∀ op ∈ ops, ∀ p ∈ op.policy?, p.capacityFilter = true) →
      (∀ d ∈ l.node.devices, d.totalCores ≤ wholeDevice) → (∀ op ∈ ops, op.PlacesGpu) →
      ∀ d ∈ (l.run ops).node.devices, ∀ b ∈ d.bookings, b.amount.Whole → d.bookings = [b]) := by
  refine ⟨?_, ?_, ?_⟩
  · intro d hd
    exact (wholeFirst_run hids hidle d hd).bookings
  · intro demand
    exact posts_idle_of_whole hids demand
  · intro hfilter htotal hgpu d hd
    exact (wholeAlone_run hids hidle hfilter htotal hgpu d hd).bookings

/-- A session on two idle devices: a workload with an exclusive and a shared container, another
container placed by itself, and a release that takes one of the two shared bookings away. -/
theorem whole_bookings_exclusive_mixed :
    let l : Ledger := ⟨⟨"node", 32, 2,
      [{ id := 0, totalCores := 100, totalMemory := 16 },
       { id := 1, totalCores := 100, totalMemory := 16 }]⟩, none⟩
    let filter : Policy := { capacityFilter := true }
    let pair : Workload :=
      { uid := ⟨1⟩, name := "pair"
        containers := [.withGpu "whole" 100 0, .withGpu "part" 40 4] }
    let part : Workload :=
      ({ uid := ⟨2⟩, name := "part", containers := [.withGpu "part" 40 4] } : Workload)
        |>.annotateWith (Annotations.deviceList 0) "1"
    let ops : List Operation := [.demand (.isAllocatable filter pair), .age 7,
      .demand (.placeOne filter pair 1 (.withGpu "other" 30 4)), .release part]
    (l.run ops).node.devices.map (fun d => d.amounts.map Amount.vcore) = [[100], [30]] ∧
      (∀ d ∈ (l.run ops).node.devices, d.bookings.countP (·.amount.Whole) ≤ 1 ∧
        ∀ b ∈ d.bookings, b.amount.Whole → d.bookings.head? = some b) ∧
      ∀ d ∈ (l.run ops).node.devices, ∀ b ∈ d.bookings, b.amount.Whole → d.bookings = [b] := by
  refine ⟨by decide +kernel, ?_, ?_⟩
  · exact (whole_bookings_exclusive (by decide) (by decide)).1
  · exact (whole_bookings_exclusive (by decide) (by decide)).2.2 (by decide) (by decide)
      (by decide)

end Idle

end GpuLedger
