import GpuLedger.Proofs.Effects
import GpuLedger.Proofs.Limits

/-!
# Placing One Container

On a node that takes any number of bookings, a container can be refused for two reasons only: its
estimate is there and is no quantity, or no device can take it. This module says exactly when each
of them happens (`Outcome.SettledBy`), in terms of the devices and not of their scores, and what has
been booked if neither does. Nothing is booked before a container can no longer be refused, so a
refusal leaves the node as it was.

Devices are chosen from the list of the node, but booked by their numbers, and a number stands for
the first device that has it. So the devices that are booked are the chosen ones where the numbers
are distinct (`Node.postAll_chosen`); otherwise they need not even be devices that could have been
chosen (`duplicate_numbers_misplace`).

## Main results

* `Workload.request_cases` — whether there is a request at all;
* `Node.postAll_chosen` — what is booked, device by device;
* `single_placement_settled` — when a container is refused, and what is booked if it is not.
-/

namespace GpuLedger

/-! ### Requests -/

/-- The estimate of the container at an index is there, and it is no quantity. -/
def Workload.Misestimates (w : Workload) (index : Nat) : Prop :=
  ∃ text, w.annotations.get? (Annotations.estimatedTime index) = some text ∧
    ∀ time : Quantity, Decimal.readQuantity (Text.trim text.toList) ≠ .ok time

/-- **There is a request** for a container, of what it asks for, unless its estimate is no
quantity. -/
theorem Workload.request_cases (w : Workload) (index : Nat) (c : Container) :
    (w.Misestimates index ∧ ∃ fault, w.request index c = .error (.lookup fault)) ∨
      (¬ w.Misestimates index ∧ ∃ time, w.estimatedTime index = .ok time ∧
        w.request index c = .ok ⟨c.cores, c.memory, time⟩) := by
  rw [request, estimatedTime, Misestimates]
  cases w.annotations.get? (Annotations.estimatedTime index) with
  | none => exact .inr ⟨by simp, 0, rfl, rfl⟩
  | some text =>
      simp only [Option.some.injEq, exists_eq_left']
      cases Decimal.readQuantity (Text.trim text.toList) with
      | error fault => exact .inl ⟨by simp, _, rfl⟩
      | ok time => exact .inr ⟨fun h => h time rfl, time, rfl, rfl⟩

namespace Request

variable {r : Request}

/-- A request for the cores of a whole device needs one. -/
theorem devicesNeeded_pos (h : wholeDevice ≤ r.cores) : 0 < r.devicesNeeded := by
  have hcores : 100 ≤ r.cores.toNat := UInt64.le_iff_toNat_le.mp h
  have hwhole : wholeDevice.toNat = 100 := rfl
  rw [devicesNeeded, hwhole]
  omega

end Request

/-! ### What is booked -/

/-- What several devices have for a number when one amount is booked on each of them. -/
theorem Entry.amountsOn_map_id (id : DeviceId) (a : Amount) (ds : List Device) :
    amountsOn id (ds.map (⟨·.id, a⟩)) = List.replicate ((ds.map Device.id).count id) a := by
  induction ds with
  | nil => rfl
  | cons d rest ih =>
      rw [List.map_cons, List.map_cons]
      by_cases hd : d.id = id
      · subst hd
        rw [List.count_cons_self, List.replicate_succ, ← ih]
        exact amountsOn_cons_self ⟨d.id, a⟩ _
      · rw [List.count_cons_of_ne hd, ← ih]
        exact amountsOn_cons_of_ne hd _

/-- **Where numbers are distinct**, booking an amount under the numbers of some devices of a node
books it once on each of these devices and on no other. -/
theorem Node.postAll_chosen {n : Node} (hids : (n.devices.map Device.id).Nodup) {ds : List Device}
    (h : ds.Subperm n.devices) (a : Amount) :
    n.postAll (ds.map (⟨·.id, a⟩))
      = { n with devices := n.devices.map fun d => if d ∈ ds then d.book a else d } := by
  have hnodup : (ds.map Device.id).Nodup := by
    obtain ⟨es, hperm, hsub⟩ := h
    exact (hperm.map Device.id).nodup_iff.mp (hids.sublist (hsub.map Device.id))
  rw [postAll_eq, mapFirst_eq_map hids]
  refine congrArg (fun es => { n with devices := es }) (List.map_congr_left fun d hd => ?_)
  rw [Entry.amountsOn_map_id]
  split
  · next hmem =>
    rw [List.count_eq_one_of_mem hnodup (List.mem_map_of_mem hmem)]
    rfl
  · next hnew =>
    have hnone : d.id ∉ ds.map Device.id := by
      intro hmem
      obtain ⟨e, he, heq⟩ := List.mem_map.mp hmem
      obtain rfl : e = d := List.inj_on_of_nodup_map hids (h.subset he) hd heq
      exact hnew he
    rw [List.count_eq_zero_of_not_mem hnone]
    rfl

/-- A node after one amount has been booked for each of several of its devices: under their numbers,
and so on the devices themselves where the numbers are distinct. -/
structure Node.BookedFor (m n : Node) (ds : List Device) (a : Amount) : Prop where
  /-- What is booked are entries of this amount under the numbers of the devices. -/
  entries : m = n.withEntries (ds.map (⟨·.id, a⟩))
  /-- Distinct numbers: each of the devices is booked once, and no other device changes. -/
  distinct : (n.devices.map Device.id).Nodup →
    m = { n with devices := n.devices.map fun d => if d ∈ ds then d.withAmounts [a] else d }

/-- Entries of one amount for chosen devices are booked for them. -/
theorem Node.bookedFor_postAll {n : Node} {ds : List Device} (h : ds.Subperm n.devices)
    (a : Amount) : (n.postAll (ds.map (⟨·.id, a⟩))).BookedFor n ds a where
  entries := postAll_eq_withEntries _ n
  distinct := fun hids => by simp only [postAll_chosen hids h a, Device.book_eq]

/-! ### Placing one container -/

/-- What placing a container on a node comes to where bookings do not run out. -/
structure Outcome.SettledBy (o : Outcome Ledger Error Placement) (policy : Policy) (w : Workload)
    (index : Nat) (c : Container) (n : Node) : Prop where
  /-- The attributes of the workload are at fault exactly if the estimate is no quantity. -/
  lookup_iff : (∃ fault, o.result = .error (.lookup fault)) ↔ w.Misestimates index
  /-- Less than a whole device: refused exactly if there is no device at all, or under the filter
  none that has the cores and the memory free. -/
  share_iff : ¬ w.Misestimates index → c.cores < wholeDevice →
    (o.result = .error (.noFeasibleDevice c.name) ↔
      if policy.capacityFilter then
        ∀ d ∈ n.devices, ¬ (c.cores ≤ d.allocatableCores ∧ c.memory ≤ d.allocatableMemory)
      else n.devices = [])
  /-- Whole devices: refused exactly if fewer are vacant than have the cores between them. -/
  exclusive_iff : ¬ w.Misestimates index → wholeDevice ≤ c.cores →
    (o.result = .error (.noFeasibleDevice c.name) ↔
      (n.devices.countP fun d => decide (d.Idle ∧ 100 ≤ d.allocatableCores))
        < (c.cores.toNat + 99) / 100)
  /-- There is no other reason for a refusal. -/
  no_other_error : ∀ e, o.result = .error e →
    (∃ fault, e = .lookup fault) ∨ e = .noFeasibleDevice c.name
  /-- A refusal leaves the node as it was. -/
  unchanged : ∀ e, o.result = .error e → o.state = { node := n }
  /-- Less than a whole device: one booking of the request for one device, with room for it if
  the filter asks for that. -/
  share_books : ∀ p, o.result = .ok p → c.cores < wholeDevice →
    ∃ d time, d ∈ n.devices ∧ w.estimatedTime index = .ok time ∧
      (policy.capacityFilter →
        c.cores ≤ d.allocatableCores ∧ c.memory ≤ d.allocatableMemory) ∧
      p = ⟨index, c.name, .share, [d.id], c.cores, c.memory⟩ ∧
      o.state.commitsLeft = none ∧ o.state.node.BookedFor n [d] ⟨c.cores, c.memory, time⟩
  /-- Whole devices: a booking of the cores of a whole device for each of as many vacant devices as
  are needed, and of an equal part of the advertised memory, or of none where no device is
  advertised. -/
  exclusive_books : ∀ p, o.result = .ok p → wholeDevice ≤ c.cores →
    ∃ ds time memory, ds.Subperm n.devices ∧ ds.length = (c.cores.toNat + 99) / 100 ∧
      w.estimatedTime index = .ok time ∧
      (∀ d ∈ ds, d.Idle ∧ 100 ≤ d.allocatableCores) ∧
      memory = (if n.deviceCount = 0 then 0 else n.totalMemory / n.deviceCount) ∧
      p = ⟨index, c.name, .exclusive, ds.map Device.id, 100, memory⟩ ∧
      o.state.commitsLeft = none ∧ o.state.node.BookedFor n ds ⟨100, memory, time⟩

namespace Ledger

variable {policy : Policy} {w : Workload} {index : Nat} {c : Container} {n : Node}

/-- A container whose estimate is no quantity is refused for that. -/
theorem settledBy_of_misestimates (hmis : w.Misestimates index) {fault : LookupFault}
    (hr : w.request index c = .error (.lookup fault)) :
    (placeOne policy w index c { node := n }).SettledBy policy w index c n := by
  have ho : placeOne policy w index c { node := n } = ⟨{ node := n }, .error (.lookup fault)⟩ := by
    rw [placeOne, hr]
  rw [ho]
  exact {
    lookup_iff := iff_of_true ⟨fault, rfl⟩ hmis
    share_iff := fun hnot => absurd hmis hnot
    exclusive_iff := fun hnot => absurd hmis hnot
    no_other_error := fun e he => .inl ⟨fault, (Except.error.inj he).symm⟩
    unchanged := fun _ _ => rfl
    share_books := by simp
    exclusive_books := by simp }

/-- What the refusal of a container that no device can take comes to. -/
theorem settledBy_refused (hestimate : ¬ w.Misestimates index)
    (hshare : c.cores < wholeDevice →
      if policy.capacityFilter then
        ∀ d ∈ n.devices, ¬ (c.cores ≤ d.allocatableCores ∧ c.memory ≤ d.allocatableMemory)
      else n.devices = [])
    (hexclusive : wholeDevice ≤ c.cores →
      (n.devices.countP fun d => decide (d.Idle ∧ 100 ≤ d.allocatableCores))
        < (c.cores.toNat + 99) / 100) :
    (⟨{ node := n }, .error (.noFeasibleDevice c.name)⟩ :
      Outcome Ledger Error Placement).SettledBy policy w index c n where
  lookup_iff := iff_of_false nofun hestimate
  share_iff := fun _ h => iff_of_true rfl (hshare h)
  exclusive_iff := fun _ h => iff_of_true rfl (hexclusive h)
  no_other_error := fun _ he => .inr (Except.error.inj he).symm
  unchanged := fun _ _ => rfl
  share_books := nofun
  exclusive_books := nofun

/-- The case of a container that asks for less than a whole device. -/
theorem settledBy_of_share (hestimate : ¬ w.Misestimates index) {r : Request}
    (hr : w.request index c = .ok r) (hcores : r.cores = c.cores) (hmemory : r.memory = c.memory)
    (htime : w.estimatedTime index = .ok r.estimatedTime) (hshare : c.cores < wholeDevice) :
    (placeOne policy w index c { node := n }).SettledBy policy w index c n := by
  have hmode : r.mode = .share := Request.mode_of_lt (hcores ▸ hshare)
  have hamount : r.amount n.quota = ⟨c.cores, c.memory, r.estimatedTime⟩ := by
    rw [Request.amount, hmode, hcores, hmemory]
  have hwhole : ¬ wholeDevice ≤ c.cores := UInt64.not_le.mpr hshare
  have hnone : Share.choose? policy.capacityFilter n.devices r = none ↔ _ :=
    Share.choose?_eq_none_iff
  simp only [Share.HasRoom, hcores, hmemory] at hnone
  have hds : policy.choose n.devices r
      = (Share.choose? policy.capacityFilter n.devices r).toList := by
    rw [Policy.choose, hmode]
  rw [placeOne_unlimited hr hds]
  cases hd : Share.choose? policy.capacityFilter n.devices r with
  | none => exact settledBy_refused hestimate (fun _ => hnone.mp hd) fun h => absurd h hwhole
  | some d =>
      obtain ⟨hmem, hroom⟩ := Share.of_choose? hd
      rw [Share.HasRoom, hcores, hmemory] at hroom
      have hsub : [d].Subperm n.devices := List.singleton_subperm_iff.mpr hmem
      rw [Option.toList_some, if_neg (List.cons_ne_nil d []), hmode, hamount]
      exact {
        lookup_iff := iff_of_false (by simp) hestimate
        share_iff := fun _ _ => iff_of_false (by simp) fun h => by rw [hnone.mpr h] at hd; cases hd
        exclusive_iff := fun _ h => absurd h hwhole
        no_other_error := by simp
        unchanged := by simp
        share_books := fun p hp _ => ⟨d, r.estimatedTime, hmem, htime, hroom,
          (Except.ok.inj hp).symm, rfl, Node.bookedFor_postAll hsub _⟩
        exclusive_books := fun _ _ h => absurd h hwhole }

/-- The case of a container that asks for whole devices. -/
theorem settledBy_of_exclusive (hestimate : ¬ w.Misestimates index) {r : Request}
    (hr : w.request index c = .ok r) (hcores : r.cores = c.cores)
    (htime : w.estimatedTime index = .ok r.estimatedTime) (hwhole : wholeDevice ≤ c.cores) :
    (placeOne policy w index c { node := n }).SettledBy policy w index c n := by
  have hwhole' : wholeDevice ≤ r.cores := hcores ▸ hwhole
  have hmode : r.mode = .exclusive := Request.mode_of_le hwhole'
  have hamount : r.amount n.quota = ⟨100, n.quota, r.estimatedTime⟩ := by
    rw [Request.amount, hmode]
    rfl
  have hneeded : r.devicesNeeded = (c.cores.toNat + 99) / 100 := by
    rw [Request.devicesNeeded, hcores]
    rfl
  have hshare : ¬ c.cores < wholeDevice := UInt64.not_lt.mpr hwhole
  have hnil : Exclusive.choose n.devices r = []
      ↔ (n.devices.countP fun d => decide (d.Idle ∧ 100 ≤ d.allocatableCores))
        < (c.cores.toNat + 99) / 100 := by
    rw [← hneeded]
    exact Exclusive.choose_eq_nil_iff (Request.devicesNeeded_pos hwhole')
  have hds : policy.choose n.devices r = Exclusive.choose n.devices r := by
    rw [Policy.choose, hmode]
  have hsub : (Exclusive.choose n.devices r).Subperm n.devices :=
    hds ▸ policy.choose_subperm n.devices r
  rw [placeOne_unlimited hr hds]
  split
  · next hchosen =>
    exact settledBy_refused hestimate (fun h => absurd h hshare) fun _ => hnil.mp hchosen
  · next hchosen =>
    rw [hmode, hamount]
    exact {
      lookup_iff := iff_of_false (by simp) hestimate
      share_iff := fun _ h => absurd h hshare
      exclusive_iff := fun _ _ => iff_of_false (by simp) (mt hnil.mpr hchosen)
      no_other_error := by simp
      unchanged := by simp
      share_books := fun _ _ h => absurd h hshare
      exclusive_books := fun p hp _ => ⟨_, r.estimatedTime, n.quota, hsub,
        (Exclusive.length_choose hchosen).trans hneeded, htime,
        fun d hd => (Exclusive.of_mem_choose hd).2, rfl, (Except.ok.inj hp).symm, rfl,
        Node.bookedFor_postAll hsub _⟩ }

end Ledger

/-- **Placing one container is settled** by the estimate, the devices and the filter alone. It fails
in the cases that `Outcome.SettledBy` names and then leaves the node as it was. In all other cases
it books what the container asks for, for a device that can take it, or whole devices, for as many
vacant ones as are needed. -/
theorem single_placement_settled (policy : Policy) (w : Workload) (index : Nat) (c : Container)
    (n : Node) :
    (Ledger.placeOne policy w index c { node := n }).SettledBy policy w index c n := by
  rcases w.request_cases index c with ⟨hmis, fault, hr⟩ | ⟨hestimate, time, htime, hr⟩
  · exact Ledger.settledBy_of_misestimates hmis hr
  · by_cases hshare : c.cores < wholeDevice
    · exact Ledger.settledBy_of_share hestimate hr rfl rfl htime hshare
    · exact Ledger.settledBy_of_exclusive hestimate hr rfl htime (UInt64.not_lt.mp hshare)

/-- **A number that occurs twice.** Of two devices of one number the first is taken as a whole and
only the second has room for a container, so under the filter the second is chosen. What is booked
is the first one, which had no room, and the second stays as it was. -/
theorem duplicate_numbers_misplace :
    let full : Device :=
      { id := 0, totalCores := 100, totalMemory := 100, usedCores := 100
        bookings := [⟨⟨100, 0, 0⟩, 0⟩] }
    let free : Device := { id := 0, totalCores := 100, totalMemory := 100 }
    let n : Node := ⟨"n", 200, 2, [full, free]⟩
    let c := Container.withGpu "c" 50 10
    let r : Request := ⟨50, 10, 0⟩
    let w : Workload := { uid := ⟨1⟩, name := "w", containers := [c] }
    let o := Ledger.placeOne { capacityFilter := true } w 0 c { node := n }
    w.request 0 c = .ok r ∧ ¬ Share.HasRoom r full ∧ Share.HasRoom r free ∧ o.succeeded = true ∧
      o.state.node.devices =
        [{ id := 0, totalCores := 100, totalMemory := 100, usedCores := 150, usedMemory := 10
           bookings := [⟨⟨100, 0, 0⟩, 0⟩, ⟨⟨50, 10, 0⟩, 0⟩] }, free] := by
  decide +kernel

end GpuLedger
