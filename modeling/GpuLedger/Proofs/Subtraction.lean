import GpuLedger.Proofs.ReleasingAgain
import GpuLedger.Proofs.Restoration
import Mathlib.Algebra.BigOperators.Group.Multiset.Basic

/-!
# Releases as Subtraction

A release walks through the containers of a workload and through the devices listed for each of
them, takes one booking away at a time and stops at the first that is not there. This module gives
it a closed form. What the workload names to be given back is a list of **items** in the order of
containers and devices: entries, and faults in the annotations (`Workload.items`). The release
succeeds exactly if there is no fault among them and the node **covers** the entries, that is, every
device named is there and holds each amount at least as often as it is named for it (`Node.Covers`).
What is left then is the node without the entries (`Node.less`): each device without the oldest
bookings of each amount, as many as are named, and with its counters lowered by what is gone. If the
release is stopped, it is by the first item that fails, and the node is without the entries before
that item.

The walk itself is known already (`Ledger.returnAll`). What is added here is that the order in which
amounts are taken from one device makes no difference to what is left (`Booking.eraseAll_eq`), so
that multisets of amounts say it all.

## Main results

* `Booking.eraseAll_eq` — taking amounts away one after the other is leaving out the oldest ones;
* `Node.unpostAll_eq_less` — taking entries away is subtracting them, device by device;
* `Ledger.returnAll_eq_error` — where giving back entries stops;
* `release_subtracts` — the closed form of a release.
-/

namespace GpuLedger

/-! ### Bookings that are left -/

namespace Booking

/-- The bookings that are left when the oldest ones of each amount are gone, as many of each as
there are in a multiset. -/
def without : Multiset Amount → List Booking → List Booking
  | _, [] => []
  | gone, b :: rest =>
    if b.amount ∈ gone then without (gone.erase b.amount) rest else b :: without gone rest

/-- Where nothing is to go all bookings stay. -/
theorem without_zero (bs : List Booking) : without 0 bs = bs := by
  induction bs with
  | nil => rfl
  | cons b rest ih => rw [without, if_neg (Multiset.notMem_zero _), ih]

/-- One amount more is gone where its oldest booking is taken away first. -/
theorem without_cons (a : Amount) (gone : Multiset Amount) (bs : List Booking) :
    without (a ::ₘ gone) bs = without gone (erase a bs) := by
  induction bs generalizing gone with
  | nil => rfl
  | cons b rest ih =>
      by_cases hb : b.amount = a
      · have herase : erase a (b :: rest) = rest :=
          List.eraseP_cons_of_pos (by simpa using hb)
        rw [herase, without, if_pos (hb ▸ Multiset.mem_cons_self _ _), hb,
          Multiset.erase_cons_head]
      · have herase : erase a (b :: rest) = b :: erase a rest :=
          List.eraseP_cons_of_neg (by simpa using hb)
        have hmem : b.amount ∈ a ::ₘ gone ↔ b.amount ∈ gone := by simp [hb]
        rw [herase, without, without]
        by_cases hgone : b.amount ∈ gone
        · rw [if_pos (hmem.mpr hgone), if_pos hgone,
            Multiset.erase_cons_tail _ (Ne.symm hb), ih]
        · rw [if_neg (mt hmem.mp hgone), if_neg hgone, ih]

/-- **Taking amounts away** one after the other leaves out the oldest bookings of each. -/
theorem eraseAll_eq (as : List Amount) (bs : List Booking) : eraseAll as bs = without as bs := by
  induction as generalizing bs with
  | nil => exact (without_zero bs).symm
  | cons a rest ih => rw [eraseAll_cons, ih, ← Multiset.cons_coe, without_cons]

end Booking

/-! ### Devices and nodes that are left -/

namespace Device

/-- A device when the amounts of a multiset are gone: their oldest bookings are, and the counters
are lowered by their totals, though not below zero. -/
def less (gone : Multiset Amount) (d : Device) : Device :=
  { d with
    usedCores := UInt64.ofNat (d.usedCores.toNat - (gone.map fun a => a.vcore.toNat).sum)
    usedMemory := UInt64.ofNat (d.usedMemory.toNat - (gone.map fun a => a.vmemory.toNat).sum)
    bookings := Booking.without gone d.bookings }

/-- A counter that is lowered by several quantities in turn is lowered by their total. -/
theorem subAll_eq (f : Amount → Quantity) (as : List Amount) (used : Quantity) :
    Quantity.subAll (as.map f) used
      = UInt64.ofNat (used.toNat - ((as : Multiset Amount).map fun a => (f a).toNat).sum) := by
  have htotal : Quantity.total (as.map f)
      = ((as : Multiset Amount).map fun a => (f a).toNat).sum := by
    rw [Multiset.map_coe, Multiset.sum_coe]
    induction as with
    | nil => rfl
    | cons a rest ih => rw [List.map_cons, Quantity.total, ih, List.map_cons, List.sum_cons]
  rw [← htotal, ← Quantity.toNat_subAll, UInt64.ofNat_toNat]

/-- **Giving back** amounts that are booked leaves the device without them. -/
theorem unbookAll_eq_less {as : List Amount} {d : Device} (h : as.Subperm d.amounts) :
    d.unbookAll as = d.less as := by
  rw [unbookAll_eq h, less, subAll_eq Amount.vcore, subAll_eq Amount.vmemory,
    Booking.eraseAll_eq]

end Device

/-- What a list of entries has for a number, counted. -/
theorem Entry.count_on (id : DeviceId) (a : Amount) (es : List Entry) :
    (on id es).count a = es.count ⟨id, a⟩ := by
  rw [on_coe, Multiset.coe_count]
  induction es with
  | nil => rfl
  | cons e rest ih =>
      by_cases hid : e.device = id
      · subst hid
        rw [amountsOn_cons_self, List.count_cons, List.count_cons, ih]
        obtain ⟨device, amount⟩ := e
        by_cases ha : amount = a <;> simp [ha]
      · have hne : (e == ⟨id, a⟩) = false := by
          rw [beq_eq_false_iff_ne]
          rintro rfl
          exact hid rfl
        rw [amountsOn_cons_of_ne hid, List.count_cons, hne, ih]
        rfl

namespace Node

variable {n : Node} {es : List Entry}

/-- A node when the entries are gone. -/
def less (es : List Entry) (n : Node) : Node :=
  { n with devices := n.devices.map fun d => d.less (Entry.on d.id es) }

/-- The entries can be given back all together: every device they name is one of the node, and it
holds every amount at least as often as they name it there. -/
def Covers (es : List Entry) (n : Node) : Prop :=
  (∀ e ∈ es, ∃ d ∈ n.devices, d.id = e.device) ∧
    ∀ d ∈ n.devices, ∀ a, es.count ⟨d.id, a⟩ ≤ d.amounts.count a

/-- Where numbers are distinct, what is covered is what is held. -/
theorem covers_iff_holds (hids : (n.devices.map Device.id).Nodup) : n.Covers es ↔ n.Holds es := by
  constructor
  · rintro ⟨hdevices, hcounts⟩ id
    cases hd : n.device? id with
    | none =>
        have hnone : Entry.amountsOn id es = [] := by
          refine Entry.amountsOn_eq_nil fun e he hid => ?_
          obtain ⟨d, hmem, hdid⟩ := hdevices e he
          rw [← hid, ← hdid, device?_of_mem hids hmem] at hd
          cases hd
        rw [Entry.on_coe, hnone]
        exact Multiset.zero_le _
    | some d =>
        rw [held_of_device? hd, Multiset.le_iff_count]
        intro a
        rw [Entry.count_on, Multiset.coe_count, ← id_of_device? hd]
        exact hcounts d (mem_of_device? hd) a
  · intro h
    constructor
    · intro e he
      have hmem : e.amount ∈ n.held e.device := by
        refine Multiset.mem_of_le (h e.device) ?_
        rw [← Multiset.count_pos, Entry.count_on]
        exact List.count_pos_iff.mpr he
      cases hd : n.device? e.device with
      | none => simp [held_of_device?_eq_none hd] at hmem
      | some d => exact ⟨d, mem_of_device? hd, id_of_device? hd⟩
    · intro d hd a
      have hcount := Multiset.le_iff_count.mp (h d.id) a
      rwa [Entry.count_on, held_of_device? (device?_of_mem hids hd), Multiset.coe_count] at hcount

/-- **Taking entries away** that are held is subtracting them, device by device. -/
theorem unpostAll_eq_less (hids : (n.devices.map Device.id).Nodup) (h : n.Holds es) :
    n.unpostAll es = n.less es := by
  rw [unpostAll_eq, mapFirst_eq_map hids, less]
  refine congrArg (fun ds => { n with devices := ds }) (List.map_congr_left fun d hd => ?_)
  have hle := h d.id
  rw [Entry.on_coe, held_of_device? (device?_of_mem hids hd), Multiset.coe_le] at hle
  rw [Device.unbookAll_eq_less hle, Entry.on_coe]

/-- There is a device of a number before an entry is taken away and afterwards, or never. -/
theorem isSome_device?_unpost (e : Entry) (n : Node) (id : DeviceId) :
    ((n.unpost e).device? id).isSome = (n.device? id).isSome := by
  rw [unpost, device?_mapFirst (Device.id_apply Device.id_unbook e), Option.isSome_map]

end Node

/-! ### Where giving back stops -/

namespace Ledger

/-- **Giving back stops** at the first entry that is not held together with those before it; those
before it are gone, and nothing else is. -/
theorem returnAll_eq_error {es : List Entry} {l : Ledger} {err : Error}
    (h : (returnAll es l).result = .error err) :
    ∃ before e after, es = before ++ e :: after ∧ l.node.Holds before ∧
      ¬ l.node.Holds (before ++ [e]) ∧
      err = (if (l.node.device? e.device).isSome then .bookingNotFound l.node.name e.device
        else .deviceNotFound l.node.name e.device) ∧
      (returnAll es l).state = { l with node := l.node.unpostAll before } := by
  induction es generalizing l with
  | nil => cases h
  | cons e rest ih =>
      by_cases hmem : e.amount ∈ l.node.held e.device
      · have hnext : returnAll (e :: rest) l
            = returnAll rest { l with node := l.node.unpost e } := by
          rw [returnAll, unbook_eq_ok hmem]
        rw [hnext] at h ⊢
        obtain ⟨before, f, after, rfl, hheld, hnot, herr, hstate⟩ := ih h
        rw [Node.isSome_device?_unpost] at herr
        refine ⟨e :: before, f, after, rfl, Node.holds_cons_iff.mpr ⟨hmem, hheld⟩, ?_, herr, hstate⟩
        exact fun hall => hnot (Node.holds_cons_iff.mp hall).2
      · rw [returnAll_of_notMem hmem] at h ⊢
        refine ⟨[], e, rest, rfl, fun id => Multiset.zero_le _, ?_, (Except.error.inj h).symm, rfl⟩
        exact mt Node.holds_singleton_iff.mp hmem

end Ledger

/-! ### What a workload names -/

namespace Workload

variable {quota : Quantity} {w : Workload}

/-- What a container names to be given back: an entry for each device listed for it, or the fault
because of which that is not known. -/
def itemsOf (quota : Quantity) (w : Workload) (index : Nat) (c : Container) :
    List (Except Error Entry) :=
  match w.devicesOf index c with
  | .error e => [.error e]
  | .ok ids =>
    match w.request index c with
    | .error e => [.error e]
    | .ok r => ids.map fun id => .ok ⟨id, r.amount quota⟩

/-- What a workload names to be given back, container by container and device by device. Only the
containers that ask for cores name anything. -/
def items (quota : Quantity) (w : Workload) : List (Except Error Entry) :=
  w.asking.flatMap fun x => w.itemsOf quota x.2 x.1

/-- The entries among them. -/
def named (quota : Quantity) (w : Workload) : List Entry :=
  (w.items quota).filterMap Except.toOption

/-- The annotations of a container can be used: its devices are listed and its estimate, if there is
one, is a quantity. -/
def Readable (w : Workload) (index : Nat) : Prop :=
  (∃ ids, w.assignedDevices? index = some ids) ∧ ∃ time, w.estimatedTime index = .ok time

/-- A container names a fault exactly if its annotations cannot be used. -/
theorem error_mem_itemsOf_iff (quota : Quantity) {index : Nat} (c : Container) :
    (∃ e, .error e ∈ w.itemsOf quota index c) ↔ ¬ w.Readable index := by
  rw [itemsOf, devicesOf, request, Readable]
  cases w.assignedDevices? index with
  | none => simp
  | some ids =>
      cases w.estimatedTime index with
      | error e => simp [Except.map]
      | ok time => simp [Except.map]

/-- A workload names no fault exactly if the annotations of all containers can be used. -/
theorem no_error_mem_items_iff (quota : Quantity) :
    (∀ e, .error e ∉ w.items quota) ↔ ∀ x ∈ w.asking, w.Readable x.2 := by
  constructor
  · intro h x hx
    by_contra hnot
    obtain ⟨e, he⟩ := (error_mem_itemsOf_iff quota x.1).mpr hnot
    exact h e (List.mem_flatMap.mpr ⟨x, hx, he⟩)
  · intro h e he
    obtain ⟨x, hx, hmem⟩ := List.mem_flatMap.mp he
    exact (error_mem_itemsOf_iff quota x.1).mp ⟨e, hmem⟩ (h x hx)

/-- The dues of containers are what they name up to the first fault. -/
theorem flatMap_itemsOf_eq (quota : Quantity) (w : Workload) (index : Nat) (cs : List Container) :
    ∃ after, (Container.asking index cs).flatMap (fun x => w.itemsOf quota x.2 x.1)
      = (w.duesFrom quota index cs).1.map .ok ++
        (w.duesFrom quota index cs).2.elim [] fun e => .error e :: after := by
  induction cs generalizing index with
  | nil => exact ⟨[], rfl⟩
  | cons c rest ih =>
      rw [duesFrom]
      by_cases hgpu : c.RequestsGpu
      · rw [if_pos hgpu, Container.asking_cons_of_pos hgpu, List.flatMap_cons, itemsOf]
        cases w.devicesOf index c with
        | error e => exact ⟨_, rfl⟩
        | ok ids =>
            cases w.request index c with
            | error e => exact ⟨_, rfl⟩
            | ok r =>
                obtain ⟨after, hafter⟩ := ih (index + 1)
                refine ⟨after, ?_⟩
                rw [hafter, ← List.append_assoc, List.map_append, List.map_map]
                rfl
      · rw [if_neg hgpu, Container.asking_cons_of_neg hgpu]
        exact ih (index + 1)

/-- **The dues** of a workload are what it names up to the first fault. -/
theorem items_eq (quota : Quantity) (w : Workload) :
    ∃ after, w.items quota = (w.dues quota).1.map .ok ++
      (w.dues quota).2.elim [] fun e => .error e :: after :=
  w.flatMap_itemsOf_eq quota 0 w.containers

/-- There is no fault in the dues exactly if the annotations of all containers can be used. -/
theorem snd_dues_eq_none_iff (quota : Quantity) :
    (w.dues quota).2 = none ↔ ∀ x ∈ w.asking, w.Readable x.2 := by
  obtain ⟨after, hitems⟩ := w.items_eq quota
  rw [← no_error_mem_items_iff quota, hitems]
  cases (w.dues quota).2 with
  | none => simp
  | some e => exact iff_of_false nofun fun h => h e (by simp)

/-- Where there is no fault, all that is named is due. -/
theorem named_eq_of_dues (h : (w.dues quota).2 = none) : w.named quota = (w.dues quota).1 := by
  obtain ⟨after, hitems⟩ := w.items_eq quota
  rw [named, hitems, h, Option.elim_none, List.append_nil, List.filterMap_map]
  exact List.filterMap_some

end Workload

/-! ### Releases -/

/-- Why an item fails when the entries before it have been given back: because of the fault that it
is, or because the node covers no entry more; there is then no such device, or no such booking left
on it. -/
def Node.Refuses (n : Node) (before : List Entry) (err : Error) : Except Error Entry → Prop
  | .error fault => err = fault
  | .ok e => ¬ n.Covers (before ++ [e]) ∧
      err = if (n.device? e.device).isSome then .bookingNotFound n.name e.device
        else .deviceNotFound n.name e.device

/-- **Release is subtraction.** On a node with distinct numbers a workload is released exactly if
the annotations of its containers can be used and the node covers what it names; then the node is
left without all of it. Otherwise there is a first item that fails, the error is the one of that
item, and the node is left without the entries before it. -/
theorem release_subtracts {n : Node} (hids : (n.devices.map Device.id).Nodup) (w : Workload) :
    let o := Ledger.release w { node := n }
    (o.result = .ok () ↔
      (∀ x ∈ w.asking, w.Readable x.2) ∧ n.Covers (w.named n.quota)) ∧
    (o.result = .ok () → o.state = { node := n.less (w.named n.quota) }) ∧
    ∀ err, o.result = .error err →
      ∃ before item after, w.items n.quota = before.map .ok ++ item :: after ∧
        n.Covers before ∧ n.Refuses before err item ∧ o.state = { node := n.less before } := by
  intro o
  have ho : o = (Ledger.returnAll (w.dues n.quota).1 { node := n }).followedBy
      (w.dues n.quota).2 := Ledger.release_eq w { node := n }
  obtain ⟨rest, hitems⟩ := w.items_eq n.quota
  have hok : o.result = .ok () ↔
      n.Holds (w.dues n.quota).1 ∧ (w.dues n.quota).2 = none := by
    rw [ho, Outcome.followedBy_eq_ok_iff, Ledger.returnAll_eq_ok_iff]
  refine ⟨?_, fun h => ?_, fun err herr => ?_⟩
  · rw [hok, ← Workload.snd_dues_eq_none_iff n.quota, Node.covers_iff_holds hids]
    constructor
    · rintro ⟨hheld, hnone⟩
      exact ⟨hnone, by rwa [Workload.named_eq_of_dues hnone]⟩
    · rintro ⟨hnone, hheld⟩
      exact ⟨by rwa [Workload.named_eq_of_dues hnone] at hheld, hnone⟩
  · obtain ⟨hheld, hnone⟩ := hok.mp h
    rw [ho, Ledger.returnAll_of_holds hheld, hnone, Workload.named_eq_of_dues hnone,
      ← Node.unpostAll_eq_less hids hheld]
    rfl
  · have hstate : o.state = (Ledger.returnAll (w.dues n.quota).1 { node := n }).state := by
      rw [ho, Outcome.state_followedBy]
    rw [ho] at herr
    rw [hstate]
    rcases Outcome.followedBy_eq_error herr with hreturn | ⟨hreturn, hfault⟩
    · -- An entry is not held: it is the first item that fails, whatever comes behind it.
      obtain ⟨before, f, after, hdues, hheld, hnot, rfl, hlast⟩ :=
        Ledger.returnAll_eq_error hreturn
      have hsplit : w.items n.quota = before.map .ok ++ .ok f :: (after.map .ok ++
          (w.dues n.quota).2.elim [] fun e => .error e :: rest) := by
        rw [hitems, hdues, List.map_append, List.append_assoc, List.map_cons, List.cons_append]
      refine ⟨before, .ok f, _, hsplit, (Node.covers_iff_holds hids).mpr hheld,
        ⟨mt (Node.covers_iff_holds hids).mp hnot, rfl⟩, ?_⟩
      rw [hlast, Node.unpostAll_eq_less hids hheld]
    · -- All entries are held: what fails is the fault behind them.
      have hheld := Ledger.returnAll_eq_ok_iff.mp hreturn
      rw [hfault] at hitems
      refine ⟨_, .error err, rest, hitems, (Node.covers_iff_holds hids).mpr hheld, rfl, ?_⟩
      rw [Ledger.returnAll_of_holds hheld, Node.unpostAll_eq_less hids hheld]

/-- A workload that names the first device of a node twice and its second device once, on a node
that holds more than that; and one that names the first device once too often. -/
theorem release_subtracts_repeated :
    let n : Node := ⟨"node", 32, 2,
      [{ id := 0, totalCores := 100, totalMemory := 16, usedCores := 40, usedMemory := 12
         bookings := [⟨⟨10, 4, 0⟩, 5⟩, ⟨⟨20, 4, 60⟩, 1⟩, ⟨⟨10, 4, 0⟩, 2⟩] },
       { id := 1, totalCores := 100, totalMemory := 16, usedCores := 100, usedMemory := 16
         bookings := [⟨⟨100, 16, 0⟩, 3⟩] }]⟩
    let w := fun devices : String =>
      ({ uid := ⟨1⟩, name := "job"
         containers := [.withGpu "part" 10 4, { name := "sidecar" }, .withGpu "whole" 100 0] } :
        Workload)
        |>.annotateWith (Annotations.deviceList 0) devices
        |>.annotateWith (Annotations.deviceList 2) "1"
    (n.devices.map Device.id).Nodup ∧
      (Ledger.release (w "0, 0") { node := n }).state.node.devices =
        [{ id := 0, totalCores := 100, totalMemory := 16, usedCores := 20, usedMemory := 4
           bookings := [⟨⟨20, 4, 60⟩, 1⟩] },
         { id := 1, totalCores := 100, totalMemory := 16 }] ∧
      ¬ n.Covers ((w "0,0,0").named n.quota) ∧
      ∃ before item after, (w "0,0,0").items n.quota = before.map .ok ++ item :: after ∧
        n.Covers before ∧ n.Refuses before (.bookingNotFound "node" 0) item ∧
        (Ledger.release (w "0,0,0") { node := n }).state = { node := n.less before } := by
  intro n w
  have hids : (n.devices.map Device.id).Nodup := by decide
  have htwice : (Ledger.release (w "0, 0") { node := n }).result = .ok () := by decide +kernel
  have hreadable : ∀ x ∈ (w "0,0,0").asking, (w "0,0,0").Readable x.2 := by
    have hnone : ((w "0,0,0").dues n.quota).2 = none := by decide +kernel
    exact (Workload.snd_dues_eq_none_iff n.quota).mp hnone
  have hthrice : (Ledger.release (w "0,0,0") { node := n }).result
      = .error (.bookingNotFound "node" 0) := by decide +kernel
  obtain ⟨-, hstate, -⟩ := release_subtracts hids (w "0, 0")
  obtain ⟨hiff, -, hstops⟩ := release_subtracts hids (w "0,0,0")
  refine ⟨hids, ?_, fun hcovers => ?_, hstops _ hthrice⟩
  · rw [hstate htwice]
    decide +kernel
  · rw [hiff.mpr ⟨hreadable, hcovers⟩] at hthrice
    cases hthrice

end GpuLedger
