import GpuLedger.Proofs.Capacity
import GpuLedger.Proofs.Effects
import GpuLedger.Proofs.Records
import Mathlib.Data.List.TakeWhile

/-!
# Undoing an Allocation

A workload that has just been placed is given back. Whatever the node was like, this succeeds,
and all counters and, under each number, the amounts that are booked are as they were
(`Device.unbookAll_bookAll`). The lists of bookings need not be: an amount is given back by
taking its **oldest** booking away, so where a device held a booking of the same amount before,
that booking goes and the new one stays in its place, at the end of the list and with its time
starting over.

`Booking.Restores` says exactly when a list comes back as it was
(`Booking.eraseAll_append_iff`): from the first booking on whose amount is given back, no
booking has aged, and the amounts come back in their order. The hard direction rests on a fact
about lists: a list that is found again in its own tail with new bookings behind it is made up of
new bookings only (`forall_of_sublist_tail_append`).

## Main results

* `release_allocate_iff` — what is restored, and exactly when all of it is;
* `release_allocate_of_notMem` — all of it, where nothing that is booked was held before;
* `aged_booking_not_restored` — a node on which it is not.
-/

namespace GpuLedger

/-! ### Lists of bookings -/

/-- A list that is found again in its own tail with other elements behind it, all of which have a
property, consists of elements with the property. -/
theorem forall_of_sublist_tail_append {α : Type} {p : α → Bool} {xs ys : List α}
    (hys : ∀ y ∈ ys, p y = true) (h : xs.Sublist (xs.tail ++ ys)) : ∀ x ∈ xs, p x = true := by
  induction xs with
  | nil => exact fun x hx => absurd hx List.not_mem_nil
  | cons first rest ih =>
      rw [List.tail_cons] at h
      -- There are no more elements without the property in the list than in its tail.
      have hcount := h.countP_le (p := fun x => !p x)
      have hnone : ys.countP (fun x => !p x) = 0 :=
        List.countP_eq_zero.mpr fun y hy => by simp [hys y hy]
      have hfirst : p first = true := by
        by_contra hnot
        rw [List.countP_append, hnone, List.countP_cons] at hcount
        simp only [hnot, Bool.not_false, if_true] at hcount
        omega
      have hrest : rest.Sublist (rest.tail ++ ys) := by
        cases rest with
        | nil => exact List.nil_sublist _
        | cons second more => exact h.tail
      intro x hx
      rcases List.mem_cons.mp hx with rfl | hx
      · exact hfirst
      · exact ih hrest x hx

namespace Booking

/-- Bookings of several amounts, all of them new. -/
def allNew (as : List Amount) : List Booking :=
  as.map ({ amount := · })

/-- New bookings have not aged. -/
theorem elapsed_of_mem_allNew {as : List Amount} {b : Booking} (h : b ∈ allNew as) :
    b.elapsed = 0 := by
  obtain ⟨a, -, rfl⟩ := List.mem_map.mp h
  rfl

/-- New bookings have the amounts they were made of. -/
theorem map_amount_allNew (as : List Amount) : (allNew as).map amount = as := by
  rw [allNew, List.map_map]
  exact List.map_id as

/-- Bookings that have not aged are known by their amounts. -/
theorem allNew_map_amount {bs : List Booking} (h : ∀ b ∈ bs, b.elapsed = 0) :
    allNew (bs.map amount) = bs := by
  rw [allNew, List.map_map]
  refine (List.map_congr_left fun b hb => ?_).trans (List.map_id bs)
  obtain ⟨a, elapsed⟩ := b
  obtain rfl : elapsed = 0 := h _ hb
  rfl

/-- Taking bookings away keeps the order of the others. -/
theorem eraseAll_sublist (as : List Amount) (bs : List Booking) : (eraseAll as bs).Sublist bs := by
  induction as generalizing bs with
  | nil => exact .refl _
  | cons a rest ih => exact (ih (erase a bs)).trans List.eraseP_sublist

/-- A booking in front whose amount is taken away goes first. -/
theorem eraseAll_cons_sublist {as : List Amount} {b : Booking} (h : b.amount ∈ as)
    (bs : List Booking) : (eraseAll as (b :: bs)).Sublist bs := by
  induction as generalizing bs with
  | nil => exact absurd h List.not_mem_nil
  | cons a rest ih =>
      rw [eraseAll_cons, erase]
      by_cases hb : b.amount = a
      · have hgone : (b :: bs).eraseP (·.amount = a) = bs :=
          List.eraseP_cons_of_pos (by simpa using hb)
        rw [hgone]
        exact eraseAll_sublist rest bs
      · have hstays : (b :: bs).eraseP (·.amount = a) = b :: bs.eraseP (·.amount = a) :=
          List.eraseP_cons_of_neg (by simpa using hb)
        have hrest : b.amount ∈ rest := (List.mem_cons.mp h).resolve_left hb
        rw [hstays]
        exact (ih hrest _).trans List.eraseP_sublist

/-- Bookings in front whose amounts are not taken away stay. -/
theorem eraseAll_append_of_notMem {as : List Amount} {kept : List Booking}
    (h : ∀ b ∈ kept, b.amount ∉ as) (bs : List Booking) :
    eraseAll as (kept ++ bs) = kept ++ eraseAll as bs := by
  induction as generalizing bs with
  | nil => rfl
  | cons a rest ih =>
      have hhead : ∀ b ∈ kept, ¬ decide (b.amount = a) = true := by
        intro b hb hba
        exact h b hb (List.mem_cons.mpr (.inl (of_decide_eq_true hba)))
      have hrest : ∀ b ∈ kept, b.amount ∉ rest :=
        fun b hb hmem => h b hb (List.mem_cons_of_mem _ hmem)
      rw [eraseAll_cons, eraseAll_cons, erase, List.eraseP_append_right _ hhead, ih hrest]
      rfl

/-- What is booked on nothing is taken away again. -/
theorem eraseAll_allNew (as : List Amount) : eraseAll as (allNew as) = [] := by
  induction as with
  | nil => rfl
  | cons a rest ih =>
      rw [allNew, List.map_cons, eraseAll_cons, erase, List.eraseP_cons_of_pos (by simp)]
      exact ih

/-- The bookings from the first one on whose amount is among the given ones. -/
def disturbed (as : List Amount) (bs : List Booking) : List Booking :=
  bs.dropWhile (·.amount ∉ as)

/-- The bookings in front of them have other amounts. -/
theorem exists_append_disturbed (as : List Amount) (bs : List Booking) :
    ∃ kept, (∀ b ∈ kept, b.amount ∉ as) ∧ kept ++ disturbed as bs = bs := by
  refine ⟨bs.takeWhile (·.amount ∉ as), ?_, List.takeWhile_append_dropWhile⟩
  intro b hb
  have hnot := List.mem_takeWhile_imp hb
  simpa using hnot

/-- The first booking that is disturbed has one of the amounts. -/
theorem mem_of_disturbed_eq_cons {as : List Amount} {bs rest : List Booking} {first : Booking}
    (h : disturbed as bs = first :: rest) : first.amount ∈ as := by
  have hhead := List.head?_dropWhile_not (·.amount ∉ as) bs
  rw [disturbed] at h
  rw [h] at hhead
  simpa using hhead

/-- Bookings that come back as they were after new ones were added behind them have not aged. -/
theorem elapsed_of_eraseAll_disturbed {as : List Amount} {bs : List Booking}
    (h : eraseAll as (disturbed as bs ++ allNew as) = disturbed as bs) :
    ∀ b ∈ disturbed as bs, b.elapsed = 0 := by
  have hfound : (disturbed as bs).Sublist ((disturbed as bs).tail ++ allNew as) := by
    cases hbs : disturbed as bs with
    | nil => exact List.nil_sublist _
    | cons first rest =>
        rw [hbs] at h
        have hsub := eraseAll_cons_sublist (mem_of_disturbed_eq_cons hbs) (rest ++ allNew as)
        rwa [← List.cons_append, h] at hsub
  intro b hb
  have hnew : ∀ c ∈ allNew as, decide (c.elapsed = 0) = true :=
    fun c hc => decide_eq_true (elapsed_of_mem_allNew hc)
  exact of_decide_eq_true (forall_of_sublist_tail_append hnew hfound b hb)

/-- **The exact condition** under which a list of bookings survives that amounts are booked and
given back: from the first booking on whose amount is given back, no booking has aged, and the
amounts come back in their order. -/
def Restores (as : List Amount) (bs : List Booking) : Prop :=
  (∀ b ∈ disturbed as bs, b.elapsed = 0) ∧ (bs.map amount ++ as).diff as = bs.map amount

instance (as : List Amount) (bs : List Booking) : Decidable (Restores as bs) :=
  inferInstanceAs (Decidable (_ ∧ _))

/-- Taking the oldest bookings of some amounts away after new ones were added gives the list back
exactly if `Restores` holds. -/
theorem eraseAll_append_iff (as : List Amount) (bs : List Booking) :
    eraseAll as (bs ++ allNew as) = bs ↔ Restores as bs := by
  obtain ⟨kept, hkept, hsplit⟩ := exists_append_disturbed as bs
  have hamounts : (eraseAll as (bs ++ allNew as)).map amount
      = (bs.map amount ++ as).diff as := by
    rw [map_amount_eraseAll, List.map_append, map_amount_allNew]
  have herase : eraseAll as (bs ++ allNew as)
      = kept ++ eraseAll as (disturbed as bs ++ allNew as) := by
    rw [← eraseAll_append_of_notMem hkept, ← List.append_assoc, hsplit]
  constructor
  · intro h
    refine ⟨elapsed_of_eraseAll_disturbed ?_, by rw [← hamounts, h]⟩
    exact List.append_cancel_left ((herase.symm.trans h).trans hsplit.symm)
  · rintro ⟨hnew, hdiff⟩
    -- Nothing has aged behind the kept bookings, so they are known by their amounts.
    have hleft : ∀ b ∈ eraseAll as (disturbed as bs ++ allNew as), b.elapsed = 0 := by
      intro b hb
      rcases List.mem_append.mp ((eraseAll_sublist _ _).subset hb) with hb | hb
      · exact hnew b hb
      · exact elapsed_of_mem_allNew hb
    have hmap : (kept ++ eraseAll as (disturbed as bs ++ allNew as)).map amount
        = (kept ++ disturbed as bs).map amount := by
      rw [← herase, hamounts, hdiff, hsplit]
    rw [List.map_append, List.map_append] at hmap
    have hrest := List.append_cancel_left hmap
    rw [herase, ← allNew_map_amount hleft, hrest, allNew_map_amount hnew, hsplit]

/-- Where none of the amounts was booked before, the list is restored. -/
theorem restores_of_notMem {as : List Amount} {bs : List Booking}
    (h : ∀ b ∈ bs, b.amount ∉ as) : Restores as bs := by
  refine (eraseAll_append_iff as bs).mp ?_
  rw [eraseAll_append_of_notMem h, eraseAll_allNew, List.append_nil]

end Booking

/-! ### Counters -/

namespace Quantity

/-- Subtracts several quantities in turn, clamping each difference. -/
def subAll (qs : List Quantity) (used : Quantity) : Quantity :=
  qs.foldl subSat used

/-- Subtracting in turn is subtracting the total. -/
theorem toNat_subAll (qs : List Quantity) (used : Quantity) :
    (subAll qs used).toNat = used.toNat - total qs := by
  induction qs generalizing used with
  | nil => rfl
  | cons q rest ih =>
      have hrest := ih (subSat used q)
      rw [toNat_subSat] at hrest
      rw [subAll, List.foldl_cons, total]
      exact hrest.trans (by omega)

/-- What was added without being cut off is subtracted again. -/
theorem subAll_capped {qs : List Quantity} {used : Quantity}
    (h : used.toNat + total qs < UInt64.size) :
    subAll qs (capped (used.toNat + total qs)) = used := by
  refine UInt64.toNat_inj.mp ?_
  rw [toNat_subAll, toNat_capped]
  omega

end Quantity

namespace Device

/-- No counter of the device saturates while the amounts are booked. -/
def Fits (as : List Amount) (d : Device) : Prop :=
  d.usedCores.toNat + Quantity.total (as.map Amount.vcore) < UInt64.size ∧
    d.usedMemory.toNat + Quantity.total (as.map Amount.vmemory) < UInt64.size

instance (as : List Amount) (d : Device) : Decidable (d.Fits as) :=
  inferInstanceAs (Decidable (_ ∧ _))

/-- A device apart from its list of bookings. -/
def cleared (d : Device) : Device :=
  { d with bookings := [] }

/-- Giving back several amounts that are booked, in terms of counters and bookings. -/
theorem unbookAll_eq {as : List Amount} {d : Device} (h : as.Subperm d.amounts) :
    d.unbookAll as = { d with
      usedCores := Quantity.subAll (as.map Amount.vcore) d.usedCores
      usedMemory := Quantity.subAll (as.map Amount.vmemory) d.usedMemory
      bookings := Booking.eraseAll as d.bookings } := by
  induction as generalizing d with
  | nil => rfl
  | cons a rest ih =>
      have ha : a ∈ d.amounts := h.subset List.mem_cons_self
      have hrest : rest.Subperm (d.unbook a).amounts := by
        have herased := h.erase a
        rwa [List.erase_cons_head, ← amounts_unbook] at herased
      rw [unbookAll_cons, ih hrest, unbook_of_mem ha]
      rfl

/-- **Booking and giving back** the same amounts restores everything but the list of bookings. -/
theorem unbookAll_bookAll {as : List Amount} {d : Device} (h : d.Fits as) :
    (d.bookAll as).unbookAll as =
      { d with bookings := Booking.eraseAll as (d.bookings ++ Booking.allNew as) } := by
  have hbooked : as.Subperm (d.bookAll as).amounts := by
    rw [amounts_bookAll]
    exact (List.sublist_append_right _ _).subperm
  rw [unbookAll_eq hbooked, bookAll_eq]
  simp only [withAmounts, Quantity.subAll_capped h.1, Quantity.subAll_capped h.2]
  rfl

/-- All of it is restored exactly if the list of bookings is. -/
theorem unbookAll_bookAll_eq_iff {as : List Amount} {d : Device} (h : d.Fits as) :
    (d.bookAll as).unbookAll as = d ↔ Booking.Restores as d.bookings := by
  rw [unbookAll_bookAll h, ← Booking.eraseAll_append_iff]
  constructor
  · intro hsame
    exact congrArg bookings hsame
  · intro hbookings
    rw [hbookings]

end Device

/-! ### Nodes -/

namespace Node

variable {es : List Entry} {n : Node}

/-- Entries that are booked and taken away again reach every device as one change. -/
theorem unpostAll_postAll (es : List Entry) (n : Node) :
    (n.postAll es).unpostAll es = n.mapFirst fun d =>
      (d.bookAll (Entry.amountsOn d.id es)).unbookAll (Entry.amountsOn d.id es) := by
  rw [unpostAll_eq, postAll_eq, mapFirst_mapFirst fun _ => Device.id_bookAll _ _]
  refine mapFirst_congr fun d _ => ?_
  simp only [Function.comp_apply, Device.id_bookAll]

/-- Everything but the lists of bookings is restored. -/
theorem map_cleared_unpostAll_postAll
    (hfits : ∀ id d, n.device? id = some d → d.Fits (Entry.amountsOn id es)) :
    ((n.postAll es).unpostAll es).devices.map Device.cleared
      = n.devices.map Device.cleared := by
  rw [unpostAll_postAll]
  refine map_mapFirst fun id d hd => ?_
  have hid := id_of_device? hd
  rw [hid, Device.unbookAll_bookAll (hfits id d hd)]
  rfl

/-- The node is restored exactly if the list of bookings of every device is. -/
theorem unpostAll_postAll_eq_iff
    (hfits : ∀ id d, n.device? id = some d → d.Fits (Entry.amountsOn id es)) :
    (n.postAll es).unpostAll es = n ↔ ∀ id d, n.device? id = some d →
      Booking.Restores (Entry.amountsOn id es) d.bookings := by
  have hid : ∀ d : Device, ((d.bookAll (Entry.amountsOn d.id es)).unbookAll
      (Entry.amountsOn d.id es)).id = d.id := by
    intro d
    rw [Device.id_unbookAll, Device.id_bookAll]
  rw [unpostAll_postAll, mapFirst_eq_self_iff hid]
  refine forall_congr' fun id => forall_congr' fun d => imp_congr_right fun hd => ?_
  rw [id_of_device? hd]
  exact Device.unbookAll_bookAll_eq_iff (hfits id d hd)

end Node

/-! ### Allocations -/

section Allocations

variable {policy : Policy} {clock : Option Int} {w w' : Workload} {l next : Ledger}

/-- **A placed workload can be given back** at once, and that takes away what was booked. -/
theorem release_allocate (h : l.allocate policy clock w = ⟨next, .ok w'⟩) :
    next.release w' = ⟨{ next with
      node := (l.node.postAll (l.booked policy w)).unpostAll (l.booked policy w) }, .ok ()⟩ := by
  have hposts := Ledger.posts_booked policy w l
  rw [← Ledger.state_allocate policy clock, h] at hposts
  have hdues := Ledger.dues_of_allocate h
  have hquota : next.node.quota = l.node.quota := by
    rw [hposts.node_eq, Node.quota_postAll]
  rw [← hquota] at hdues
  have hheld : ∀ id, Entry.on id (l.booked policy w) ≤ next.node.held id := by
    intro id
    rw [hposts.held_eq]
    exact Multiset.le_add_left _ _
  rw [Ledger.release_of_holds hdues hheld, ← hposts.node_eq]

/-- **What is restored when an allocation is undone.** If no counter saturates, giving the placed
workload back succeeds; every device is as it was apart from its list of bookings; under every
number the same amounts are booked as before; and the node is as it was exactly if the list of
bookings of the device of every number survives (`Booking.Restores`). -/
theorem release_allocate_iff (h : l.allocate policy clock w = ⟨next, .ok w'⟩)
    (hfits : ∀ id d, l.node.device? id = some d →
      d.Fits (Entry.amountsOn id (l.booked policy w))) :
    (next.release w').result = .ok () ∧
    (next.release w').state.node.devices.map Device.cleared
      = l.node.devices.map Device.cleared ∧
    (∀ id, (next.release w').state.node.held id = l.node.held id) ∧
    ((next.release w').state.node = l.node ↔ ∀ id d, l.node.device? id = some d →
      Booking.Restores (Entry.amountsOn id (l.booked policy w)) d.bookings) := by
  rw [release_allocate h]
  refine ⟨rfl, Node.map_cleared_unpostAll_postAll hfits, ?_,
    Node.unpostAll_postAll_eq_iff hfits⟩
  intro id
  have hposts := Ledger.posts_booked policy w l
  rw [Node.held_unpostAll, Node.held_postAll hposts.isSome_device?,
    Multiset.add_sub_cancel_right]

/-- A workload of two containers on a device with two bookings: one of another amount, which has
aged, and a new one of the amount of the first container. Both come back as they were. -/
theorem release_allocate_iff_restored :
    let l : Ledger := ⟨⟨"node", 100, 1,
      [{ id := 0, totalCores := 100, totalMemory := 100, usedCores := 30, usedMemory := 20
         bookings := [⟨⟨20, 10, 60⟩, 5⟩, ⟨⟨10, 10, 0⟩, 0⟩] }]⟩, none⟩
    let w : Workload :=
      { uid := ⟨1⟩, name := "job"
        containers := [.withGpu "first" 10 10, .withGpu "second" 10 10] }
    let placed : Workload := w.annotate "node" 9
      [⟨0, "first", .share, [0], 10, 10⟩, ⟨1, "second", .share, [0], 10, 10⟩]
    let next : Ledger := (l.allocate {} (some 9) w).state
    (l.allocate {} (some 9) w).result = .ok placed ∧
      (next.release placed).state.node = l.node := by
  intro l w placed next
  have hplaced : (l.allocate {} (some 9) w).result = .ok placed := by decide +kernel
  have hallocate : l.allocate {} (some 9) w = ⟨next, .ok placed⟩ := by
    rw [← hplaced]
  have hbooked : l.booked {} w = [⟨0, ⟨10, 10, 0⟩⟩, ⟨0, ⟨10, 10, 0⟩⟩] := by decide +kernel
  have honly : ∀ id d, l.node.device? id = some d → id = 0 ∧ l.node.devices = [d] := by
    intro id d hd
    have hmem := List.mem_singleton.mp (Node.mem_of_device? hd)
    subst hmem
    exact ⟨(Node.id_of_device? hd).symm, rfl⟩
  have hfits : ∀ id d, l.node.device? id = some d →
      d.Fits (Entry.amountsOn id (l.booked {} w)) := by
    intro id d hd
    obtain ⟨rfl, hdevices⟩ := honly id d hd
    obtain rfl := (List.cons.inj hdevices).1
    rw [hbooked]
    decide
  obtain ⟨-, -, -, hiff⟩ := release_allocate_iff hallocate hfits
  refine ⟨hplaced, hiff.mpr fun id d hd => ?_⟩
  obtain ⟨rfl, hdevices⟩ := honly id d hd
  obtain rfl := (List.cons.inj hdevices).1
  rw [hbooked]
  decide

/-- A device that holds a booking of the same amount for a while already does not get it back: the
new booking is left in its place, with its time starting over. -/
theorem aged_booking_not_restored :
    let l : Ledger := ⟨⟨"n", 100, 1,
      [{ id := 0, totalCores := 100, totalMemory := 100, usedCores := 10, usedMemory := 10
         bookings := [⟨⟨10, 10, 10⟩, 5⟩] }]⟩, none⟩
    let w : Workload :=
      ({ uid := ⟨1⟩, name := "w", containers := [.withGpu "c" 10 10] } : Workload)
        |>.withEstimatedTime 0 10
    let placed : Workload := w.annotate "n" 0 [⟨0, "c", .share, [0], 10, 10⟩]
    let next : Ledger := (l.allocate {} (some 0) w).state
    (l.allocate {} (some 0) w).result = .ok placed ∧
      (∀ d ∈ l.node.devices, d.Fits (Entry.amountsOn d.id (l.booked {} w))) ∧
      (next.release placed).result = .ok () ∧
      (next.release placed).state.node ≠ l.node ∧
      (next.release placed).state.node.devices.map Device.isolatedTime = [10] ∧
      l.node.devices.map Device.isolatedTime = [5] := by
  decide +kernel

/-- The whole node is restored where no device held an amount before that is booked on it. -/
theorem release_allocate_of_notMem (h : l.allocate policy clock w = ⟨next, .ok w'⟩)
    (hfits : ∀ id d, l.node.device? id = some d →
      d.Fits (Entry.amountsOn id (l.booked policy w)))
    (hnew : ∀ id d, l.node.device? id = some d → ∀ b ∈ d.bookings,
      b.amount ∉ Entry.amountsOn id (l.booked policy w)) :
    (next.release w').state.node = l.node := by
  rw [release_allocate h]
  refine (Node.unpostAll_postAll_eq_iff hfits).mpr fun id d hd => ?_
  exact Booking.restores_of_notMem (hnew id d hd)

end Allocations

end GpuLedger
