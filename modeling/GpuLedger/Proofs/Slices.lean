import GpuLedger.Proofs.Predictions
import GpuLedger.Proofs.SinglePlacements
import GpuLedger.Proofs.Sorting

/-!
# Slices of the Pool

Containers that ask for whole devices are placed on the vacant devices of a node, in their standard
order. Every container looks at the node anew, filters and sorts it again, and still the containers
of one workload share the pool as it stood at first: a booked device is no longer vacant, those that
are left keep their order, so after a container has taken its devices from the front of the pool the
rest of it is the pool of the next one (`Exclusive.pool_postAll_take`).

A workload whose containers all ask for whole devices therefore cuts the pool into consecutive
**slices**, one for each container and as long as the container needs (`Exclusive.slices`). Whether
it is placed is a matter of counting, and if it is not, the first container at which the devices run
out is the one that is refused, with those before it booked.

## Main results

* `Exclusive.pool_postAll_take` — booking the front of the pool leaves the rest of it;
* `Ledger.placeOne_slice` — one container takes a slice or is refused;
* `Ledger.slicing_placeFrom` — several containers, by induction;
* `exclusive_workload_slices_pool` — when a workload of whole devices is placed, and where.
-/

namespace GpuLedger

/-! ### What is left of the pool -/

namespace Exclusive

/-- What is not among the first of several different things is what stands behind them. -/
theorem filter_notMem_take {α : Type} [DecidableEq α] {xs : List α} (h : xs.Nodup) (k : Nat) :
    xs.filter (fun x => decide (x ∉ xs.take k)) = xs.drop k := by
  have hdisjoint : List.Disjoint (xs.take k) (xs.drop k) := List.disjoint_take_drop h le_rfl
  generalize hfront : xs.take k = front at *
  have hnone : front.filter (fun x => decide (x ∉ front)) = [] := by simp
  have hall : (xs.drop k).filter (fun x => decide (x ∉ front)) = xs.drop k :=
    List.filter_eq_self.mpr fun x hx => decide_eq_true fun hin => hdisjoint hin hx
  calc xs.filter (fun x => decide (x ∉ front))
      = (front ++ xs.drop k).filter fun x => decide (x ∉ front) := by
        rw [← hfront, List.take_append_drop]
    _ = xs.drop k := by rw [List.filter_append, hnone, hall, List.nil_append]

/-- A device on which something is booked is not vacant. -/
theorem not_vacant_book (a : Amount) (d : Device) : ¬ Vacant (d.book a) := by
  rintro ⟨⟨-, -, hnone⟩, -⟩
  exact List.append_ne_nil_of_right_ne_nil _ (List.cons_ne_nil _ _) hnone

/-- What is vacant after a booking was vacant before, and is none of the booked devices. -/
theorem filter_vacant_map_book (taken : List Device) (a : Amount) (ds : List Device) :
    (ds.map fun d => if d ∈ taken then d.book a else d).filter (fun d => decide (Vacant d))
      = (ds.filter fun d => decide (Vacant d)).filter fun d => decide (d ∉ taken) := by
  induction ds with
  | nil => rfl
  | cons d rest ih =>
      rw [List.map_cons, List.filter_cons, List.filter_cons, ih]
      by_cases hd : d ∈ taken
      · have hbooked : decide (Vacant (d.book a)) = false := decide_eq_false (not_vacant_book a d)
        rw [if_pos hd, hbooked, if_neg Bool.false_ne_true]
        split
        · rw [List.filter_cons_of_neg (by simpa using hd)]
        · rfl
      · rw [if_neg hd]
        split
        · rw [List.filter_cons_of_pos (by simpa using hd)]
        · rfl

/-- **Booking the front of the pool** leaves the rest of it, in the same order. -/
theorem pool_postAll_take {n : Node} (hids : (n.devices.map Device.id).Nodup) (k : Nat)
    (a : Amount) :
    pool (n.postAll (((pool n.devices).take k).map (⟨·.id, a⟩))).devices
      = (pool n.devices).drop k := by
  have hsub : ((pool n.devices).take k).Subperm n.devices :=
    ((List.take_sublist k _).subperm.trans (Order.sort_perm _ _).subperm).trans
      List.filter_sublist.subperm
  rw [Node.postAll_chosen hids hsub, pool, filter_vacant_map_book, ← Order.filter_sort]
  exact filter_notMem_take (List.Nodup.of_map _ (nodup_pool hids)) k

end Exclusive

/-! ### Slices -/

/-- The number of whole devices that have the cores of a container between them. -/
def Container.devicesNeeded (c : Container) : Nat :=
  (c.cores.toNat + 99) / 100

namespace Exclusive

/-- The number of whole devices that several containers need. -/
def needed : List (Container × Nat) → Nat
  | [] => 0
  | x :: rest => x.1.devicesNeeded + needed rest

/-- The placements of containers, each given with its index, that take from the front of a pool one
after the other as many devices as they need. -/
def slices (quota : Quantity) : List (Container × Nat) → List Device → List Placement
  | [], _ => []
  | (c, index) :: rest, pool =>
    ⟨index, c.name, .exclusive, (pool.take c.devicesNeeded).map Device.id, 100, quota⟩ ::
      slices quota rest (pool.drop c.devicesNeeded)

/-- The devices that containers need are those of the first one and those of the others. -/
theorem needed_cons (x : Container × Nat) (xs : List (Container × Nat)) :
    needed (x :: xs) = x.1.devicesNeeded + needed xs :=
  rfl

/-- The devices that two lists of containers need are added up. -/
theorem needed_append (xs ys : List (Container × Nat)) :
    needed (xs ++ ys) = needed xs + needed ys := by
  induction xs with
  | nil => exact (Nat.zero_add _).symm
  | cons x rest ih => rw [List.cons_append, needed_cons, needed_cons, ih, Nat.add_assoc]

/-- The slices are consecutive and begin at the front of the pool. -/
theorem flatMap_devices_slices (quota : Quantity) (xs : List (Container × Nat))
    (pool : List Device) :
    (slices quota xs pool).flatMap Placement.devices
      = (pool.take (needed xs)).map Device.id := by
  induction xs generalizing pool with
  | nil => rfl
  | cons x rest ih =>
      obtain ⟨c, index⟩ := x
      rw [slices, List.flatMap_cons, ih, needed_cons, List.take_add, List.map_append]

end Exclusive

/-! ### Placing containers on slices -/

/-- What it comes to that some containers of a workload, each given with its index, are placed on a
node one after the other: each has got its slice of the pool, or those before one for which too few
devices are left. -/
inductive Exclusive.Slicing (w : Workload) (n : Node) (xs : List (Container × Nat)) :
    Outcome Ledger Error (List Placement) → Prop
  | all {es : List Entry} (fits : needed xs ≤ (pool n.devices).length)
      (entries : w.entriesOf (slices n.quota xs (pool n.devices)) = .ok es) :
      Slicing w n xs ⟨⟨n.postAll es, none⟩, .ok (slices n.quota xs (pool n.devices))⟩
  | upTo {before after : List (Container × Nat)} {x : Container × Nat} {es : List Entry}
      (split : xs = before ++ x :: after) (fits : needed before ≤ (pool n.devices).length)
      (exceeds : (pool n.devices).length < needed before + x.1.devicesNeeded)
      (entries : w.entriesOf (slices n.quota before (pool n.devices)) = .ok es) :
      Slicing w n xs ⟨⟨n.postAll es, none⟩, .error (.noFeasibleDevice x.1.name)⟩

/-- **One more container in front**: those behind it slice what it has left of the pool. -/
theorem Exclusive.Slicing.cons {w : Workload} {n : Node} {c : Container} {index : Nat}
    {xs : List (Container × Nat)} {time : Quantity} {o : Outcome Ledger Error (List Placement)}
    {p : Placement} {m : Node}
    (hp : p = ⟨index, c.name, .exclusive, ((pool n.devices).take c.devicesNeeded).map Device.id,
      100, n.quota⟩)
    (htime : w.estimatedTime index = .ok time) (hm : m = n.postAll (p.entries time))
    (hpool : pool m.devices = (pool n.devices).drop c.devicesNeeded)
    (hfits : c.devicesNeeded ≤ (pool n.devices).length) (h : Slicing w m xs o) :
    Slicing w n ((c, index) :: xs) (o.map (p :: ·)) := by
  have hquota : m.quota = n.quota := by rw [hm, Node.quota_postAll]
  have hlength : (pool m.devices).length = (pool n.devices).length - c.devicesNeeded := by
    rw [hpool, List.length_drop]
  have htime' : w.estimatedTime p.index = .ok time := by rw [hp]; exact htime
  -- Slices and bookings made on the node afterwards are read as such of the node before.
  have hslices : ∀ ys, slices n.quota ((c, index) :: ys) (pool n.devices)
      = p :: slices m.quota ys (pool m.devices) := by
    intro ys
    rw [slices, hquota, hpool, hp]
  have hpost : ∀ es, m.postAll es = n.postAll (p.entries time ++ es) := by
    intro es
    rw [hm, Node.postAll_append]
  cases h with
  | @all es fits entries =>
      have hes := Workload.entriesOf_cons_eq_ok.mpr ⟨time, es, htime', entries, rfl⟩
      rw [← hslices] at hes
      rw [Outcome.map, hpost, Except.map, ← hslices]
      refine .all ?_ hes
      rw [needed_cons]
      change c.devicesNeeded + needed xs ≤ _
      omega
  | @upTo before after x es split fits exceeds entries =>
      have hes := Workload.entriesOf_cons_eq_ok.mpr ⟨time, es, htime', entries, rfl⟩
      rw [← hslices] at hes
      rw [Outcome.map, hpost, Except.map]
      have hneeded : needed ((c, index) :: before) = c.devicesNeeded + needed before :=
        needed_cons _ _
      have hsplit : (c, index) :: xs = ((c, index) :: before) ++ x :: after := by
        rw [split, List.cons_append]
      refine .upTo hsplit ?_ ?_ hes
      · rw [hneeded]
        omega
      · rw [hneeded]
        omega

namespace Ledger

variable {policy : Policy} {w : Workload} {index : Nat} {c : Container} {n : Node}

/-- **One container** that asks for whole devices takes as many as it needs from the front of the
pool, or is refused if there are not enough. -/
theorem placeOne_slice {time : Quantity}
    (hr : w.request index c = .ok ⟨c.cores, c.memory, time⟩) (hwhole : 100 ≤ c.cores) :
    placeOne policy w index c ⟨n, none⟩ =
      if (Exclusive.pool n.devices).length < c.devicesNeeded then
        ⟨⟨n, none⟩, .error (.noFeasibleDevice c.name)⟩
      else
        let ds := (Exclusive.pool n.devices).take c.devicesNeeded
        ⟨⟨n.postAll (ds.map (⟨·.id, ⟨100, n.quota, time⟩⟩)), none⟩,
          .ok ⟨index, c.name, .exclusive, ds.map Device.id, 100, n.quota⟩⟩ := by
  have hmode : (⟨c.cores, c.memory, time⟩ : Request).mode = .exclusive :=
    Request.mode_of_le hwhole
  have hneeded : (⟨c.cores, c.memory, time⟩ : Request).devicesNeeded = c.devicesNeeded := rfl
  have hpos : 0 < c.devicesNeeded := hneeded ▸ Request.devicesNeeded_pos hwhole
  have hamount : (⟨c.cores, c.memory, time⟩ : Request).amount n.quota = ⟨100, n.quota, time⟩ := by
    rw [Request.amount, hmode]
    rfl
  rw [placeOne_unlimited hr rfl, hamount, hmode, Policy.choose, hmode]
  simp only [Exclusive.choose, hneeded]
  split
  · next hfew => rw [if_pos rfl]
  · next hmany =>
    refine if_neg fun hnil => ?_
    have hlength := congrArg List.length hnil
    rw [List.length_take, List.length_nil] at hlength
    omega

/-- **Several containers**, counted from an index on, slice the pool of the node on which they are
placed. -/
theorem slicing_placeFrom {cs : List Container} (hids : (n.devices.map Device.id).Nodup)
    (hwhole : ∀ x ∈ Container.asking index cs, 100 ≤ x.1.cores)
    (hestimates : ∀ x ∈ Container.asking index cs, ¬ w.Misestimates x.2) :
    Exclusive.Slicing w n (Container.asking index cs)
      (placeFrom policy w index cs ⟨n, none⟩) := by
  induction cs generalizing index n with
  | nil =>
      have hnone : w.entriesOf (Exclusive.slices n.quota [] (Exclusive.pool n.devices)) = .ok [] :=
        rfl
      exact .all (Nat.zero_le _) hnone
  | cons c rest ih =>
      rw [placeFrom]
      by_cases hgpu : c.RequestsGpu
      · rw [Container.asking_cons_of_pos hgpu, List.forall_mem_cons] at hwhole hestimates
        rw [Container.asking_cons_of_pos hgpu, if_pos hgpu]
        obtain ⟨-, time, htime, hr⟩ :=
          (w.request_cases index c).resolve_left fun h => hestimates.1 h.1
        rw [placeOne_slice hr hwhole.1]
        split
        · next next p hplace =>
          split at hplace
          · cases hplace
          · next hmany =>
            -- The containers behind this one slice the pool of the node that it leaves behind.
            obtain ⟨hnext, hresult⟩ := Outcome.mk.inj hplace
            have hp := (Except.ok.inj hresult).symm
            subst hnext
            refine .cons hp htime ?_ ?_ (Nat.not_lt.mp hmany) (ih ?_ hwhole.2 hestimates.2)
            · rw [hp, Placement.entries, List.map_map]
              rfl
            · exact Exclusive.pool_postAll_take hids _ _
            · rw [Node.map_id_postAll]
              exact hids
        · next next e hplace =>
          split at hplace
          · next hfew =>
            obtain ⟨hnext, hresult⟩ := Outcome.mk.inj hplace
            obtain rfl := Except.error.inj hresult
            subst hnext
            have hnone : w.entriesOf (Exclusive.slices n.quota [] (Exclusive.pool n.devices))
                = .ok [] := rfl
            refine .upTo (List.nil_append _).symm (Nat.zero_le _) ?_ hnone
            exact Nat.lt_of_lt_of_le hfew (Nat.le_add_left _ _)
          · cases hplace
      · rw [Container.asking_cons_of_neg hgpu] at hwhole hestimates ⊢
        rw [if_neg hgpu]
        exact ih hids hwhole hestimates

end Ledger

/-! ### What the slices hold -/

namespace Exclusive

/-- On each device of a slice the cores of a whole device and the quota are held. -/
theorem amount_of_mem_slices {quota : Quantity} {xs : List (Container × Nat)} {ds : List Device}
    {p : Placement} (h : p ∈ slices quota xs ds) : p.vcore = 100 ∧ p.vmemory = quota := by
  induction xs generalizing ds with
  | nil => exact absurd h List.not_mem_nil
  | cons x rest ih =>
      rcases List.mem_cons.mp h with rfl | h
      · exact ⟨rfl, rfl⟩
      · exact ih h

/-- Where the pool is large enough, each slice is as long as its container needs. -/
theorem map_length_slices (quota : Quantity) {xs : List (Container × Nat)} {ds : List Device}
    (h : needed xs ≤ ds.length) :
    (slices quota xs ds).map (·.devices.length) = xs.map (·.1.devicesNeeded) := by
  induction xs generalizing ds with
  | nil => rfl
  | cons x rest ih =>
      rw [needed_cons] at h
      have hrest : needed rest ≤ (ds.drop x.1.devicesNeeded).length := by
        rw [List.length_drop]
        omega
      rw [slices, List.map_cons, List.map_cons, ih hrest, List.length_map, List.length_take,
        Nat.min_eq_left (by omega)]

end Exclusive

/-- A node on which some containers of a workload, each given with its index, hold consecutive
slices of the pool of the node as it was, and on which nothing else has changed. -/
structure Node.SlicedFor (m n : Node) (w : Workload) (xs : List (Container × Nat)) : Prop where
  /-- What has been booked, in this order, is what the slices come to. -/
  entries : ∃ es, w.entriesOf (Exclusive.slices n.quota xs (Exclusive.pool n.devices)) = .ok es ∧
    n.bookEach es = .ok m
  /-- Each slice is as long as its container needs. -/
  lengths : (Exclusive.slices n.quota xs (Exclusive.pool n.devices)).map (·.devices.length)
    = xs.map (·.1.devicesNeeded)
  /-- One behind the other the slices are the front of the pool. -/
  front : (Exclusive.slices n.quota xs (Exclusive.pool n.devices)).flatMap Placement.devices
    = ((Exclusive.pool n.devices).take (Exclusive.needed xs)).map Device.id
  /-- No device is in two slices. -/
  disjoint :
    ((Exclusive.slices n.quota xs (Exclusive.pool n.devices)).flatMap Placement.devices).Nodup
  /-- A device of a slice has got one more booking, for the container of the slice. -/
  booked : ∀ p ∈ Exclusive.slices n.quota xs (Exclusive.pool n.devices), ∀ id ∈ p.devices,
    ∃ d time, n.device? id = some d ∧ w.estimatedTime p.index = .ok time ∧
      m.device? id = some (d.withAmounts [⟨100, n.quota, time⟩])
  /-- A device of no slice is as it was. -/
  others : ∀ id,
    id ∉ (Exclusive.slices n.quota xs (Exclusive.pool n.devices)).flatMap Placement.devices →
      m.device? id = n.device? id

/-- The entries of slices for which the pool is large enough are booked as the slices say. -/
theorem Node.slicedFor_postAll {n : Node} (hids : (n.devices.map Device.id).Nodup) {w : Workload}
    {xs : List (Container × Nat)} {es : List Entry}
    (hfits : Exclusive.needed xs ≤ (Exclusive.pool n.devices).length)
    (hes : w.entriesOf (Exclusive.slices n.quota xs (Exclusive.pool n.devices)) = .ok es) :
    (n.postAll es).SlicedFor n w xs := by
  have hfront := Exclusive.flatMap_devices_slices n.quota xs (Exclusive.pool n.devices)
  have hdevices := Workload.map_device_entriesOf hes
  have hnodup : (es.map Entry.device).Nodup := by
    rw [hdevices, hfront]
    exact (Exclusive.nodup_pool hids).sublist ((List.take_sublist _ _).map _)
  have hsome : ∀ e ∈ es, (n.device? e.device).isSome := by
    intro e he
    have hmem : e.device ∈ es.map Entry.device := List.mem_map_of_mem he
    rw [hdevices, hfront] at hmem
    obtain ⟨d, hd, heq⟩ := List.mem_map.mp hmem
    have hpool := (Exclusive.mem_pool.mp (List.mem_of_mem_take hd)).1
    rw [← heq, device?_of_mem hids hpool, Option.isSome_some]
  refine ⟨⟨es, hes, bookEach_eq_ok hsome⟩, Exclusive.map_length_slices _ hfits, hfront,
    hdevices ▸ hnodup, fun p hp id hid => ?_, fun id hid => ?_⟩
  · obtain ⟨time, htime, hmem⟩ := Workload.mem_entriesOf hes hp hid
    obtain ⟨hvcore, hvmemory⟩ := Exclusive.amount_of_mem_slices hp
    obtain ⟨d, hd⟩ := Option.isSome_iff_exists.mp (hsome _ hmem)
    have hamounts := Entry.amountsOn_of_nodup hnodup hmem
    rw [hvcore, hvmemory] at hamounts
    refine ⟨d, time, hd, htime, ?_⟩
    rw [device?_postAll, hd, hamounts, Option.map_some, Device.bookAll_eq]
  · have hnone : Entry.amountsOn id es = [] := Entry.amountsOn_eq_nil fun e he heq => by
      rw [← hdevices] at hid
      exact hid (heq ▸ List.mem_map_of_mem he)
    rw [device?_postAll, hnone]
    exact Option.map_id'

/-- **A workload of whole devices slices the pool.** On a node of distinct devices, a workload whose
containers that ask for cores all ask for whole devices, with estimates that can be read, is placed
exactly if they do not need more devices together than are vacant. Then each of them gets the next
devices of the pool, in its order and as many as the container needs, behind those of the containers
before it. Otherwise it fails at the first container with which the need exceeds what is vacant, for
lack of a device for this one, and exactly the containers before it have got their slices. -/
theorem exclusive_workload_slices_pool (policy : Policy) (time : Int) {w : Workload} {n : Node}
    (hids : (n.devices.map Device.id).Nodup) (hwhole : ∀ x ∈ w.asking, 100 ≤ x.1.cores)
    (hestimates : ∀ x ∈ w.asking, ¬ w.Misestimates x.2) :
    let pool := Exclusive.pool n.devices
    let o := Ledger.allocate policy (some time) w { node := n }
    (o.succeeded = true ↔ Exclusive.needed w.asking ≤ pool.length) ∧
    (Exclusive.needed w.asking ≤ pool.length →
      o.result = .ok (w.annotate n.name time (Exclusive.slices n.quota w.asking pool)) ∧
      o.state.node.SlicedFor n w w.asking) ∧
    (pool.length < Exclusive.needed w.asking →
      ∃ before x after, w.asking = before ++ x :: after ∧
        Exclusive.needed before ≤ pool.length ∧
        pool.length < Exclusive.needed (before ++ [x]) ∧
        o.result = .error (.noFeasibleDevice x.1.name) ∧ o.state.node.SlicedFor n w before) := by
  intro pool o
  have ho : o = (Ledger.placeAll policy w ⟨n, none⟩).map (w.annotate n.name time) :=
    Ledger.allocate_some policy time w ⟨n, none⟩
  have hslicing : Exclusive.Slicing w n w.asking (Ledger.placeAll policy w ⟨n, none⟩) :=
    Ledger.slicing_placeFrom hids hwhole hestimates
  rw [ho]
  generalize Ledger.placeAll policy w ⟨n, none⟩ = placed at hslicing ⊢
  cases hslicing with
  | @all es fits entries =>
      exact ⟨iff_of_true rfl fits, fun _ => ⟨rfl, Node.slicedFor_postAll hids fits entries⟩,
        fun hexceeds => absurd fits (Nat.not_le.mpr hexceeds)⟩
  | @upTo before after x es split fits exceeds entries =>
      have hexceeds : pool.length < Exclusive.needed (before ++ [x]) := by
        rw [Exclusive.needed_append, Exclusive.needed_cons]
        exact Nat.lt_of_lt_of_le exceeds (by omega)
      have hall : ¬ Exclusive.needed w.asking ≤ (Exclusive.pool n.devices).length := by
        rw [split, Exclusive.needed_append, Exclusive.needed_cons]
        omega
      exact ⟨iff_of_false nofun hall, fun hfits => absurd hfits hall, fun _ => ⟨before, x, after,
        split, fits, hexceeds, rfl, Node.slicedFor_postAll hids fits entries⟩⟩

/-- A container of 101 cores and one of 100 on four devices of which one is busy: the busy one is
passed over, and the devices with the least memory come first. One container more, of 100 cores,
finds no device, and the other two keep theirs. -/
theorem exclusive_workload_slices_pool_boundary :
    let n : Node := ⟨"node", 0, 0,
      [{ id := 3, totalCores := 100, totalMemory := 8 },
       { id := 2, totalCores := 100, totalMemory := 16, usedCores := 1 },
       { id := 1, totalCores := 100, totalMemory := 16 },
       { id := 0, totalCores := 100, totalMemory := 16 }]⟩
    let fitting : Workload := { uid := ⟨1⟩, name := "job"
                                containers := [.withGpu "two" 101 0, .withGpu "one" 100 0] }
    let large := fitting.withContainer (.withGpu "more" 100 0)
    let ps : List Placement :=
      [⟨0, "two", .exclusive, [3, 0], 100, 0⟩, ⟨1, "one", .exclusive, [1], 100, 0⟩]
    ((Ledger.allocate {} (some 9) fitting { node := n }).result
        = .ok (fitting.annotate n.name 9 ps) ∧
      (Ledger.allocate {} (some 9) fitting { node := n }).state.node.SlicedFor n fitting
        fitting.asking) ∧
    ∃ before x after, large.asking = before ++ x :: after ∧
      (Ledger.allocate {} (some 9) large { node := n }).result
        = .error (.noFeasibleDevice x.1.name) ∧
      (Ledger.allocate {} (some 9) large { node := n }).state.node.SlicedFor n large before := by
  intro n fitting large ps
  have hids : (n.devices.map Device.id).Nodup := by decide
  have hslices : Exclusive.slices n.quota fitting.asking (Exclusive.pool n.devices) = ps := by
    decide +kernel
  have hfitting : ∀ x ∈ fitting.asking, ¬ fitting.Misestimates x.2 := by
    rintro x - ⟨text, htext, -⟩
    exact absurd htext nofun
  have hlarge : ∀ x ∈ large.asking, ¬ large.Misestimates x.2 := by
    rintro x - ⟨text, htext, -⟩
    exact absurd htext nofun
  obtain ⟨-, hplaced, -⟩ :=
    exclusive_workload_slices_pool {} 9 hids (by decide +kernel) hfitting
  obtain ⟨-, -, hrefused⟩ :=
    exclusive_workload_slices_pool {} 9 hids (by decide +kernel) hlarge
  obtain ⟨hresult, hstate⟩ := hplaced (by decide +kernel)
  obtain ⟨before, x, after, hsplit, -, -, herror, hbefore⟩ := hrefused (by decide +kernel)
  rw [hslices] at hresult
  exact ⟨⟨hresult, hstate⟩, before, x, after, hsplit, herror, hbefore⟩

end GpuLedger
