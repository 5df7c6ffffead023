import GpuLedger.Proofs.Conservation
import GpuLedger.Proofs.Effects
import GpuLedger.Proofs.Limits

/-!
# Dry Runs as Predictions

A workload can be placed, it can be asked in three ways whether it can be placed, and it can be
worked out where it would be placed. All of these come to the same (`Ledger.allocate_some`,
`Ledger.snd_isFeasible`), so a dry run predicts what placing the workload on the same ledger does:
whether it succeeds, why it fails, and, by its placements alone, what is booked.

What placements **come to** is a list of entries (`Workload.entriesOf`): for each of them in order,
and for each of its devices in order, an entry of its cores and memory and of the run time that is
estimated for its container. These are the entries that are booked (`Ledger.entriesOf_placeFrom`),
so the node afterwards is the node before with these bookings made one after the other, and what
that comes to is known place by place (`Node.withEntries`).

## Main results

* `Ledger.map_index_placeFrom` — there is a placement for each container that asks for cores;
* `Ledger.entriesOf_placeFrom` — the placements come to what is booked;
* `dry_run_predicts_allocation` — the prediction as a whole.
-/

namespace GpuLedger

/-! ### What placements come to -/

/-- The entries of a placement whose container is expected to run for a time. -/
def Placement.entries (p : Placement) (time : Quantity) : List Entry :=
  p.devices.map (⟨·, ⟨p.vcore, p.vmemory, time⟩⟩)

/-- The entries to which placements of containers of a workload come, by their estimates. -/
def Workload.entriesOf (w : Workload) : List Placement → Except Error (List Entry)
  | [] => .ok []
  | p :: rest => do
    let time ← w.estimatedTime p.index
    let more ← w.entriesOf rest
    return p.entries time ++ more

namespace Workload

variable {w : Workload} {ps : List Placement} {es : List Entry}

/-- The entries of placements are those of the first and then those of the others. -/
theorem entriesOf_cons_eq_ok {p : Placement} :
    w.entriesOf (p :: ps) = .ok es ↔ ∃ time more, w.estimatedTime p.index = .ok time ∧
      w.entriesOf ps = .ok more ∧ p.entries time ++ more = es := by
  rw [entriesOf]
  cases w.estimatedTime p.index with
  | error e => exact iff_of_false nofun (by rintro ⟨_, _, h, -⟩; cases h)
  | ok time =>
      cases w.entriesOf ps with
      | error e => exact iff_of_false nofun (by rintro ⟨_, _, -, h, -⟩; cases h)
      | ok more =>
          refine ⟨fun h => ⟨time, more, rfl, rfl, Except.ok.inj h⟩, ?_⟩
          rintro ⟨_, _, htime, hmore, rfl⟩
          obtain rfl := Except.ok.inj htime
          obtain rfl := Except.ok.inj hmore
          rfl

/-- The devices of placements, in order, are those of their entries. -/
theorem map_device_entriesOf (h : w.entriesOf ps = .ok es) :
    es.map Entry.device = ps.flatMap Placement.devices := by
  induction ps generalizing es with
  | nil =>
      obtain rfl := Except.ok.inj h
      rfl
  | cons p rest ih =>
      obtain ⟨time, more, -, hmore, rfl⟩ := entriesOf_cons_eq_ok.mp h
      have hdevices : (p.entries time).map Entry.device = p.devices := by
        rw [Placement.entries, List.map_map]
        exact List.map_id p.devices
      rw [List.map_append, hdevices, ih hmore, List.flatMap_cons]

/-- Each device of a placement has an entry, with the estimate of the container. -/
theorem mem_entriesOf (h : w.entriesOf ps = .ok es) {p : Placement} (hp : p ∈ ps) {id : DeviceId}
    (hid : id ∈ p.devices) :
    ∃ time, w.estimatedTime p.index = .ok time ∧ ⟨id, ⟨p.vcore, p.vmemory, time⟩⟩ ∈ es := by
  induction ps generalizing es with
  | nil => exact absurd hp List.not_mem_nil
  | cons q rest ih =>
      obtain ⟨time, more, htime, hmore, rfl⟩ := entriesOf_cons_eq_ok.mp h
      rcases List.mem_cons.mp hp with rfl | hp
      · exact ⟨time, htime, List.mem_append_left _ (List.mem_map.mpr ⟨id, hid, rfl⟩)⟩
      · obtain ⟨time', htime', hmem⟩ := ih hmore hp
        exact ⟨time', htime', List.mem_append_right _ hmem⟩

end Workload

/-- A request is expected to run as long as its container. -/
theorem Workload.estimatedTime_of_request {w : Workload} {index : Nat} {c : Container}
    {r : Request} (h : w.request index c = .ok r) :
    w.estimatedTime index = .ok r.estimatedTime := by
  rw [request] at h
  cases htime : w.estimatedTime index with
  | error e =>
      rw [htime] at h
      cases h
  | ok time =>
      rw [htime] at h
      obtain rfl := Except.ok.inj h
      rfl

/-- What a container holds is held for the run time of its request. -/
theorem Request.estimatedTime_amount (quota : Quantity) (r : Request) :
    (r.amount quota).estimatedTime = r.estimatedTime := by
  rw [amount]
  cases r.mode <;> rfl

/-- Bookings change nothing about the capacity of a device. -/
theorem Device.totals_bookAll (as : List Amount) (d : Device) :
    ((d.bookAll as).totalCores, (d.bookAll as).totalMemory) = (d.totalCores, d.totalMemory) := by
  rw [bookAll_eq]
  rfl

/-- The capacities of the devices stay as they are. -/
theorem Node.map_totals_postAll (es : List Entry) (n : Node) :
    (n.postAll es).devices.map (fun d => (d.totalCores, d.totalMemory))
      = n.devices.map fun d => (d.totalCores, d.totalMemory) := by
  rw [postAll_eq]
  exact map_mapFirst fun _ d _ => d.totals_bookAll _

namespace Ledger

variable {policy : Policy} {w : Workload} {l last : Ledger} {ps : List Placement}

/-- What has been booked for one container is what its placement comes to. -/
theorem bookedOne_eq_entries {index : Nat} {c : Container} {next : Ledger} {p : Placement}
    (h : placeOne policy w index c l = ⟨next, .ok p⟩) :
    ∃ time, w.estimatedTime p.index = .ok time ∧
      bookedOne policy w index c l = p.entries time := by
  obtain ⟨r, hr, -, hp, hbooked⟩ := placement_of_placeOne h
  have hindex : p.index = index := congrArg Placement.index hp
  have hamount : (⟨p.vcore, p.vmemory, r.estimatedTime⟩ : Amount) = r.amount l.node.quota := by
    rw [hp, ← r.estimatedTime_amount l.node.quota]
  refine ⟨r.estimatedTime, ?_, ?_⟩
  · rw [hindex, Workload.estimatedTime_of_request hr]
  · rw [hbooked, Placement.entries, hamount]

/-- **There is a placement** for each container that asks for cores, in order. -/
theorem map_index_placeFrom {index : Nat} {cs : List Container}
    (h : placeFrom policy w index cs l = ⟨last, .ok ps⟩) :
    ps.map (fun p => (p.container, p.index))
      = (Container.asking index cs).map fun x => (x.1.name, x.2) := by
  induction cs generalizing index l ps with
  | nil =>
      obtain rfl : [] = ps := Except.ok.inj (Outcome.mk.inj h).2
      rfl
  | cons c rest ih =>
      by_cases hgpu : c.RequestsGpu
      · obtain ⟨next, p, qs, hplace, hmore, rfl⟩ := placeFrom_cons_eq_ok hgpu h
        obtain ⟨r, -, -, hp, -⟩ := placement_of_placeOne hplace
        have hfirst : (p.container, p.index) = (c.name, index) := by rw [hp]
        rw [Container.asking_cons_of_pos hgpu, List.map_cons, List.map_cons, hfirst, ih hmore]
      · rw [placeFrom, if_neg hgpu] at h
        rw [Container.asking_cons_of_neg hgpu, ih h]

/-- **What has been booked** is what the placements come to. -/
theorem entriesOf_placeFrom {index : Nat} {cs : List Container}
    (h : placeFrom policy w index cs l = ⟨last, .ok ps⟩) :
    w.entriesOf ps = .ok (bookedFrom policy w index cs l) := by
  induction cs generalizing index l ps with
  | nil =>
      obtain rfl : [] = ps := Except.ok.inj (Outcome.mk.inj h).2
      rfl
  | cons c rest ih =>
      rw [bookedFrom]
      by_cases hgpu : c.RequestsGpu
      · obtain ⟨next, p, qs, hplace, hmore, rfl⟩ := placeFrom_cons_eq_ok hgpu h
        obtain ⟨time, htime, hbooked⟩ := bookedOne_eq_entries hplace
        rw [if_pos hgpu, Workload.entriesOf, htime, ih hmore, hbooked, hplace]
        rfl
      · rw [placeFrom, if_neg hgpu] at h
        rw [if_neg hgpu, ih h]

/-! ### All ways of asking -/

/-- Placing a workload at a time that can be told is placing its containers and recording it. -/
theorem allocate_some (policy : Policy) (time : Int) (w : Workload) (l : Ledger) :
    allocate policy (some time) w l
      = (placeAll policy w l).map (w.annotate l.node.name time) := by
  rw [allocate]
  rcases placeAll policy w l with ⟨next, e | placements⟩ <;> rfl

/-- Where containers are placed does not depend on how questions are answered. -/
theorem placeFrom_feasibility (policy : Policy) (mode : Feasibility) (w : Workload) (index : Nat)
    (cs : List Container) (l : Ledger) :
    placeFrom { policy with feasibility := mode } w index cs l = placeFrom policy w index cs l := by
  induction cs generalizing index l with
  | nil => rfl
  | cons c rest ih =>
      have hone : placeOne { policy with feasibility := mode } w index c l
          = placeOne policy w index c l := rfl
      simp only [placeFrom, hone, ih]

/-- **A question** is answered with yes exactly if all containers can be placed, in whichever way it
is answered. -/
theorem snd_isFeasible (policy : Policy) (w : Workload) (l : Ledger) :
    (isFeasible policy w l).2 = (placeAll policy w l).succeeded := by
  rw [isFeasible]
  cases policy.feasibility <;> rfl

end Ledger

/-- **A dry run predicts what placing does.** On the same ledger, with or without a limit on its
bookings, a workload is placed exactly if the dry run succeeds, and that is what a question answers
in each way; and where it fails it fails for the same reason. Where it succeeds there is a placement
for each container that asks for cores, in order; the workload is handed back with the devices of
each of them under the index of its container, as numerals with commas between them; and what has
happened to the ledger, as well when it was only asked, is that the entries to which the placements
come have been booked one after the other. At each place that is the first one of its number there
are the bookings for this number behind those that were there, their time starts now, and the
counters have grown by what they hold until they reach the greatest quantity; under each number what
is held has grown by its entries. The name of the node, the capacity it advertises, the numbers and
the capacities of its devices stay as they were, and so does every device that none of these entries
is for. -/
theorem dry_run_predicts_allocation (policy : Policy) (time : Int) (w : Workload) (l : Ledger) :
    let predicted := Ledger.dryRun policy w l
    let o := Ledger.allocate policy (some time) w l
    (o.succeeded = predicted.toBool ∧
      (Ledger.isAllocatable policy w l).2 = predicted.toBool ∧
      ∀ mode, (Ledger.isFeasible { policy with feasibility := mode } w l).2 = predicted.toBool) ∧
    (∀ e, predicted = .error e ↔ o.result = .error e) ∧
    ∀ ps, predicted = .ok ps →
      ps.map (fun p => (p.container, p.index)) = w.asking.map (fun x => (x.1.name, x.2)) ∧
      (∃ placed, o.result = .ok placed ∧ ∀ p ∈ ps,
        placed.annotations.get? (Annotations.deviceList p.index) = some p.deviceList ∧
        p.deviceList = ",".intercalate (p.devices.map fun id => toString id.toNat)) ∧
      ∃ es, w.entriesOf ps = .ok es ∧
        l.node.bookEach es = .ok o.state.node ∧
        o.state.node = l.node.withEntries es ∧
        (∀ id, o.state.node.held id = l.node.held id + Entry.on id es) ∧
        o.state.commitsLeft = l.commitsLeft.map (· - es.length) ∧
        (Ledger.isAllocatable policy w l).1 = o.state ∧
        o.state.node.SameFrame l.node ∧
        o.state.node.devices.map (fun d => (d.totalCores, d.totalMemory))
          = l.node.devices.map (fun d => (d.totalCores, d.totalMemory)) ∧
        ∀ i : Nat, (∀ e ∈ es, l.node.place? e.device ≠ some i) →
          o.state.node.devices[i]? = l.node.devices[i]? := by
  intro predicted o
  have ho : o = (Ledger.placeAll policy w l).map (w.annotate l.node.name time) :=
    Ledger.allocate_some policy time w l
  refine ⟨⟨?_, rfl, fun mode => ?_⟩, fun e => ?_, fun ps hps => ?_⟩
  · rw [ho, Outcome.succeeded_map]
    rfl
  · rw [Ledger.snd_isFeasible, Ledger.placeAll, Ledger.placeFrom_feasibility]
    rfl
  · rw [ho]
    exact Outcome.result_map_eq_error.symm
  · have hplace : Ledger.placeAll policy w l = ⟨o.state, .ok ps⟩ := by
      have hstate : o.state = (Ledger.placeAll policy w l).state := by rw [ho, Outcome.state_map]
      rw [hstate, ← hps]
      rfl
    have hresult : o.result = .ok (w.annotate l.node.name time ps) := by
      rw [ho, hplace]
      rfl
    have hposts := Ledger.posts_booked policy w l
    rw [hplace] at hposts
    have hnode : o.state.node = l.node.postAll (Ledger.booked policy w l) := hposts.node_eq
    have hframe : o.state.node.SameFrame l.node :=
      Operation.sameFrame_perform (.demand (.allocate policy (some time) w)) l
    refine ⟨Ledger.map_index_placeFrom hplace, ⟨_, hresult, fun p hp => ?_⟩,
      Ledger.booked policy w l, Ledger.entriesOf_placeFrom hplace, ?_, ?_, hposts.held_eq,
      hposts.commitsLeft_eq, ?_, hframe, ?_, fun i hi => ?_⟩
    · have hindices := (Ledger.placeFrom_indices hplace).1
      exact ⟨Workload.get?_annotate_deviceList (hindices.imp Nat.ne_of_lt) hp w _ _,
        p.deviceList_eq⟩
    · rw [hnode]
      exact Node.bookEach_eq_ok hposts.isSome_device?
    · rw [hnode, Node.postAll_eq_withEntries]
    · rw [Ledger.isAllocatable, hplace]
    · rw [hnode, Node.map_totals_postAll]
    · rw [hnode, Node.getElem?_postAll hi]

/-- A workload of a shared container, one that asks for no cores, and an exclusive one of two
devices with an estimate, on three devices and under a limit of five bookings. The first device has
a booking already, whose time has been running. -/
theorem dry_run_predicts_allocation_mixed :
    let l : Ledger := ⟨⟨"node", 48, 3,
      [{ id := 0, totalCores := 400, totalMemory := 64, usedCores := 20, usedMemory := 2
         bookings := [⟨⟨20, 2, 9⟩, 3⟩] },
       { id := 1, totalCores := 100, totalMemory := 16 },
       { id := 2, totalCores := 100, totalMemory := 16 }]⟩, some 5⟩
    let w := Workload.withEstimatedTime 2 7
      { uid := ⟨1⟩, name := "job"
        containers := [.withGpu "part" 40 4, { name := "plain" }, .withGpu "whole" 200 0] }
    let ps : List Placement :=
      [⟨0, "part", .share, [0], 40, 4⟩, ⟨2, "whole", .exclusive, [1, 2], 100, 16⟩]
    let es : List Entry := [⟨0, ⟨40, 4, 0⟩⟩, ⟨1, ⟨100, 16, 7⟩⟩, ⟨2, ⟨100, 16, 7⟩⟩]
    let o := Ledger.allocate {} (some 9) w l
    Ledger.dryRun {} w l = .ok ps ∧ w.entriesOf ps = .ok es ∧ o.succeeded = true ∧
      l.node.bookEach es = .ok o.state.node ∧ o.state.commitsLeft = some 2 ∧
      o.state.node.devices =
        [{ id := 0, totalCores := 400, totalMemory := 64, usedCores := 60, usedMemory := 6
           bookings := [⟨⟨20, 2, 9⟩, 3⟩, ⟨⟨40, 4, 0⟩, 0⟩] },
         { id := 1, totalCores := 100, totalMemory := 16, usedCores := 100, usedMemory := 16
           bookings := [⟨⟨100, 16, 7⟩, 0⟩] },
         { id := 2, totalCores := 100, totalMemory := 16, usedCores := 100, usedMemory := 16
           bookings := [⟨⟨100, 16, 7⟩, 0⟩] }] ∧
      o.state.node.held 0 = {⟨20, 2, 9⟩, ⟨40, 4, 0⟩} ∧
      ∃ placed, o.result = .ok placed ∧
        placed.annotations.get? (Annotations.deviceList 2) = some "1,2" := by
  intro l w ps es o
  have hpredicted : Ledger.dryRun {} w l = .ok ps := by decide +kernel
  have hentries : w.entriesOf ps = .ok es := by decide +kernel
  obtain ⟨⟨hsucceeded, -, -⟩, -, hplaced⟩ := dry_run_predicts_allocation {} 9 w l
  obtain ⟨-, ⟨placed, hresult, hlists⟩, es', hes', hbooked, heffect, hheld, hleft, -⟩ :=
    hplaced ps hpredicted
  obtain rfl : es = es' := Except.ok.inj (hentries.symm.trans hes')
  refine ⟨hpredicted, hentries, ?_, hbooked, hleft, ?_, ?_, placed, hresult, ?_⟩
  · rw [hsucceeded, hpredicted]
    rfl
  · rw [heffect]
    decide +kernel
  · rw [hheld]
    decide +kernel
  · obtain ⟨hlist, htext⟩ := hlists ⟨2, "whole", .exclusive, [1, 2], 100, 16⟩ (by decide)
    rw [hlist, htext]
    decide +kernel

end GpuLedger
