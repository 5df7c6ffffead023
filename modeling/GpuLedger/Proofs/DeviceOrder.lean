import GpuLedger.Proofs.Answers
import GpuLedger.Proofs.Sorting
import Mathlib.Data.List.Forall2

/-!
# The Order of the Devices

A node lists its devices in some order. Where their numbers are distinct the order means nothing:
two nodes that differ only in it (`Node.Rearranged`) are placed on alike, whatever happens to
them. A shared placement sorts its candidates and an exclusive one its pool by a chain that
decides between any two devices of different numbers, so both see the same list
(`Share.candidates_rearranged`, `Exclusive.pool_rearranged`); scores are sums from the left over
that list, so they agree in every bit; and what is booked or given back goes to the device of a
number, which is the same device on both nodes.

The proof runs both nodes side by side. `Outcome.Alike` says that two outcomes have the same
result and leave rearranged ledgers behind; each function of placing and releasing takes
rearranged ledgers to outcomes that are alike, failures included.

## Main results

* `Share.rank_rearranged` — the same ranking, devices and scores;
* `Operation.outcome_rearranged` — one operation on two nodes;
* `device_order_irrelevant` — whole sessions on two nodes, at times of their own.
-/

namespace GpuLedger

/-! ### Nodes that differ in the order of their devices -/

/-- The same node with its devices listed in another order. -/
structure Node.Rearranged (m n : Node) : Prop where
  name : m.name = n.name
  totalMemory : m.totalMemory = n.totalMemory
  deviceCount : m.deviceCount = n.deviceCount
  devices : m.devices.Perm n.devices

/-- Ledgers of rearranged nodes, on which the numbers of the devices are distinct. -/
structure Ledger.Rearranged (l l' : Ledger) : Prop where
  node : l.node.Rearranged l'.node
  commitsLeft : l.commitsLeft = l'.commitsLeft
  distinct : (l.node.devices.map Device.id).Nodup

namespace Node

variable {m n : Node}

/-- The same change of every device of two rearranged nodes. -/
theorem Rearranged.mapFirst (h : m.Rearranged n) (hids : (m.devices.map Device.id).Nodup)
    (f : Device → Device) : (m.mapFirst f).Rearranged (n.mapFirst f) := by
  have hids' : (n.devices.map Device.id).Nodup :=
    (h.devices.map Device.id).nodup_iff.mp hids
  rw [mapFirst_eq_map hids, mapFirst_eq_map hids']
  exact ⟨h.name, h.totalMemory, h.deviceCount, h.devices.map f⟩

/-- Time passes on a rearranged node as on the node itself. -/
theorem Rearranged.age (h : m.Rearranged n) (time : Quantity) :
    (m.age time).Rearranged (n.age time) :=
  ⟨h.name, h.totalMemory, h.deviceCount, h.devices.map (Device.age time)⟩

/-- Rearranging devices does not change the quota. -/
theorem Rearranged.quota_eq (h : m.Rearranged n) : m.quota = n.quota := by
  rw [quota, quota, h.totalMemory, h.deviceCount]

/-- A number stands for the same device. -/
theorem Rearranged.device?_eq (h : m.Rearranged n) (hids : (m.devices.map Device.id).Nodup)
    (id : DeviceId) : m.device? id = n.device? id := by
  cases hd : n.device? id with
  | none =>
      refine List.find?_eq_none.mpr fun d hdm => ?_
      exact List.find?_eq_none.mp hd d (h.devices.mem_iff.mp hdm)
  | some d =>
      obtain rfl := id_of_device? hd
      exact device?_of_mem hids (h.devices.mem_iff.mpr (mem_of_device? hd))

/-- Where numbers are distinct, rearranging devices does not change what is held under a number. -/
theorem Rearranged.held_eq (h : m.Rearranged n) (hids : (m.devices.map Device.id).Nodup)
    (id : DeviceId) : m.held id = n.held id := by
  rw [held, held, h.device?_eq hids]

end Node

namespace Ledger.Rearranged

variable {l l' : Ledger}

/-- An entry is booked on rearranged ledgers alike. -/
theorem post (h : l.Rearranged l') (e : Entry) (left : Option Nat) :
    Rearranged ⟨l.node.post e, left⟩ ⟨l'.node.post e, left⟩ :=
  ⟨h.node.mapFirst h.distinct _, rfl, by rw [Node.map_id_post]; exact h.distinct⟩

/-- An entry is taken away from rearranged ledgers alike. -/
theorem unpost (h : l.Rearranged l') (e : Entry) :
    Rearranged { l with node := l.node.unpost e } { l' with node := l'.node.unpost e } :=
  ⟨h.node.mapFirst h.distinct _, h.commitsLeft, by rw [Node.map_id_unpost]; exact h.distinct⟩

/-- Time passes on rearranged ledgers alike. -/
theorem age (h : l.Rearranged l') (time : Quantity) : (l.age time).Rearranged (l'.age time) :=
  ⟨h.node.age time, h.commitsLeft, by
    rw [Ledger.age, Node.map_id_age]; exact h.distinct⟩

end Ledger.Rearranged

/-! ### The same choice -/

section Choice

variable {ds es : List Device}

/-- Candidates are the same list, whatever order the devices came in. -/
theorem Share.candidates_rearranged (h : ds.Perm es) (hids : (ds.map Device.id).Nodup)
    (filter : Bool) (r : Request) : candidates filter ds r = candidates filter es r :=
  Order.sort_eq_of_perm (by decide) (h.filter _) (hids.sublist (List.filter_sublist.map _))

/-- **The same ranking**: the same devices, with the same scores. -/
theorem Share.rank_rearranged (h : ds.Perm es) (hids : (ds.map Device.id).Nodup) (filter : Bool)
    (r : Request) : rank filter ds r = rank filter es r := by
  rw [rank, rank, candidates_rearranged h hids]

/-- The pool is the same list, whatever order the devices came in. -/
theorem Exclusive.pool_rearranged (h : ds.Perm es) (hids : (ds.map Device.id).Nodup) :
    pool ds = pool es :=
  Order.sort_eq_of_perm (by decide) (h.filter _) (hids.sublist (List.filter_sublist.map _))

/-- **The same devices are chosen**, under any policy. -/
theorem Policy.choose_rearranged (h : ds.Perm es) (hids : (ds.map Device.id).Nodup)
    (policy : Policy) (r : Request) : policy.choose ds r = policy.choose es r := by
  rw [choose, choose, Share.choose?, Share.choose?, Share.rank_rearranged h hids,
    Exclusive.choose, Exclusive.choose, Exclusive.pool_rearranged h hids]

end Choice

/-! ### Outcomes that are alike -/

/-- The same result, and rearranged ledgers left behind. -/
structure Outcome.Alike {α : Type} (o o' : Outcome Ledger Error α) : Prop where
  state : o.state.Rearranged o'.state
  result : o.result = o'.result

/-- A function of the answers keeps outcomes alike. -/
theorem Outcome.Alike.map {α β : Type} {o o' : Outcome Ledger Error α} (h : o.Alike o')
    (f : α → β) : (o.map f).Alike (o'.map f) :=
  ⟨h.state, congrArg (Except.map f) h.result⟩

namespace Ledger

variable {l l' : Ledger}

/-- One booking goes through on both ledgers or fails on both for the same reason. -/
theorem book_rearranged (h : l.Rearranged l') (id : DeviceId) (a : Amount) :
    (∃ next next', l.book id a = .ok next ∧ l'.book id a = .ok next' ∧ next.Rearranged next') ∨
    ∃ e, l.book id a = .error e ∧ l'.book id a = .error e := by
  rw [book, book, ← h.commitsLeft]
  split
  · exact .inr ⟨_, rfl, rfl⟩
  · rw [Node.book_eq l.node ⟨id, a⟩, Node.book_eq l'.node ⟨id, a⟩,
      ← h.node.device?_eq h.distinct, ← h.node.name]
    split
    · exact .inl ⟨_, _, rfl, rfl, h.post ⟨id, a⟩ _⟩
    · exact .inr ⟨_, rfl, rfl⟩

/-- One entry is given back on both ledgers or fails to be on both for the same reason. -/
theorem unbook_rearranged (h : l.Rearranged l') (e : Entry) :
    (∃ next next', l.unbook e.device e.amount = .ok next ∧
      l'.unbook e.device e.amount = .ok next' ∧ next.Rearranged next') ∨
    ∃ err, l.unbook e.device e.amount = .error err ∧
      l'.unbook e.device e.amount = .error err := by
  -- Which of the two it is depends on what the device of that number holds, the same on both.
  have hheld := h.node.held_eq h.distinct e.device
  by_cases hmem : e.amount ∈ l.node.held e.device
  · exact .inl ⟨_, _, unbook_eq_ok hmem, unbook_eq_ok (hheld ▸ hmem), h.unpost e⟩
  · have hmem' : e.amount ∉ l'.node.held e.device := hheld ▸ hmem
    refine .inr ⟨if (l'.node.device? e.device).isSome then .bookingNotFound l'.node.name e.device
      else .deviceNotFound l'.node.name e.device, ?_, ?_⟩
    · rw [unbook, Node.unbook_of_notMem hmem, h.node.device?_eq h.distinct, h.node.name]
      rfl
    · rw [unbook, Node.unbook_of_notMem hmem']
      rfl

/-- One amount booked on several devices in turn. -/
theorem bookAll_rearranged (a : Amount) (ids : List DeviceId) (h : l.Rearranged l') :
    (bookAll a ids l).Alike (bookAll a ids l') := by
  induction ids generalizing l l' with
  | nil => exact ⟨h, rfl⟩
  | cons id rest ih =>
      rw [bookAll, bookAll]
      rcases book_rearranged h id a with ⟨next, next', hbook, hbook', hnext⟩ | ⟨e, hbook, hbook'⟩
      · simp only [hbook, hbook']
        exact ih hnext
      · simp only [hbook, hbook']
        exact ⟨h, rfl⟩

/-- Several entries given back in turn. -/
theorem returnAll_rearranged (es : List Entry) (h : l.Rearranged l') :
    (returnAll es l).Alike (returnAll es l') := by
  induction es generalizing l l' with
  | nil => exact ⟨h, rfl⟩
  | cons e rest ih =>
      rw [returnAll, returnAll]
      rcases unbook_rearranged h e with ⟨next, next', hback, hback', hnext⟩ | ⟨err, hback, hback'⟩
      · simp only [hback, hback']
        exact ih hnext
      · simp only [hback, hback']
        exact ⟨h, rfl⟩

/-- One container placed. -/
theorem placeOne_rearranged (policy : Policy) (w : Workload) (index : Nat) (c : Container)
    (h : l.Rearranged l') :
    (placeOne policy w index c l).Alike (placeOne policy w index c l') := by
  rw [placeOne, placeOne]
  cases w.request index c with
  | error e => exact ⟨h, rfl⟩
  | ok r =>
      have hchoose := Policy.choose_rearranged h.node.devices h.distinct policy r
      simp only [hchoose, h.node.quota_eq]
      cases (policy.choose l'.node.devices r).map Device.id with
      | nil => exact ⟨h, rfl⟩
      | cons id ids => exact (bookAll_rearranged _ _ h).map _

/-- The containers of a workload placed from an index on. -/
theorem placeFrom_rearranged (policy : Policy) (w : Workload) (index : Nat) (cs : List Container)
    (h : l.Rearranged l') :
    (placeFrom policy w index cs l).Alike (placeFrom policy w index cs l') := by
  induction cs generalizing index l l' with
  | nil => exact ⟨h, rfl⟩
  | cons c rest ih =>
      rw [placeFrom, placeFrom]
      by_cases hgpu : c.RequestsGpu
      · rw [if_pos hgpu, if_pos hgpu]
        have hone := placeOne_rearranged policy w index c h
        rcases hp : placeOne policy w index c l with ⟨next, result⟩
        rcases hp' : placeOne policy w index c l' with ⟨next', result'⟩
        rw [hp, hp'] at hone
        obtain rfl : result = result' := hone.result
        cases result with
        | error e => exact ⟨hone.state, rfl⟩
        | ok p => exact (ih (index + 1) hone.state).map _
      · rw [if_neg hgpu, if_neg hgpu]
        exact ih (index + 1) h

/-- Workloads are placed alike on rearranged ledgers. -/
theorem placeAll_rearranged (policy : Policy) (w : Workload) (h : l.Rearranged l') :
    (placeAll policy w l).Alike (placeAll policy w l') :=
  placeFrom_rearranged policy w 0 w.containers h

/-- Allocations on rearranged ledgers have the same answer. -/
theorem allocate_rearranged (policy : Policy) (clock : Option Int) (w : Workload)
    (h : l.Rearranged l') : (allocate policy clock w l).Alike (allocate policy clock w l') := by
  have hall := placeAll_rearranged policy w h
  rw [allocate, allocate]
  rcases hp : placeAll policy w l with ⟨next, result⟩
  rcases hp' : placeAll policy w l' with ⟨next', result'⟩
  rw [hp, hp'] at hall
  obtain rfl : result = result' := hall.result
  cases result with
  | error e => exact ⟨hall.state, rfl⟩
  | ok placements =>
      cases clock with
      | none => exact ⟨hall.state, rfl⟩
      | some time => exact ⟨hall.state, by simp only [h.node.name]⟩

/-- Releases on rearranged ledgers have the same answer. -/
theorem release_rearranged (w : Workload) (h : l.Rearranged l') :
    (release w l).Alike (release w l') := by
  have hall := returnAll_rearranged (w.dues l'.node.quota).1 h
  rw [release_eq, release_eq, h.node.quota_eq, Outcome.followedBy, Outcome.followedBy,
    hall.result]
  split
  · exact ⟨hall.state, rfl⟩
  · exact ⟨hall.state, rfl⟩

end Ledger

/-! ### Sessions on two nodes -/

/-- **One operation on two nodes** that differ in the order of their devices. -/
theorem Operation.outcome_rearranged (op : Operation) {l l' : Ledger} (h : l.Rearranged l') :
    (op.outcome l).Alike (op.outcome l') := by
  cases op with
  | demand d =>
      cases d with
      | allocate policy clock w => exact (Ledger.allocate_rearranged policy clock w h).map _
      | placeOne policy w index c => exact (Ledger.placeOne_rearranged policy w index c h).map _
      | isAllocatable policy w =>
          have hall := Ledger.placeAll_rearranged policy w h
          refine ⟨hall.state, ?_⟩
          simp only [outcome, Demand.outcome, Ledger.isAllocatable, Outcome.succeeded, hall.result]
      | isFeasible policy w =>
          have hall := Ledger.placeAll_rearranged policy w h
          simp only [outcome, Demand.outcome, Ledger.isFeasible, Ledger.isAllocatable,
            Ledger.dryRun, Outcome.succeeded, hall.result]
          cases policy.feasibility with
          | commit => exact ⟨hall.state, rfl⟩
          | dryRun => exact ⟨h, rfl⟩
      | dryRun policy w =>
          have hall := Ledger.placeAll_rearranged policy w h
          refine ⟨h, ?_⟩
          simp only [outcome, Demand.outcome, Ledger.dryRun, hall.result]
  | release w => exact (Ledger.release_rearranged w h).map _
  | age time => exact ⟨h.age time, rfl⟩

/-- Operations that are equal up to times, on two nodes that differ in the order of their
devices. -/
theorem Operation.outcome_rearranged_untimed {op op' : Operation} (hop : op.untimed = op'.untimed)
    {l l' : Ledger} (h : l.Rearranged l') :
    ((op.outcome l).map Answer.untimed).Alike ((op'.outcome l').map Answer.untimed) := by
  rw [← op.outcome_untimed, ← op'.outcome_untimed, hop]
  exact (op'.untimed.outcome_rearranged h).map _

/-- **The order of the devices does not matter.** Two nodes of distinct devices that differ only
in the order in which the devices are listed go through the same operations, each node at its own
times. Every operation has the same result on both, up to the recorded times, and the same error
where it fails; after each of them the nodes still differ only in the order of their devices; and
at all times every request ranks the same devices with the same scores. -/
theorem device_order_irrelevant {l l' : Ledger} (h : l.Rearranged l') {ops ops' : List Operation}
    (hops : ops.map Operation.untimed = ops'.map Operation.untimed) :
    (∀ filter r, Share.rank filter l.node.devices r = Share.rank filter l'.node.devices r) ∧
    List.Forall₂ (fun o o' =>
        o.result.map Answer.untimed = o'.result.map Answer.untimed ∧
        o.state.Rearranged o'.state ∧
        ∀ filter r, Share.rank filter o.state.node.devices r
          = Share.rank filter o'.state.node.devices r)
      (l.steps ops) (l'.steps ops') := by
  refine ⟨Share.rank_rearranged h.node.devices h.distinct, ?_⟩
  -- Side by side through both runs; that the ledgers are rearranged is what they keep in common.
  induction ops generalizing l l' ops' with
  | nil =>
      obtain rfl := List.map_eq_nil_iff.mp hops.symm
      exact .nil
  | cons op rest ih =>
      obtain ⟨op', rest', rfl, hop, hrest⟩ := List.map_eq_cons_iff.mp hops.symm
      have hstep := Operation.outcome_rearranged_untimed hop.symm h
      have hstate : (op.outcome l).state.Rearranged (op'.outcome l').state := hstep.state
      refine .cons ⟨hstep.result, hstate, ?_⟩ ?_
      · exact Share.rank_rearranged hstate.node.devices hstate.distinct
      · rw [Operation.state_outcome, Operation.state_outcome] at hstate
        exact ih hstate hrest.symm

/-- Three devices and the same devices the other way round. A workload of two containers, an
exclusive one of two devices and a shared one on the third, is placed on both nodes, does not fit
a second time, and is given back, on each node with its own times. -/
theorem device_order_irrelevant_reversed :
    let devices : List Device :=
      [{ id := 0, totalCores := 100, totalMemory := 16 },
       { id := 1, totalCores := 100, totalMemory := 16 },
       { id := 2, totalCores := 200, totalMemory := 16 }]
    let l : Ledger := ⟨⟨"node", 48, 3, devices⟩, none⟩
    let l' : Ledger := ⟨⟨"node", 48, 3, devices.reverse⟩, none⟩
    let w : Workload :=
      { uid := ⟨1⟩, name := "job", containers := [.withGpu "wide" 200 0, .withGpu "part" 40 4] }
    let placed := fun time : Int => w.annotate "node" time
      [⟨0, "wide", .exclusive, [0, 1], 100, 16⟩, ⟨1, "part", .share, [2], 40, 4⟩]
    let ops := fun time : Int => [Operation.demand (.allocate {} (some time) w),
      .demand (.allocate {} (some (time + 1)) w), .release (placed time)]
    (l.steps (ops 9)).map Outcome.result
        = [.ok (.placed (placed 9)), .error (.noFeasibleDevice "wide"), .ok .done] ∧
      List.Forall₂ (fun o o' => o.result.map Answer.untimed = o'.result.map Answer.untimed ∧
          o.state.Rearranged o'.state)
        (l.steps (ops 9)) (l'.steps (ops 5)) := by
  intro devices l l' w placed ops
  have hl : l.Rearranged l' :=
    ⟨⟨rfl, rfl, rfl, devices.reverse_perm.symm⟩, rfl, by decide⟩
  have hops : (ops 9).map Operation.untimed = (ops 5).map Operation.untimed := by
    simp only [ops, List.map_cons, List.map_nil, Operation.untimed, Demand.untimed,
      Option.map_some, placed, Workload.untimed_annotate]
  refine ⟨by decide +kernel, (device_order_irrelevant hl hops).2.imp ?_⟩
  rintro o o' ⟨hresult, hstate, -⟩
  exact ⟨hresult, hstate⟩

end GpuLedger
