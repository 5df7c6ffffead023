import GpuLedger.Proofs.Postings
import GpuLedger.Proofs.Returns

/-!
# Sessions

A session is what happens to one ledger over time: demands that may book, workloads that are
given back, and the passing of time, in any order and under any policies (`Ledger.run`). A
**demand** is any of the questions and requests by which entries get booked (`Demand`); it
carries its own policy. A release in a session is of any workload, also of one that was never
placed, and it may be stopped half-way.

A property of nodes is **kept** when it survives each of the three things that can happen to a
node: an entry that was allowed is posted, an entry that is held is taken away, time passes
(`Kept`). What is kept by these steps is kept by a whole session (`Kept.run`), and a property of
single devices needs to be looked at for single devices only (`kept_of_devices`).

## Conventions

The numbers of the devices are taken to be distinct wherever a demand has to be known to book
on the very device that it looked at; nothing that happens changes them (`kept_distinct`). What
any posting keeps needs no such thing (`Kept.run_any`); the first example is the frame of a node,
all that is not booked on it (`Node.SameFrame`).
-/

namespace GpuLedger

/-! ### Demands -/

/-- What is asked of a ledger and may book entries. -/
inductive Demand where
  /-- To place a workload, at a time. -/
  | allocate (policy : Policy) (clock : Option Int) (w : Workload)
  /-- To place one container, which stands for the one at an index of a workload. -/
  | placeOne (policy : Policy) (w : Workload) (index : Nat) (c : Container)
  /-- To place a workload only to say whether that was possible. -/
  | isAllocatable (policy : Policy) (w : Workload)
  /-- To say whether a workload fits, in the way of the policy. -/
  | isFeasible (policy : Policy) (w : Workload)
  /-- To say where a workload would be placed. -/
  | dryRun (policy : Policy) (w : Workload)

namespace Demand

/-- The policy of a demand. -/
def policy : Demand → Policy
  | allocate policy _ _ | placeOne policy _ _ _ | isAllocatable policy _ | isFeasible policy _
  | dryRun policy _ => policy

/-- The ledger that a demand leaves behind, whether it is met or not. -/
def perform : Demand → Ledger → Ledger
  | allocate policy clock w, l => (l.allocate policy clock w).state
  | placeOne policy w index c, l => (l.placeOne policy w index c).state
  | isAllocatable policy w, l => (l.isAllocatable policy w).1
  | isFeasible policy w, l => (l.isFeasible policy w).1
  | dryRun _ _, l => l

/-- The entries that a demand books. -/
def booked : Demand → Ledger → List Entry
  | allocate policy _ w, l | isAllocatable policy w, l => l.booked policy w
  | placeOne policy w index c, l => l.bookedOne policy w index c
  | isFeasible policy w, l =>
    match policy.feasibility with
    | .commit => l.booked policy w
    | .dryRun => []
  | dryRun _ _, _ => []

/-- The requests that a demand may place: the one of its container, or those of containers that
ask for cores. -/
def Asks : Demand → Request → Prop
  | placeOne _ w index c, r => w.request index c = .ok r
  | allocate _ _ _, r | isAllocatable _ _, r | isFeasible _ _, r | dryRun _ _, r => 0 < r.cores

/-- A booking that a demand may make on a node as it stands. -/
def Admits (d : Demand) (n : Node) (e : Entry) : Prop :=
  ∃ r, d.Asks r ∧ d.policy.Admits r n e

/-- The containers that a demand may place: its own, or those of its workload that ask for
cores. -/
def containers : Demand → List Container
  | placeOne _ _ _ c => [c]
  | allocate _ _ w | isAllocatable _ w | isFeasible _ w | dryRun _ w =>
    w.containers.filter fun c => decide c.RequestsGpu

/-- A booking that a demand may make for a container on a node as it stands. -/
def AdmitsFor (d : Demand) (c : Container) (n : Node) (e : Entry) : Prop :=
  ∃ r, d.Asks r ∧ r.cores = c.cores ∧ d.policy.Admits r n e

end Demand

namespace Ledger

/-- Whether the clock can be used makes no difference to the ledger. -/
theorem state_allocate (policy : Policy) (clock : Option Int) (w : Workload) (l : Ledger) :
    (allocate policy clock w l).state = (placeAll policy w l).state := by
  rw [allocate]
  rcases placeAll policy w l with ⟨next, e | ps⟩
  · rfl
  · cases clock <;> rfl

/-- **What a demand does** to the ledger: nothing, or it places all containers of a workload that
ask for cores, or it places one container. -/
theorem demand_cases (d : Demand) (l : Ledger) :
    (d.booked l = [] ∧ d.perform l = l) ∨
    (∃ w, (∀ r : Request, 0 < r.cores → d.Asks r) ∧
      d.containers = (w.containers.filter fun c => decide c.RequestsGpu) ∧
      d.booked l = booked d.policy w l ∧ d.perform l = (placeAll d.policy w l).state) ∨
    ∃ policy w index c, d = .placeOne policy w index c := by
  cases d with
  | allocate policy clock w =>
      exact .inr (.inl ⟨w, fun _ hr => hr, rfl, rfl, state_allocate policy clock w l⟩)
  | placeOne policy w index c => exact .inr (.inr ⟨policy, w, index, c, rfl⟩)
  | isAllocatable policy w => exact .inr (.inl ⟨w, fun _ hr => hr, rfl, rfl, rfl⟩)
  | isFeasible policy w =>
      simp only [Demand.booked, Demand.perform, Demand.policy, isFeasible]
      cases policy.feasibility with
      | commit => exact .inr (.inl ⟨w, fun _ hr => hr, rfl, rfl, rfl⟩)
      | dryRun => exact .inl ⟨rfl, rfl⟩
  | dryRun policy w => exact .inl ⟨rfl, rfl⟩

/-- What a demand has booked leads to the ledger that it leaves behind. -/
theorem posts_demand (d : Demand) (l : Ledger) :
    Posts (fun _ _ => True) l (d.booked l) (d.perform l) := by
  rcases demand_cases d l with ⟨hbooked, hperform⟩ | ⟨w, -, -, hbooked, hperform⟩ |
    ⟨policy, w, index, c, rfl⟩
  · rw [hbooked, hperform]
    exact .nil l
  · rw [hbooked, hperform]
    exact posts_booked d.policy w l
  · exact posts_bookedOne policy w index c l

/-- Where numbers are distinct, a demand books what it may book for one of its containers. -/
theorem posts_demand_admitsFor {l : Ledger} (hids : (l.node.devices.map Device.id).Nodup)
    (d : Demand) :
    Posts (fun n e => ∃ c ∈ d.containers, d.AdmitsFor c n e) l (d.booked l) (d.perform l) := by
  rcases demand_cases d l with ⟨hbooked, hperform⟩ | ⟨w, hasks, hcontainers, hbooked, hperform⟩ |
    ⟨policy, w, index, c, rfl⟩
  · rw [hbooked, hperform]
    exact .nil l
  · rw [hbooked, hperform]
    refine (posts_booked_admitted hids d.policy w).mono ?_
    rintro n e ⟨c, hc, hgpu, r, hr, hadmits⟩
    have hmem : c ∈ d.containers := by
      rw [hcontainers]
      exact List.mem_filter.mpr ⟨hc, decide_eq_true hgpu⟩
    have hpos : 0 < r.cores := by rwa [hr]
    exact ⟨c, hmem, r, hasks r hpos, hr, hadmits⟩
  · refine (posts_bookedOne_admitted hids policy w index c).mono ?_
    rintro n e ⟨r, hr, hadmits⟩
    exact ⟨c, List.mem_singleton.mpr rfl, r, hr, Workload.cores_of_request hr, hadmits⟩

/-- Where numbers are distinct, a demand books what it may book. -/
theorem posts_demand_admitted {l : Ledger} (hids : (l.node.devices.map Device.id).Nodup)
    (d : Demand) : Posts d.Admits l (d.booked l) (d.perform l) :=
  (posts_demand_admitsFor hids d).mono fun _ _ ⟨_, _, r, hasks, _, hadmits⟩ => ⟨r, hasks, hadmits⟩

end Ledger

/-! ### Operations and runs -/

/-- One thing that happens to a ledger. -/
inductive Operation where
  /-- Something is asked of it. -/
  | demand (d : Demand)
  /-- A workload is given back, whichever it is. -/
  | release (w : Workload)
  /-- Time passes. -/
  | age (time : Quantity)

/-- The ledger that an operation leaves behind, whether it succeeds or not. -/
def Operation.perform : Operation → Ledger → Ledger
  | demand d, l => d.perform l
  | release w, l => (l.release w).state
  | age time, l => l.age time

/-- A booking that an operation may make on a node as it stands. -/
def Operation.Admits : Operation → Node → Entry → Prop
  | demand d => d.Admits
  | release _ | age _ => fun _ _ => False

/-- The containers that an operation may place. -/
def Operation.containers : Operation → List Container
  | demand d => d.containers
  | release _ | age _ => []

/-- A booking that an operation may make for a container on a node as it stands. -/
def Operation.AdmitsFor : Operation → Container → Node → Entry → Prop
  | demand d => d.AdmitsFor
  | release _ | age _ => fun _ _ _ => False

/-- What may be booked for a container may be booked. -/
theorem Operation.AdmitsFor.admits {op : Operation} {c : Container} {n : Node} {e : Entry}
    (h : op.AdmitsFor c n e) : op.Admits n e := by
  cases op with
  | demand d =>
      obtain ⟨r, hasks, -, hadmits⟩ := h
      exact ⟨r, hasks, hadmits⟩
  | release w => exact h.elim
  | age time => exact h.elim

/-- Only demands book anything. -/
theorem Operation.Admits.exists_demand {op : Operation} {n : Node} {e : Entry}
    (h : op.Admits n e) :
    ∃ d r, op = .demand d ∧ d.Asks r ∧ d.policy.Admits r n e := by
  cases op with
  | demand d =>
      obtain ⟨r, hasks, hadmits⟩ := h
      exact ⟨d, r, rfl, hasks, hadmits⟩
  | release w => exact h.elim
  | age time => exact h.elim

/-- The policy of an operation that has one. -/
def Operation.policy? : Operation → Option Policy
  | demand d => some d.policy
  | release _ | age _ => none

/-- The ledger after several operations, one after the other. -/
def Ledger.run (ops : List Operation) (l : Ledger) : Ledger :=
  ops.foldl (fun l op => op.perform l) l

/-! ### What is kept -/

/-- A property of nodes that survives the posting of allowed entries, the taking away of entries
that are held, and the passing of time. -/
structure Kept (Allowed : Node → Entry → Prop) (I : Node → Prop) : Prop where
  post : ∀ n e, I n → Allowed n e → I (n.post e)
  unpost : ∀ n e, e.amount ∈ n.held e.device → I n → I (n.unpost e)
  age : ∀ n time, I n → I (n.age time)

/-- The numbers of the devices stay distinct, whatever is booked. -/
theorem kept_distinct :
    Kept (fun _ _ => True) (fun n => (n.devices.map Device.id).Nodup) where
  post n e hn _ := by rwa [Node.map_id_post]
  unpost n e _ hn := by rwa [Node.map_id_unpost]
  age n time hn := by rwa [Node.map_id_age]

namespace Kept

variable {Allowed : Node → Entry → Prop} {I : Node → Prop} {l : Ledger}

/-- **One step**: an operation that books allowed entries only, whichever container it places,
keeps what they keep. -/
theorem perform_for (h : Kept Allowed I) {op : Operation}
    (hids : (l.node.devices.map Device.id).Nodup)
    (hop : ∀ c ∈ op.containers, ∀ n e, op.AdmitsFor c n e → Allowed n e) (hI : I l.node) :
    I (op.perform l).node := by
  cases op with
  | demand d =>
      exact (Ledger.posts_demand_admitsFor hids d).invariant
        (fun n e hn ⟨c, hc, hfor⟩ => h.post n e hn (hop c hc n e hfor)) hI
  | release w => exact Ledger.release_invariant h.unpost hI
  | age time => exact h.age _ time hI

/-- **A whole run**: operations that book allowed entries only, whichever containers they place,
keep what they keep. -/
theorem run_for (h : Kept Allowed I) {ops : List Operation}
    (hids : (l.node.devices.map Device.id).Nodup)
    (hops : ∀ op ∈ ops, ∀ c ∈ op.containers, ∀ n e, op.AdmitsFor c n e → Allowed n e)
    (hI : I l.node) : I (l.run ops).node := by
  induction ops generalizing l with
  | nil => exact hI
  | cons op rest ih =>
      have hfirst : I (op.perform l).node :=
        h.perform_for hids (hops op List.mem_cons_self) hI
      have hdistinct : ((op.perform l).node.devices.map Device.id).Nodup :=
        kept_distinct.perform_for hids (fun _ _ _ _ _ => trivial) hids
      exact ih hdistinct (fun op' hop' => hops op' (List.mem_cons_of_mem _ hop')) hfirst

/-- **A whole run**: operations that book allowed entries only keep what they keep. -/
theorem run (h : Kept Allowed I) {ops : List Operation}
    (hids : (l.node.devices.map Device.id).Nodup)
    (hops : ∀ op ∈ ops, ∀ n e, op.Admits n e → Allowed n e) (hI : I l.node) :
    I (l.run ops).node :=
  h.run_for hids (fun op hop _ _ n e hfor => hops op hop n e hfor.admits) hI

/-- **One step**, where every posting is allowed: the numbers of the devices need not be
distinct. -/
theorem perform_any (h : Kept (fun _ _ => True) I) (op : Operation) (hI : I l.node) :
    I (op.perform l).node := by
  cases op with
  | demand d =>
      exact (Ledger.posts_demand d l).invariant (fun n e hn _ => h.post n e hn trivial) hI
  | release w => exact Ledger.release_invariant h.unpost hI
  | age time => exact h.age _ time hI

/-- **A whole run**, where every posting is allowed. -/
theorem run_any (h : Kept (fun _ _ => True) I) (ops : List Operation) (hI : I l.node) :
    I (l.run ops).node := by
  induction ops generalizing l with
  | nil => exact hI
  | cons op rest ih => exact ih (h.perform_any op hI)

end Kept

/-! ### What nothing changes -/

/-- Nodes that differ in what is booked on their devices only: they have the same name, advertise
the same, and have devices of the same numbers. -/
structure Node.SameFrame (m n : Node) : Prop where
  name : m.name = n.name
  totalMemory : m.totalMemory = n.totalMemory
  deviceCount : m.deviceCount = n.deviceCount
  ids : m.devices.map Device.id = n.devices.map Device.id

namespace Node.SameFrame

variable {m n k : Node}

protected theorem refl (n : Node) : n.SameFrame n := ⟨rfl, rfl, rfl, rfl⟩

protected theorem trans (h : m.SameFrame n) (h' : n.SameFrame k) : m.SameFrame k :=
  ⟨h.name.trans h'.name, h.totalMemory.trans h'.totalMemory,
    h.deviceCount.trans h'.deviceCount, h.ids.trans h'.ids⟩

/-- Nodes of the same frame have the same quota. -/
theorem quota_eq (h : m.SameFrame n) : m.quota = n.quota := by
  rw [quota, quota, h.totalMemory, h.deviceCount]

/-- There is a device of a number on both nodes or on neither. -/
theorem isSome_device? (h : m.SameFrame n) (id : DeviceId) :
    (m.device? id).isSome = (n.device? id).isSome := by
  have hmap : ∀ k : Node, (k.device? id).isSome = (k.devices.map Device.id).any (· = id) := by
    intro k
    rw [device?, List.isSome_find?, List.any_map]
    rfl
  rw [hmap, hmap, h.ids]

end Node.SameFrame

/-- **The frame of a node stays**, whatever is booked on it and given back. -/
theorem kept_sameFrame (m : Node) : Kept (fun _ _ => True) (fun n => n.SameFrame m) where
  post _ e hn _ := ⟨hn.name, hn.totalMemory, hn.deviceCount, by rw [Node.map_id_post, hn.ids]⟩
  unpost _ e _ hn := ⟨hn.name, hn.totalMemory, hn.deviceCount, by rw [Node.map_id_unpost, hn.ids]⟩
  age _ time hn := ⟨hn.name, hn.totalMemory, hn.deviceCount, by rw [Node.map_id_age, hn.ids]⟩

/-- An operation keeps the frame of the node. -/
theorem Operation.sameFrame_perform (op : Operation) (l : Ledger) :
    (op.perform l).node.SameFrame l.node :=
  (kept_sameFrame l.node).perform_any op (.refl l.node)

/-- A session keeps the frame of the node. -/
theorem Ledger.sameFrame_run (ops : List Operation) (l : Ledger) :
    (l.run ops).node.SameFrame l.node :=
  (kept_sameFrame l.node).run_any ops (.refl l.node)

/-! ### Device by device -/

/-- **Device by device**: a property of devices that survives the allowed bookings, giving back
what is booked, and the passing of time is kept for all devices of a node, as is the quota. -/
theorem kept_of_devices (Allowed : Device → Amount → Prop) (J : Device → Prop) (quota : Quantity)
    (hbook : ∀ d a, J d → Allowed d a → J (d.book a))
    (hunbook : ∀ d a, a ∈ d.amounts → J d → J (d.unbook a))
    (hage : ∀ d time, J d → J (d.age time)) :
    Kept (fun n e => n.quota = quota → ∃ d, n.device? e.device = some d ∧ Allowed d e.amount)
      (fun n => n.quota = quota ∧ ∀ d ∈ n.devices, J d) where
  post n e hn hallowed := by
    refine ⟨hn.1, fun x hx => ?_⟩
    rcases Node.mem_mapFirst hx with hx | ⟨d, hd, rfl⟩
    · exact hn.2 x hx
    · have hJ := hn.2 d (Node.mem_of_device? hd)
      rw [Device.apply]
      split
      · next hid =>
        obtain ⟨d', hd', ha⟩ := hallowed hn.1
        obtain rfl : d = d' := Option.some.inj ((hid ▸ hd).symm.trans hd')
        exact hbook d e.amount hJ ha
      · exact hJ
  unpost n e hmem hn := by
    refine ⟨hn.1, fun x hx => ?_⟩
    rcases Node.mem_mapFirst hx with hx | ⟨d, hd, rfl⟩
    · exact hn.2 x hx
    · have hJ := hn.2 d (Node.mem_of_device? hd)
      rw [Device.apply]
      split
      · next hid =>
        rw [← hid, Node.held_of_device? hd] at hmem
        exact hunbook d e.amount hmem hJ
      · exact hJ
  age n time hn := by
    refine ⟨hn.1, fun x hx => ?_⟩
    obtain ⟨d, hd, rfl⟩ := List.mem_map.mp hx
    exact hage d time (hn.2 d hd)

end GpuLedger
