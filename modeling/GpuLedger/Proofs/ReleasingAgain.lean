import GpuLedger.Proofs.Answers
import GpuLedger.Proofs.FleetRuns

/-!
# Releasing a Workload Again

Bookings do not say whose they are: a release takes away, device by device, the oldest booking of
the amount that the workload had booked. So a workload that has been given back can be given back
again where another one has booked the same amounts on the same devices. Whether it can is decided
by what is booked at that moment and by nothing else (`Outcome.DecidedBy`): the release is refused
and changes nothing exactly where the first of the entries booked for the workload is not held any
more, and it succeeds exactly where all of them are held.

The argument is about a list of entries that is given back (`Ledger.returnAll`). The entries of a
workload that was handed out are known (`Ledger.dues_of_allocate`), and they stay what they are as
long as the node has its quota, which it always has (`Node.SameFrame`).

## Main results

* `Ledger.returnAll_unchanged_iff`, `Ledger.returnAll_eq_ok_iff` — when giving back a list of
  entries changes nothing, and when it succeeds;
* `released_again_decided` — every release of a workload that was handed out, at any time later, on
  a ledger and in a fleet;
* `released_again_takes_anothers` — a workload that is given back twice, the second time with the
  bookings of another one.
-/

namespace GpuLedger

/-! ### Entries that are given back -/

namespace Ledger

variable {es : List Entry} {l : Ledger}

/-- Giving back adds nothing to what is held. -/
theorem held_returnAll_le (es : List Entry) (l : Ledger) (id : DeviceId) :
    (returnAll es l).state.node.held id ≤ l.node.held id := by
  refine returnAll_invariant (I := fun n => n.held id ≤ l.node.held id) ?_ le_rfl
  intro n e _ hle
  rw [Node.held_unpost]
  exact (Multiset.sub_le_self _ _).trans hle

/-- Giving back is not counted. -/
theorem commitsLeft_returnAll (es : List Entry) (l : Ledger) :
    (returnAll es l).state.commitsLeft = l.commitsLeft := by
  induction es generalizing l with
  | nil => rfl
  | cons e rest ih =>
      rw [returnAll]
      cases h : l.unbook e.device e.amount with
      | error err => rfl
      | ok next =>
          obtain ⟨-, rfl⟩ := unpost_of_unbook h
          exact ih _

/-- An entry that is not held ends it at once. -/
theorem returnAll_of_notMem {e : Entry} {rest : List Entry}
    (h : e.amount ∉ l.node.held e.device) :
    returnAll (e :: rest) l = ⟨l, .error (if (l.node.device? e.device).isSome
      then .bookingNotFound l.node.name e.device
      else .deviceNotFound l.node.name e.device)⟩ := by
  rw [returnAll, unbook, Node.unbook_of_notMem h]
  rfl

/-- **Nothing is changed** by giving back entries in vain exactly if the first is not held. -/
theorem returnAll_unchanged_iff {e : Entry} {rest : List Entry} :
    (∃ err, returnAll (e :: rest) l = ⟨l, .error err⟩) ↔ e.amount ∉ l.node.held e.device := by
  constructor
  · -- Had the first entry been taken away, less would be held: nothing later puts it back.
    rintro ⟨err, herr⟩ hmem
    have hle := held_returnAll_le rest { l with node := l.node.unpost e } e.device
    have hstate : returnAll rest { l with node := l.node.unpost e } = ⟨l, .error err⟩ := by
      rw [← herr, returnAll, unbook_eq_ok hmem]
    rw [hstate, Node.held_unpost, Entry.on_singleton_self, Multiset.sub_singleton] at hle
    exact absurd hle (Multiset.erase_lt.mpr hmem).not_ge
  · intro hmem
    exact ⟨_, returnAll_of_notMem hmem⟩

/-- **Entries are given back** exactly if all of them are held. -/
theorem returnAll_eq_ok_iff :
    (returnAll es l).result = .ok () ↔ l.node.Holds es := by
  refine ⟨fun h => ?_, fun h => by rw [returnAll_of_holds h]⟩
  induction es generalizing l with
  | nil => exact fun id => Multiset.zero_le _
  | cons e rest ih =>
      by_cases hmem : e.amount ∈ l.node.held e.device
      · rw [returnAll, unbook_eq_ok hmem] at h
        exact Node.holds_cons_iff.mpr ⟨hmem, ih h⟩
      · rw [returnAll_of_notMem hmem] at h
        cases h

end Ledger

/-! ### Releases -/

/-- What is decided about a release on a node by the entries that are to be given back, the first
of them and the others: it is refused and leaves the state as it is exactly if the first is not
held, and then for that reason; and it succeeds exactly if all of them are held. -/
structure Outcome.DecidedBy {σ : Type} (o : Outcome σ Error Unit) (s : σ) (n : Node)
    (first : Entry) (rest : List Entry) : Prop where
  unchanged_iff : (∃ err, o = ⟨s, .error err⟩) ↔ first.amount ∉ n.held first.device
  error_eq : first.amount ∉ n.held first.device →
    o.result = .error (.bookingNotFound n.name first.device)
  ok_iff : o.result = .ok () ↔ n.Holds (first :: rest)

namespace Ledger

/-- **On a ledger** what is held decides about a release. -/
theorem decidedBy_release {w : Workload} {l : Ledger} {first : Entry} {rest : List Entry}
    (hdues : w.dues l.node.quota = (first :: rest, none))
    (hdevice : (l.node.device? first.device).isSome) :
    (release w l).DecidedBy l l.node first rest := by
  rw [release_eq_returnAll hdues]
  refine ⟨returnAll_unchanged_iff, fun h => ?_, returnAll_eq_ok_iff⟩
  rw [returnAll_of_notMem h, if_pos hdevice]

end Ledger

/-- **In a fleet** what is held on the node of the name decides. -/
theorem Fleet.decidedBy_release {name : String} {w : Workload} {f : Fleet} {n : Node}
    {first : Entry} {rest : List Entry} (hn : f.nodes.get? name = some n)
    (hdues : w.dues n.quota = (first :: rest, none))
    (hdevice : (n.device? first.device).isSome) :
    (f.release name w).DecidedBy f n first rest := by
  have hledger : (Ledger.release w { node := n }).DecidedBy { node := n } n first rest :=
    Ledger.decidedBy_release hdues hdevice
  have hleft : (Ledger.release w { node := n }).state.commitsLeft = none := by
    rw [Ledger.release_eq_returnAll hdues, Ledger.commitsLeft_returnAll]
  rcases hrelease : Ledger.release w { node := n } with ⟨⟨m, left⟩, result⟩
  rw [hrelease] at hledger hleft
  obtain rfl : left = none := hleft
  simp only [Fleet.release, Fleet.onNode_eq, hn, hrelease]
  -- The fleet is as it was exactly if the node is: it is put back under its name.
  refine ⟨?_, hledger.error_eq, hledger.ok_iff⟩
  rw [← hledger.unchanged_iff]
  constructor
  · rintro ⟨err, herr⟩
    obtain ⟨hfleet, rfl⟩ := Outcome.mk.inj herr
    have hget := congrArg (fun f => f.nodes.get? name) hfleet
    simp only [SortedMap.get?_insert, if_true, hn] at hget
    obtain rfl : m = n := Option.some.inj hget
    exact ⟨err, rfl⟩
  · rintro ⟨err, herr⟩
    obtain ⟨hstate, rfl⟩ := Outcome.mk.inj herr
    obtain rfl : m = n := congrArg Ledger.node hstate
    exact ⟨err, by simp only [SortedMap.insert_eq_self hn]⟩

/-! ### Workloads that were handed out -/

/-- Something is booked for a workload that asks for cores and is placed. -/
theorem Ledger.bookedFrom_ne_nil {policy : Policy} {w : Workload} {index : Nat}
    {cs : List Container} {l last : Ledger} {ps : List Placement}
    (h : placeFrom policy w index cs l = ⟨last, .ok ps⟩) (hgpu : ∃ c ∈ cs, c.RequestsGpu) :
    bookedFrom policy w index cs l ≠ [] := by
  induction cs generalizing index l ps with
  | nil => simp at hgpu
  | cons c rest ih =>
      rw [bookedFrom]
      by_cases hc : c.RequestsGpu
      · obtain ⟨next, p, qs, hplace, -, -⟩ := placeFrom_cons_eq_ok hc h
        obtain ⟨r, -, -, hdevices, hbooked⟩ := placeOne_eq_ok hplace
        rw [if_pos hc, hbooked]
        simp [hdevices]
      · rw [placeFrom, if_neg hc] at h
        obtain ⟨c', hc', hgpu'⟩ := hgpu
        rw [if_neg hc]
        refine ih h ⟨c', ?_, hgpu'⟩
        rcases List.mem_cons.mp hc' with rfl | hc'
        · exact absurd hgpu' hc
        · exact hc'

/-- **Releasing a workload again.** A workload that asks for cores was placed, and entries were
booked for it. At any later time, whatever else has been placed and given back until then and how
often the workload itself has been, what is held decides about its release: it is refused, and
leaves everything as it is, exactly if the first of those entries is not held any more, the reason
being that there is no such booking; and it succeeds exactly if all of those entries are held,
no matter for which workloads. The same is true in a fleet, as long as the node on which the
workload was placed is neither replaced nor removed. -/
theorem released_again_decided {policy : Policy} {clock : Option Int} {w w' : Workload}
    {l next : Ledger} (h : l.allocate policy clock w = ⟨next, .ok w'⟩)
    (hgpu : ∃ c ∈ w.containers, c.RequestsGpu) :
    ∃ first rest, l.booked policy w = first :: rest ∧
      (∀ ops, let s := next.run ops
        (s.release w').DecidedBy s s.node first rest) ∧
      ∀ (f : Fleet) (name : String), f.policy = policy → f.nodes.get? name = some l.node →
        l.commitsLeft = none → ∀ cs : List Fleet.Command, (∀ c ∈ cs, c.Spares name) →
        let placed := f.allocate name clock w
        let s := placed.state.run cs
        placed.result = .ok w' ∧
          ∃ n, s.nodes.get? name = some n ∧ (s.release name w').DecidedBy s n first rest := by
  obtain ⟨time, ps, hplace, -⟩ := Ledger.allocate_eq_ok h
  obtain ⟨first, rest, hbooked⟩ :=
    List.exists_cons_of_ne_nil (Ledger.bookedFrom_ne_nil hplace hgpu)
  have hbooked : l.booked policy w = first :: rest := hbooked
  have hdues := Ledger.dues_of_allocate h
  rw [hbooked] at hdues
  have hdevice : (l.node.device? first.device).isSome := by
    refine (Ledger.posts_booked policy w l).isSome_device? first ?_
    rw [hbooked]
    exact List.mem_cons_self
  have hnext : next.node.SameFrame l.node := by
    have hperform := Operation.sameFrame_perform (.demand (.allocate policy clock w)) l
    rwa [Operation.perform, Demand.perform, h] at hperform
  refine ⟨first, rest, hbooked, fun ops => ?_, ?_⟩
  · intro s
    have hframe : s.node.SameFrame l.node := (Ledger.sameFrame_run ops next).trans hnext
    refine Ledger.decidedBy_release ?_ ?_
    · rw [hframe.quota_eq, hdues]
    · rw [hframe.isSome_device?, hdevice]
  · intro f name hpolicy hnode hleft cs hcs placed s
    have hl : ({ node := l.node } : Ledger) = l := by rw [← hleft]
    have hplaced : placed = ⟨{ f with nodes := f.nodes.insert name next.node }, .ok w'⟩ := by
      simp only [placed, Fleet.allocate, Fleet.onNode_eq, hnode, hpolicy, hl, h]
    have hget : placed.state.nodes.get? name = some next.node := by
      rw [hplaced]
      exact (SortedMap.get?_insert _ _ _ _).trans (if_pos rfl)
    obtain ⟨n, hn, hframe⟩ := Fleet.sameFrame_run hcs hget
    have hframe : n.SameFrame l.node := hframe.trans hnext
    refine ⟨by rw [hplaced], n, hn, Fleet.decidedBy_release hn ?_ ?_⟩
    · rw [hframe.quota_eq, hdues]
    · rw [hframe.isSome_device?, hdevice]

/-- A workload on a node of one device. It is given back, and given back again in vain, on a ledger
and in a fleet; but where a workload of the same shape has been placed in between, it is given back
again. -/
theorem released_again_decided_alone :
    let n : Node := ⟨"node", 100, 1, [{ id := 0, totalCores := 100, totalMemory := 100 }]⟩
    let w : Workload := { uid := ⟨1⟩, name := "job", containers := [.withGpu "part" 10 10] }
    let w' := w.annotate "node" 9 [⟨0, "part", .share, [0], 10, 10⟩]
    let next := (Ledger.allocate {} (some 9) w { node := n }).state
    let s := next.run [.release w']
    let t := next.run [.release w', .demand (.allocate {} (some 9) w)]
    let fleet := (Fleet.allocate "node" (some 9) w (Fleet.register n {})).state.run
      [.release "node" w']
    (∃ err, s.release w' = ⟨s, .error err⟩) ∧
      (s.release w').result = .error (.bookingNotFound "node" 0) ∧
      (t.release w').result = .ok () ∧
      ∃ err, fleet.release "node" w' = ⟨fleet, .error err⟩ := by
  intro n w w' next s t fleet
  have hresult : (Ledger.allocate {} (some 9) w { node := n }).result = .ok w' := by
    decide +kernel
  have hplace : Ledger.allocate {} (some 9) w { node := n } = ⟨next, .ok w'⟩ := by
    rw [← hresult]
  have hentries : Ledger.booked {} w { node := n } = [⟨0, ⟨10, 10, 0⟩⟩] := by decide +kernel
  obtain ⟨first, rest, hbooked, hledger, hfleet⟩ :=
    released_again_decided hplace ⟨_, List.mem_cons_self, by decide⟩
  obtain ⟨rfl, rfl⟩ := List.cons.inj (hentries.symm.trans hbooked)
  have hnone : ∀ m : Node, m.held 0 = 0 → (⟨10, 10, 0⟩ : Amount) ∉ m.held 0 :=
    fun m h => h ▸ Multiset.notMem_zero _
  have hs : s.node.held 0 = 0 := by decide +kernel
  have ht : t.node.held 0 = {⟨10, 10, 0⟩} := by decide +kernel
  have hm : (fleet.nodes.get? "node").map (·.held 0) = some 0 := by decide +kernel
  have hnode : (Fleet.register n {}).nodes.get? "node" = some n :=
    (SortedMap.get?_insert _ _ _ _).trans (if_pos rfl)
  have hspares : ∀ c ∈ [Fleet.Command.release "node" w'], c.Spares "node" := by
    intro c hc
    obtain rfl := List.mem_singleton.mp hc
    exact ⟨nofun, nofun⟩
  have hrefused := hledger [.release w']
  have haccepted := hledger [.release w', .demand (.allocate {} (some 9) w)]
  obtain ⟨-, m, hget, hagain⟩ := hfleet (Fleet.register n {}) "node" rfl hnode rfl _ hspares
  have hheld : m.held 0 = 0 := by
    rw [hget] at hm
    exact Option.some.inj hm
  refine ⟨hrefused.unchanged_iff.mpr (hnone _ hs), hrefused.error_eq (hnone _ hs), ?_, ?_⟩
  · refine haccepted.ok_iff.mpr ?_
    rw [Node.holds_singleton_iff, ht]
    exact Multiset.mem_singleton_self _
  · exact hagain.unchanged_iff.mpr (hnone _ hheld)

/-- **A workload that is given back twice.** Two workloads of the same shape are placed on an idle
device. The first of them is given back, and given back again: that succeeds, and the booking of
the second workload, which was the only one left, is gone. -/
theorem released_again_takes_anothers :
    let l₀ : Ledger :=
      { node := ⟨"node", 100, 1, [{ id := 0, totalCores := 100, totalMemory := 100 }]⟩ }
    let w := fun name : String =>
      ({ uid := ⟨1⟩, name, containers := [.withGpu "part" 10 10] } : Workload)
    let placed := fun name : String =>
      (w name).annotate "node" 9 [⟨0, "part", .share, [0], 10, 10⟩]
    let ops : List Operation := [.demand (.allocate {} (some 9) (w "first")),
      .demand (.allocate {} (some 9) (w "second")), .release (placed "first")]
    let s := l₀.run ops
    (∀ d ∈ l₀.node.devices, d.Idle) ∧
      (l₀.steps ops).map Outcome.result
        = [.ok (.placed (placed "first")), .ok (.placed (placed "second")), .ok .done] ∧
      s.node.held 0 = {⟨10, 10, 0⟩} ∧
      (s.release (placed "first")).result = .ok () ∧
      (s.release (placed "first")).state.node.held 0 = 0 := by
  intro l₀ w placed ops s
  have hidle : ∀ d ∈ l₀.node.devices, d.Idle := by decide
  have hsteps : (l₀.steps ops).map Outcome.result
      = [.ok (.placed (placed "first")), .ok (.placed (placed "second")), .ok .done] := by
    decide +kernel
  have hone : s.node.held 0 = {⟨10, 10, 0⟩} := by decide +kernel
  have hagain : (s.release (placed "first")).result = .ok () := by decide +kernel
  have hnone : (s.release (placed "first")).state.node.held 0 = 0 := by decide +kernel
  exact ⟨hidle, hsteps, hone, hagain, hnone⟩

end GpuLedger
