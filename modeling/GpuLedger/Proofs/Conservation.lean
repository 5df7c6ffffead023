import GpuLedger.Proofs.Records
import GpuLedger.Proofs.Session

/-!
# Conservation of Bookings

On a node that starts without bookings, what is booked under a number is at any time what has
been committed there less what has been returned, and every workload that was handed out can be
returned. To say so, a session keeps an account beside its ledger (`Account`): all entries that
have been committed, also those of workloads that were refused half-way and of questions that
book; all entries that have been returned; and the grants that are outstanding, each a workload
as it was handed out with the entries booked for it.

In a session of this kind a workload is only given back if its grant is outstanding
(`Account.Reached`). Nothing else is restricted: policies change from demand to demand, the clock
may fail, the ledger may run out of bookings.

The invariant is `Account.Sound`. Its core is that what is returned and what is outstanding
together are within what is committed (`covered`), so an outstanding grant is still held when it
is given back, no matter which of several equal bookings were taken away in between.

## Main results

* `Account.Sound.release_eq` — an outstanding grant is released, and its entries are taken away;
* `Account.Reached.sound` — the invariant holds after every step of every session;
* `bookings_conserved` — conservation, and success of every release.
-/

namespace GpuLedger

/-! ### Places that are not reached -/

namespace Node

/-- A change by the amounts for each number leaves a place alone that none of them is for. -/
theorem getElem?_mapFirst_amountsOn {F : List Amount → Device → Device} (hF : ∀ d, F [] d = d)
    {es : List Entry} {n : Node} {i : Nat} (h : ∀ e ∈ es, n.place? e.device ≠ some i) :
    (n.mapFirst fun d => F (Entry.amountsOn d.id es) d).devices[i]? = n.devices[i]? := by
  rw [getElem?_mapFirst]
  cases n.devices[i]? with
  | none => rfl
  | some d =>
      rw [Option.map_some]
      split
      · next hplace =>
        have hnone : Entry.amountsOn d.id es = [] := by
          refine Entry.amountsOn_eq_nil fun e he heq => h e he ?_
          rw [heq]
          exact hplace
        rw [hnone, hF]
      · rfl

/-- Booking leaves a place alone that no entry is for. -/
theorem getElem?_postAll {es : List Entry} {n : Node} {i : Nat}
    (h : ∀ e ∈ es, n.place? e.device ≠ some i) : (n.postAll es).devices[i]? = n.devices[i]? := by
  rw [postAll_eq]
  exact getElem?_mapFirst_amountsOn (F := Device.bookAll) (fun _ => rfl) h

/-- Taking away leaves a place alone that no entry is for. -/
theorem getElem?_unpostAll {es : List Entry} {n : Node} {i : Nat}
    (h : ∀ e ∈ es, n.place? e.device ≠ some i) :
    (n.unpostAll es).devices[i]? = n.devices[i]? := by
  rw [unpostAll_eq]
  exact getElem?_mapFirst_amountsOn (F := Device.unbookAll) (fun _ => rfl) h

/-- Time leaves a place alone that has no bookings. -/
theorem getElem?_age {n : Node} {i : Nat} (time : Quantity)
    (h : ∀ d, n.devices[i]? = some d → d.bookings = []) :
    (n.age time).devices[i]? = n.devices[i]? := by
  rw [age, List.getElem?_map]
  cases hd : n.devices[i]? with
  | none => rfl
  | some d =>
      have hsame : d.age time = d := by
        rw [Device.age, h d hd, List.map_nil, ← h d hd]
      rw [Option.map_some, hsame]

end Node

/-! ### Grants -/

/-- A workload as it was handed out, with the entries that were booked for it. -/
structure Grant where
  workload : Workload
  entries : List Entry
deriving DecidableEq

/-- The grants that a demand hands out: one if it is an allocation and succeeds. -/
def Demand.grants : Demand → Ledger → List Grant
  | allocate policy clock w, l =>
    match (l.allocate policy clock w).result with
    | .ok placed => [⟨placed, l.booked policy w⟩]
    | .error _ => []
  | placeOne _ _ _ _, _ | isAllocatable _ _, _ | isFeasible _ _, _ | dryRun _ _, _ => []

/-- A grant is for the entries that were booked, and the workload is due them. -/
theorem Demand.of_mem_grants {d : Demand} {l : Ledger} {g : Grant} (h : g ∈ d.grants l) :
    d.grants l = [g] ∧ g.entries = d.booked l ∧
      g.workload.dues l.node.quota = (g.entries, none) := by
  cases d with
  | allocate policy clock w =>
      rw [grants] at h ⊢
      rcases hplaced : l.allocate policy clock w with ⟨next, e | placed⟩
      · rw [hplaced] at h
        exact absurd h List.not_mem_nil
      · rw [hplaced] at h
        obtain rfl := List.mem_singleton.mp h
        exact ⟨rfl, rfl, Ledger.dues_of_allocate hplaced⟩
  | placeOne policy w index c => exact absurd h List.not_mem_nil
  | isAllocatable policy w => exact absurd h List.not_mem_nil
  | isFeasible policy w => exact absurd h List.not_mem_nil
  | dryRun policy w => exact absurd h List.not_mem_nil

/-- All entries of several grants. -/
def Grant.total (gs : List Grant) : Multiset Entry :=
  ↑(gs.flatMap Grant.entries)

/-- The entries of two lists of grants are those of both. -/
theorem Grant.total_append (gs hs : List Grant) : total (gs ++ hs) = total gs + total hs := by
  rw [total, List.flatMap_append, ← Multiset.coe_add]
  rfl

/-- Taking a grant out of several takes its entries out of theirs. -/
theorem Grant.total_erase {gs : List Grant} {g : Grant} (h : g ∈ gs) :
    total gs = g.entries + total (gs.erase g) := by
  have hperm : gs.Perm (g :: gs.erase g) := List.perm_cons_erase h
  rw [total, total, Multiset.coe_add, ← List.flatMap_cons]
  exact Multiset.coe_eq_coe.mpr (hperm.flatMap_right Grant.entries)

/-- A demand hands out no more than it has booked. -/
theorem Demand.total_grants_le (d : Demand) (l : Ledger) :
    Grant.total (d.grants l) ≤ d.booked l := by
  cases hgs : d.grants l with
  | nil => exact Multiset.zero_le _
  | cons g rest =>
      obtain ⟨hone, hentries, -⟩ := of_mem_grants (hgs ▸ List.mem_cons_self : g ∈ d.grants l)
      rw [← hgs, hone, Grant.total, List.flatMap_singleton, hentries]

/-! ### The account of a session -/

/-- A ledger with the account of its session. -/
structure Account where
  ledger : Ledger
  /-- All entries booked so far. -/
  committed : Multiset Entry := 0
  /-- The entries of all workloads that have been given back. -/
  returned : Multiset Entry := 0
  /-- What has been handed out and not been given back. -/
  outstanding : List Grant := []

namespace Account

/-- Something is asked of the ledger. -/
def meet (d : Demand) (s : Account) : Account :=
  { ledger := d.perform s.ledger
    committed := s.committed + d.booked s.ledger
    returned := s.returned
    outstanding := d.grants s.ledger ++ s.outstanding }

/-- A workload is given back. -/
def giveBack (g : Grant) (s : Account) : Account :=
  { ledger := (s.ledger.release g.workload).state
    committed := s.committed
    returned := s.returned + g.entries
    outstanding := s.outstanding.erase g }

/-- Time passes. -/
def age (time : Quantity) (s : Account) : Account :=
  { s with ledger := s.ledger.age time }

/-- The accounts of the sessions on a ledger in which only what is outstanding is given back. -/
inductive Reached (l₀ : Ledger) : Account → Prop
  | start : Reached l₀ { ledger := l₀ }
  | meet {s : Account} (d : Demand) : Reached l₀ s → Reached l₀ (s.meet d)
  | giveBack {s : Account} {g : Grant} :
      g ∈ s.outstanding → Reached l₀ s → Reached l₀ (s.giveBack g)
  | age {s : Account} (time : Quantity) : Reached l₀ s → Reached l₀ (s.age time)

/-- The account of a session that started at a ledger explains the ledger as it is. -/
structure Sound (l₀ : Ledger) (s : Account) : Prop where
  ids : s.ledger.node.devices.map Device.id = l₀.node.devices.map Device.id
  /-- A place is as it was unless something has been committed there. -/
  untouched : ∀ i : Nat, (∀ e ∈ s.committed, l₀.node.place? e.device ≠ some i) →
    s.ledger.node.devices[i]? = l₀.node.devices[i]?
  held : ∀ id, s.ledger.node.held id + Entry.on id s.returned = Entry.on id s.committed
  /-- What has been returned and what is outstanding was committed. -/
  covered : s.returned + Grant.total s.outstanding ≤ s.committed
  dues : ∀ g ∈ s.outstanding, g.workload.dues s.ledger.node.quota = (g.entries, none)

namespace Sound

variable {l₀ : Ledger} {s : Account}

/-- The account of a session that has just begun. -/
theorem start (hempty : ∀ d ∈ l₀.node.devices, d.bookings = []) : Sound l₀ { ledger := l₀ } where
  ids := rfl
  untouched _ _ := rfl
  held id := by
    rw [Entry.on_zero, add_zero]
    cases hd : l₀.node.device? id with
    | none => exact Node.held_of_device?_eq_none hd
    | some d =>
        rw [Node.held_of_device? hd, Device.amounts, hempty d (Node.mem_of_device? hd)]
        rfl
  covered := Multiset.zero_le _
  dues g hg := absurd hg List.not_mem_nil

/-- Places are where they were. -/
theorem place?_eq (h : Sound l₀ s) (id : DeviceId) :
    s.ledger.node.place? id = l₀.node.place? id :=
  Node.place?_congr h.ids id

/-- **Demands** commit what they book. -/
theorem meet (h : Sound l₀ s) (d : Demand) : Sound l₀ (s.meet d) := by
  have hposts := Ledger.posts_demand d s.ledger
  have hnode : (s.meet d).ledger.node = s.ledger.node.postAll (d.booked s.ledger) :=
    hposts.node_eq
  refine ⟨?_, ?_, ?_, ?_, ?_⟩
  · rw [hnode, Node.map_id_postAll]
    exact h.ids
  · intro i hi
    have hbefore : ∀ e ∈ s.committed, l₀.node.place? e.device ≠ some i :=
      fun e he => hi e (Multiset.mem_add.mpr (.inl he))
    have hbooked : ∀ e ∈ d.booked s.ledger, s.ledger.node.place? e.device ≠ some i := by
      intro e he
      rw [h.place?_eq]
      exact hi e (Multiset.mem_add.mpr (.inr (Multiset.mem_coe.mpr he)))
    rw [hnode, Node.getElem?_postAll hbooked]
    exact h.untouched i hbefore
  · intro id
    calc (s.meet d).ledger.node.held id + Entry.on id s.returned
        = s.ledger.node.held id + Entry.on id (d.booked s.ledger) + Entry.on id s.returned := by
          rw [Account.meet, hposts.held_eq]
      _ = s.ledger.node.held id + Entry.on id s.returned + Entry.on id (d.booked s.ledger) :=
          add_right_comm _ _ _
      _ = Entry.on id (s.committed + d.booked s.ledger) := by rw [h.held, Entry.on_add]
  · calc s.returned + Grant.total (d.grants s.ledger ++ s.outstanding)
        = s.returned + Grant.total s.outstanding + Grant.total (d.grants s.ledger) := by
          rw [Grant.total_append, add_comm (Grant.total _), add_assoc]
      _ ≤ s.committed + d.booked s.ledger :=
          add_le_add h.covered (d.total_grants_le s.ledger)
  · intro g hg
    rw [hnode, Node.quota_postAll]
    rcases List.mem_append.mp hg with hg | hg
    · exact (Demand.of_mem_grants hg).2.2
    · exact h.dues g hg

/-- What is outstanding is held. -/
theorem on_entries_le_held (h : Sound l₀ s) {g : Grant} (hg : g ∈ s.outstanding) (id : DeviceId) :
    Entry.on id g.entries ≤ s.ledger.node.held id := by
  have hsplit : s.returned + g.entries ≤ s.committed := by
    refine le_trans (add_le_add_right ?_ _) h.covered
    rw [Grant.total_erase hg]
    exact Multiset.le_add_right _ _
  have hon := Entry.on_le_on id hsplit
  rw [Entry.on_add, ← h.held, add_comm] at hon
  exact le_of_add_le_add_right hon

/-- **An outstanding grant is released**, and its entries are taken away. -/
theorem release_eq (h : Sound l₀ s) {g : Grant} (hg : g ∈ s.outstanding) :
    s.ledger.release g.workload =
      ⟨{ s.ledger with node := s.ledger.node.unpostAll g.entries }, .ok ()⟩ :=
  Ledger.release_of_holds (h.dues g hg) (h.on_entries_le_held hg)

/-- **Giving back** returns what was granted. -/
theorem giveBack (h : Sound l₀ s) {g : Grant} (hg : g ∈ s.outstanding) :
    Sound l₀ (s.giveBack g) := by
  have hnode : (s.giveBack g).ledger.node = s.ledger.node.unpostAll g.entries := by
    rw [Account.giveBack, h.release_eq hg]
  have htotal : s.returned + g.entries + Grant.total (s.outstanding.erase g)
      = s.returned + Grant.total s.outstanding := by
    rw [add_assoc, ← Grant.total_erase hg]
  refine ⟨?_, ?_, ?_, ?_, ?_⟩
  · rw [hnode, Node.map_id_unpostAll]
    exact h.ids
  · intro i hi
    have hentries : ∀ e ∈ g.entries, s.ledger.node.place? e.device ≠ some i := by
      intro e he
      have hcommitted : e ∈ s.committed := by
        refine Multiset.mem_of_le h.covered (Multiset.mem_add.mpr (.inr ?_))
        rw [Grant.total_erase hg]
        exact Multiset.mem_add.mpr (.inl (Multiset.mem_coe.mpr he))
      rw [h.place?_eq]
      exact hi e hcommitted
    rw [hnode, Node.getElem?_unpostAll hentries]
    exact h.untouched i hi
  · intro id
    calc (s.giveBack g).ledger.node.held id + Entry.on id (s.returned + g.entries)
        = s.ledger.node.held id - Entry.on id g.entries + Entry.on id g.entries
            + Entry.on id s.returned := by
          rw [hnode, Node.held_unpostAll, Entry.on_add, add_comm (Entry.on id s.returned),
            add_assoc]
      _ = Entry.on id s.committed := by
          rw [Multiset.sub_add_cancel (h.on_entries_le_held hg id), h.held]
  · exact htotal.trans_le h.covered
  · intro g' hg'
    rw [hnode, Node.quota_unpostAll]
    exact h.dues g' (List.mem_of_mem_erase hg')

/-- **Time** changes nothing in the account, and no place without bookings. -/
theorem age (hempty : ∀ d ∈ l₀.node.devices, d.bookings = []) (h : Sound l₀ s)
    (time : Quantity) : Sound l₀ (s.age time) := by
  refine ⟨?_, ?_, ?_, h.covered, h.dues⟩
  · rw [Account.age, Ledger.age, Node.map_id_age]
    exact h.ids
  · intro i hi
    have hsame := h.untouched i hi
    have hnone : ∀ d, s.ledger.node.devices[i]? = some d → d.bookings = [] := by
      intro d hd
      rw [hsame] at hd
      exact hempty d (List.mem_of_getElem? hd)
    rw [Account.age, Ledger.age, Node.getElem?_age time hnone]
    exact hsame
  · intro id
    rw [Account.age, Ledger.age, Node.held_age]
    exact h.held id

end Sound

/-- **The invariant** holds after every step of every session that starts without bookings. -/
theorem Reached.sound {l₀ : Ledger} (hempty : ∀ d ∈ l₀.node.devices, d.bookings = [])
    {s : Account} (hs : Reached l₀ s) : Sound l₀ s := by
  induction hs with
  | start => exact .start hempty
  | meet d _ ih => exact ih.meet d
  | giveBack hg _ ih => exact ih.giveBack hg
  | age time _ ih => exact ih.age hempty time

end Account

/-- **Conservation of bookings.** In every session on a node that starts without bookings, in
which workloads are given back that were handed out and have not been given back yet, after
every step: each outstanding workload can be released; what is booked under a number is what has
been committed there less what has been returned, and nothing has been returned that was not
committed; and a device is as it was at the start unless it is the first of a number under which
something has been committed. -/
theorem bookings_conserved {l₀ : Ledger} (hempty : ∀ d ∈ l₀.node.devices, d.bookings = [])
    {s : Account} (hs : Account.Reached l₀ s) :
    (∀ g ∈ s.outstanding, (s.ledger.release g.workload).result = .ok ()) ∧
    (s.returned ≤ s.committed ∧ ∀ id,
      s.ledger.node.held id = Entry.on id s.committed - Entry.on id s.returned) ∧
    s.ledger.node.devices.map Device.id = l₀.node.devices.map Device.id ∧
    ∀ i : Nat, (∀ e ∈ s.committed, l₀.node.place? e.device ≠ some i) →
      s.ledger.node.devices[i]? = l₀.node.devices[i]? := by
  have hsound := hs.sound hempty
  refine ⟨?_, ⟨?_, ?_⟩, hsound.ids, hsound.untouched⟩
  · intro g hg
    rw [hsound.release_eq hg]
  · exact le_trans (Multiset.le_add_right _ _) hsound.covered
  · intro id
    rw [← hsound.held id, Multiset.add_sub_cancel_right]

/-- A session on a node of three devices, two of them of one number: a workload is placed, a
question books its first container and fails at the second, time passes, the workload is placed
again, and the first of the two is given back. -/
theorem bookings_conserved_mixed :
    let l₀ : Ledger := ⟨⟨"node", 32, 2,
      [{ id := 0, totalCores := 100, totalMemory := 16 },
       { id := 0, totalCores := 50, totalMemory := 8, usedCores := 50 },
       { id := 1, totalCores := 100, totalMemory := 16, usedCores := 100 }]⟩, none⟩
    let part : Workload := { uid := ⟨1⟩, name := "part", containers := [.withGpu "part" 40 4] }
    let pair : Workload :=
      { uid := ⟨2⟩, name := "pair"
        containers := [.withGpu "part" 40 4, .withGpu "whole" 100 0] }
    let grant : Grant := ⟨part.annotate "node" 9 [⟨0, "part", .share, [0], 40, 4⟩],
      [⟨0, ⟨40, 4, 0⟩⟩]⟩
    let start : Account := { ledger := l₀ }
    let before : Account :=
      ((start.meet (.allocate {} (some 9) part)).meet (.isAllocatable {} pair)).age 5
        |>.meet (.allocate {} (some 9) part)
    let after : Account := before.giveBack grant
    before.outstanding = [grant, grant] ∧ (after.ledger.node.held 0).card = 2 ∧
      (∀ g ∈ after.outstanding, (after.ledger.release g.workload).result = .ok ()) ∧
      after.ledger.node.held 0 = Entry.on 0 after.committed - Entry.on 0 after.returned ∧
      after.ledger.node.devices[2]? = l₀.node.devices[2]? := by
  intro l₀ part pair grant start before after
  have houtstanding : before.outstanding = [grant, grant] := by decide +kernel
  have hbefore : Account.Reached l₀ before := .meet _ (.age 5 (.meet _ (.meet _ .start)))
  have hafter : Account.Reached l₀ after :=
    .giveBack (houtstanding ▸ List.mem_cons_self) hbefore
  have hempty : ∀ d ∈ l₀.node.devices, d.bookings = [] := by decide
  have hplaces : ∀ e ∈ after.committed, l₀.node.place? e.device ≠ some 2 := by decide +kernel
  have htwo : (after.ledger.node.held 0).card = 2 := by decide +kernel
  obtain ⟨hrelease, ⟨-, hheld⟩, -, huntouched⟩ := bookings_conserved hempty hafter
  exact ⟨houtstanding, htwo, hrelease, hheld 0, huntouched 2 hplaces⟩

end GpuLedger
