import GpuLedger.Proofs.Choice
import GpuLedger.Proofs.Entries

/-!
# Postings

The **postings** of an operation are the entries that it has booked, in the order in which it
booked them, whether it succeeded or was stopped. They are read off the placement of containers
(`Ledger.booked`), which follows it step by step and keeps what has been booked instead of the
result.

`Ledger.Posts P l es last` says that the entries `es` lead from the ledger `l` to the ledger
`last`, each of them a booking that went through, and that each satisfied `P` on the node as it
stood just before. A property that each such booking keeps is kept by all of them
(`Ledger.Posts.invariant`).

## Main results

* `Ledger.posts_placeFrom` — placing containers is booking its postings, for any condition on
  single bookings that placing one container meets;
* `Ledger.posts_booked` — the same without a condition;
* `Ledger.posts_booked_admitted` — where the numbers of the devices are distinct, every booking
  is one that the policy admits (`Policy.Admits`): on a device with room, or on one that is
  vacant at that moment.
-/

namespace GpuLedger

/-! ### What an operation has booked -/

namespace Ledger

/-- The entries booked by booking one amount on several devices in turn. -/
def bookedAll (a : Amount) : List DeviceId → Ledger → List Entry
  | [], _ => []
  | id :: rest, l =>
    match l.book id a with
    | .ok next => ⟨id, a⟩ :: bookedAll a rest next
    | .error _ => []

/-- The entries booked by placing one container. -/
def bookedOne (policy : Policy) (w : Workload) (index : Nat) (c : Container) (l : Ledger) :
    List Entry :=
  match w.request index c with
  | .error _ => []
  | .ok r =>
    bookedAll (r.amount l.node.quota) ((policy.choose l.node.devices r).map Device.id) l

/-- The entries booked by placing the containers of a workload from an index on. -/
def bookedFrom (policy : Policy) (w : Workload) : Nat → List Container → Ledger → List Entry
  | _, [], _ => []
  | index, c :: rest, l =>
    if c.RequestsGpu then
      bookedOne policy w index c l ++
        match placeOne policy w index c l with
        | ⟨next, .ok _⟩ => bookedFrom policy w (index + 1) rest next
        | ⟨_, .error _⟩ => []
    else
      bookedFrom policy w (index + 1) rest l

/-- The entries booked by placing all containers of a workload. -/
def booked (policy : Policy) (w : Workload) (l : Ledger) : List Entry :=
  bookedFrom policy w 0 w.containers l

/-! ### Entries that lead from one ledger to another -/

/-- Booking goes through only where there is the device, and then the entry is posted. -/
theorem post_of_book {l next : Ledger} {e : Entry} (h : l.book e.device e.amount = .ok next) :
    (l.node.device? e.device).isSome ∧ next.node = l.node.post e := by
  rw [book] at h
  split at h
  · cases h
  · rw [Node.book_eq] at h
    split at h
    · next hsome =>
      obtain rfl := Except.ok.inj h
      exact ⟨hsome, rfl⟩
    · cases h

/-- From the first ledger the entries were booked one after the other up to the last ledger,
each of them admitted on the node as it stood. -/
inductive Posts (P : Node → Entry → Prop) : Ledger → List Entry → Ledger → Prop
  | nil (l : Ledger) : Posts P l [] l
  | cons {l next last : Ledger} {e : Entry} {es : List Entry} :
      P l.node e → l.book e.device e.amount = .ok next → Posts P next es last →
      Posts P l (e :: es) last

namespace Posts

variable {P Q : Node → Entry → Prop} {l mid last : Ledger} {es fs : List Entry}

/-- Postings one after the other are postings. -/
theorem append (h₁ : Posts P l es mid) (h₂ : Posts P mid fs last) :
    Posts P l (es ++ fs) last := by
  induction h₁ with
  | nil => exact h₂
  | cons hP hbook _ ih => exact .cons hP hbook (ih h₂)

/-- A weaker condition holds as well. -/
theorem mono (hPQ : ∀ n e, P n e → Q n e) (h : Posts P l es last) : Posts Q l es last := by
  induction h with
  | nil => exact .nil _
  | cons hP hbook _ ih => exact .cons (hPQ _ _ hP) hbook ih

/-- The node at the end is the first node with the entries booked on it. -/
theorem node_eq (h : Posts P l es last) : last.node = l.node.postAll es := by
  induction h with
  | nil => rfl
  | cons _ hbook _ ih => rw [ih, (post_of_book hbook).2, Node.postAll_cons]

/-- There is a device for each of the entries. -/
theorem isSome_device? (h : Posts P l es last) :
    ∀ e ∈ es, (l.node.device? e.device).isSome := by
  induction h with
  | nil => exact fun _ he => absurd he List.not_mem_nil
  | cons _ hbook _ ih =>
      intro f hf
      rcases List.mem_cons.mp hf with rfl | hf
      · exact (post_of_book hbook).1
      · have hsome := ih f hf
        rw [(post_of_book hbook).2, Node.post,
          Node.device?_mapFirst (Device.id_apply Device.id_book _), Option.isSome_map] at hsome
        exact hsome

/-- What each admitted booking keeps is kept by all of them. -/
theorem invariant {I : Node → Prop} (hstep : ∀ n e, I n → P n e → I (n.post e))
    (h : Posts P l es last) (hI : I l.node) : I last.node := by
  induction h with
  | nil => exact hI
  | cons hP hbook _ ih =>
      refine ih ?_
      rw [(post_of_book hbook).2]
      exact hstep _ _ hI hP

/-- What is held at the end is what was held and the entries. -/
theorem held_eq (h : Posts P l es last) (id : DeviceId) :
    last.node.held id = l.node.held id + Entry.on id es := by
  rw [h.node_eq, Node.held_postAll h.isSome_device?]

end Posts

/-! ### Placing is posting -/

/-- Booking one amount on several devices in turn, with a condition that holds for each of them
once those before it have been booked. -/
theorem posts_bookAll {P : Node → Entry → Prop} {a : Amount} {ids : List DeviceId} {l : Ledger}
    (hP : ∀ before id after, ids = before ++ id :: after →
      P (l.node.postAll (before.map (⟨·, a⟩))) ⟨id, a⟩) :
    Posts P l (bookedAll a ids l) (bookAll a ids l).state := by
  induction ids generalizing l with
  | nil => exact .nil l
  | cons id rest ih =>
      rw [bookedAll, bookAll]
      cases hbook : l.book id a with
      | error e => exact .nil l
      | ok next =>
          refine .cons (hP [] id rest rfl) hbook (ih fun before id' after hrest => ?_)
          have hlater := hP (id :: before) id' after (by rw [hrest, List.cons_append])
          rwa [List.map_cons, Node.postAll_cons, ← (post_of_book (e := ⟨id, a⟩) hbook).2]
            at hlater

/-- What has been booked when booking on several devices has gone through. -/
theorem bookedAll_of_ok {a : Amount} {ids : List DeviceId} {l next : Ledger}
    (h : bookAll a ids l = ⟨next, .ok ()⟩) : bookedAll a ids l = ids.map (⟨·, a⟩) := by
  induction ids generalizing l with
  | nil => rfl
  | cons id rest ih =>
      rw [bookAll] at h
      rw [bookedAll]
      cases hbook : l.book id a with
      | error e => rw [hbook] at h; cases h
      | ok mid =>
          rw [hbook] at h
          simp only [ih h, List.map_cons]

/-- The ledger that placing one container leaves behind. -/
theorem state_placeOne (policy : Policy) (w : Workload) (index : Nat) (c : Container)
    (l : Ledger) :
    (placeOne policy w index c l).state =
      match w.request index c with
      | .error _ => l
      | .ok r =>
        (bookAll (r.amount l.node.quota) ((policy.choose l.node.devices r).map Device.id)
          l).state := by
  rw [placeOne]
  cases w.request index c with
  | error e => rfl
  | ok r =>
      simp only
      cases (policy.choose l.node.devices r).map Device.id <;> rfl

/-- Placing one container, with a condition that holds for each of its devices once those
before it have been booked. -/
theorem posts_placeOne {P : Node → Entry → Prop} {policy : Policy} {w : Workload} {index : Nat}
    {c : Container} {l : Ledger}
    (hP : ∀ r, w.request index c = .ok r → ∀ before id after,
      (policy.choose l.node.devices r).map Device.id = before ++ id :: after →
      P (l.node.postAll (before.map (⟨·, r.amount l.node.quota⟩))) ⟨id, r.amount l.node.quota⟩) :
    Posts P l (bookedOne policy w index c l) (placeOne policy w index c l).state := by
  rw [state_placeOne, bookedOne]
  cases hr : w.request index c with
  | error e => exact .nil l
  | ok r => exact posts_bookAll (hP r hr)

/-- **Placing containers is booking its postings.** The condition is one that placing each single
container meets wherever `I` holds, and `I` is kept by each admitted booking. -/
theorem posts_placeFrom {P : Node → Entry → Prop} {I : Node → Prop} {policy : Policy}
    {w : Workload} (hstep : ∀ n e, I n → P n e → I (n.post e)) (index : Nat)
    (cs : List Container) (l : Ledger)
    (hone : ∀ index c l, c ∈ cs → c.RequestsGpu → I l.node →
      Posts P l (bookedOne policy w index c l) (placeOne policy w index c l).state)
    (hI : I l.node) :
    Posts P l (bookedFrom policy w index cs l) (placeFrom policy w index cs l).state := by
  induction cs generalizing index l with
  | nil => exact .nil l
  | cons c rest ih =>
      have hrest : ∀ index c' l, c' ∈ rest → c'.RequestsGpu → I l.node →
          Posts P l (bookedOne policy w index c' l) (placeOne policy w index c' l).state :=
        fun index c' l hc' => hone index c' l (List.mem_cons_of_mem _ hc')
      rw [bookedFrom, placeFrom]
      by_cases hgpu : c.RequestsGpu
      · rw [if_pos hgpu, if_pos hgpu]
        have hfirst := hone index c l List.mem_cons_self hgpu hI
        rcases hplace : placeOne policy w index c l with ⟨next, _ | p⟩
        · rw [hplace] at hfirst
          simpa using hfirst
        · rw [hplace] at hfirst
          exact hfirst.append (ih (index + 1) next hrest (hfirst.invariant hstep hI))
      · rw [if_neg hgpu, if_neg hgpu]
        exact ih (index + 1) l hrest hI

/-- What placing one container has booked leads to the ledger that it leaves behind. -/
theorem posts_bookedOne (policy : Policy) (w : Workload) (index : Nat) (c : Container)
    (l : Ledger) :
    Posts (fun _ _ => True) l (bookedOne policy w index c l)
      (placeOne policy w index c l).state :=
  posts_placeOne fun _ _ _ _ _ _ => trivial

/-- What placing a workload has booked leads to the ledger that it leaves behind. -/
theorem posts_booked (policy : Policy) (w : Workload) (l : Ledger) :
    Posts (fun _ _ => True) l (booked policy w l) (placeAll policy w l).state :=
  posts_placeFrom (I := fun _ => True) (fun _ _ _ _ => trivial) 0 w.containers l
    (fun index c l _ _ _ => posts_bookedOne policy w index c l) trivial

end Ledger

/-! ### Bookings that a policy admits -/

/-- A request is for the cores of its container. -/
theorem Workload.cores_of_request {w : Workload} {index : Nat} {c : Container} {r : Request}
    (h : w.request index c = .ok r) : r.cores = c.cores := by
  rw [request] at h
  cases htime : w.estimatedTime index with
  | error e =>
      rw [htime] at h
      cases h
  | ok time =>
      rw [htime] at h
      obtain rfl := Except.ok.inj h
      rfl

/-- A booking for a request that a policy admits on a node as it stands: on the device of a
number, with room for the request if the policy asks for it, or vacant if the request is
exclusive. -/
inductive Policy.Admits (policy : Policy) (r : Request) (n : Node) : Entry → Prop
  | share {d : Device} (mode : r.mode = .share) (first : n.device? d.id = some d)
      (room : policy.capacityFilter = true → Share.HasRoom r d) :
      Admits policy r n ⟨d.id, r.amount n.quota⟩
  | exclusive {d : Device} (mode : r.mode = .exclusive) (first : n.device? d.id = some d)
      (vacant : Exclusive.Vacant d) :
      Admits policy r n ⟨d.id, r.amount n.quota⟩

namespace Ledger

/-- Where numbers are distinct, each device of a container is admitted once those before it have
been booked: it is none of them, so it stands as it stood when it was chosen. -/
theorem admits_of_mem_choose {policy : Policy} {r : Request} {n : Node}
    (hids : (n.devices.map Device.id).Nodup) {before after : List DeviceId} {id : DeviceId}
    (h : (policy.choose n.devices r).map Device.id = before ++ id :: after) :
    policy.Admits r (n.postAll (before.map (⟨·, r.amount n.quota⟩)))
      ⟨id, r.amount n.quota⟩ := by
  obtain ⟨d, hd, rfl⟩ : ∃ d ∈ policy.choose n.devices r, d.id = id :=
    List.mem_map.mp (h ▸ List.mem_append_right before List.mem_cons_self)
  have hfirst := Node.device?_of_mem hids (Policy.mem_of_mem_choose hd)
  rw [Policy.choose] at hd h
  cases hmode : r.mode with
  | share =>
      rw [hmode] at hd h
      have hroom := Share.of_choose? (Option.mem_toList.mp hd)
      -- A shared placement is on one device, so nothing has been booked before it.
      have hnil : before = [] := by
        have hlen := congrArg List.length h
        simp only [List.length_map, List.length_append, List.length_cons,
          Option.mem_toList.mp hd, Option.toList_some, List.length_nil] at hlen
        exact List.length_eq_zero_iff.mp (by omega)
      subst hnil
      exact .share hmode hfirst hroom.2
  | exclusive =>
      rw [hmode] at hd h
      have hnodup := Exclusive.nodup_choose hids r
      rw [h] at hnodup
      have hnew : d.id ∉ before := fun hmem =>
        (List.nodup_append.mp hnodup).2.2 _ hmem _ List.mem_cons_self rfl
      have hsame : (n.postAll (before.map (⟨·, r.amount n.quota⟩))).device? d.id = some d := by
        rw [Node.device?_postAll, hfirst, Entry.amountsOn_eq_nil]
        · rfl
        · intro e he heq
          obtain ⟨id, hid, rfl⟩ := List.mem_map.mp he
          exact hnew (heq ▸ hid)
      have hadmits : policy.Admits r _ _ :=
        .exclusive hmode hsame (Exclusive.of_mem_choose hd).2
      rwa [Node.quota_postAll] at hadmits

/-- Every booking for a container is one that the policy admits for its request. -/
theorem posts_bookedOne_admitted {l : Ledger} (hids : (l.node.devices.map Device.id).Nodup)
    (policy : Policy) (w : Workload) (index : Nat) (c : Container) :
    Posts (fun n e => ∃ r, w.request index c = .ok r ∧ policy.Admits r n e) l
      (bookedOne policy w index c l) (placeOne policy w index c l).state :=
  posts_placeOne fun r hr _ _ _ hsplit => ⟨r, hr, admits_of_mem_choose hids hsplit⟩

/-- Every booking for a workload is one that the policy admits for the request of one of its
containers, which asks for cores. -/
theorem posts_booked_admitted {l : Ledger} (hids : (l.node.devices.map Device.id).Nodup)
    (policy : Policy) (w : Workload) :
    Posts (fun n e => ∃ c ∈ w.containers, c.RequestsGpu ∧
      ∃ r, r.cores = c.cores ∧ policy.Admits r n e) l
      (booked policy w l) (placeAll policy w l).state := by
  refine posts_placeFrom (I := fun n => (n.devices.map Device.id).Nodup) ?_ 0 w.containers l ?_
    hids
  · intro n e hn _
    rwa [Node.map_id_post]
  · intro index c l hc hgpu hn
    refine (posts_bookedOne_admitted hn policy w index c).mono ?_
    rintro n e ⟨r, hr, hadmits⟩
    exact ⟨c, hc, hgpu, r, Workload.cores_of_request hr, hadmits⟩

end Ledger

end GpuLedger
